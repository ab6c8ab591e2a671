import Flowmeter.Handoff
import Flowmeter.Packet.Frame

/-! Batches of frames on their way to the monitor.

One dispatch of a capture backend decodes its frames into a batch. The batch is
published in two steps: first its packets are queued, then its frames are
counted, decoded or not. -/
namespace Flowmeter

/-- The packets of the frames pushed so far, and how many frames that were. -/
structure Batch where
  packets : List Packet := []
  seen : Nat := 0
  deriving DecidableEq

namespace Batch

/-- Counts the frame and keeps its packet if it decodes. -/
def push (batch : Batch) (frame : Frame) : Batch :=
  ⟨batch.packets ++ frame.packet?.toList, batch.seen + 1⟩

def ofFrames (frames : List Frame) : Batch := frames.foldl push {}

theorem foldl_push (batch : Batch) (frames : List Frame) :
    frames.foldl push batch =
      ⟨batch.packets ++ frames.filterMap Frame.packet?, batch.seen + frames.length⟩ := by
  induction frames generalizing batch with
  | nil => rw [List.filterMap_nil, List.append_nil]; rfl
  | cons frame rest ih =>
    rw [List.foldl_cons, ih, push, List.length_cons, Nat.add_assoc, Nat.add_comm 1]
    cases h : frame.packet? <;> simp [h]

theorem ofFrames_eq (frames : List Frame) :
    ofFrames frames = ⟨frames.filterMap Frame.packet?, frames.length⟩ := by
  rw [ofFrames, foldl_push, List.nil_append, Nat.zero_add]

end Batch

/-- What the capture thread and the monitor share. -/
structure Exchange where
  packets : Handoff Packet := {}
  counter : FrameCounter := {}
  deriving DecidableEq

namespace Exchange

/-- The first step of a publication. -/
def enqueue (exchange : Exchange) (batch : Batch) : Exchange :=
  { exchange with packets := exchange.packets.pushMany batch.packets }

/-- The second step of a publication. -/
def count (exchange : Exchange) (batch : Batch) : Exchange :=
  { exchange with counter := exchange.counter.add (UInt64.ofNat batch.seen) }

def publish (exchange : Exchange) (batch : Batch) : Exchange := (exchange.enqueue batch).count batch

end Exchange

end Flowmeter
