/-! What is handed from one thread to another.

A `Handoff` is a queue that one side appends to and the other empties in one
step, so a batch is collected whole or not at all. A `FrameCounter` counts
frames and is read and reset in one step; it wraps at 2⁶⁴. -/
namespace Flowmeter

/-- Items appended and not collected yet, oldest first. -/
structure Handoff (α : Type) where
  items : List α := []
  deriving DecidableEq

namespace Handoff

variable {α : Type}

def push (queue : Handoff α) (item : α) : Handoff α := ⟨queue.items ++ [item]⟩

def pushMany (queue : Handoff α) (items : List α) : Handoff α := ⟨queue.items ++ items⟩

/-- The items, and the queue without them. -/
def drain (queue : Handoff α) : List α × Handoff α := (queue.items, ⟨[]⟩)

/-- Swaps the items with a buffer. What the buffer held is queued, so it should be empty. -/
def swap (queue : Handoff α) (buffer : List α) : List α × Handoff α := (queue.items, ⟨buffer⟩)

end Handoff

/-- Frames counted since the last reading. -/
structure FrameCounter where
  frames : UInt64 := 0
  deriving DecidableEq

namespace FrameCounter

def add (counter : FrameCounter) (frames : UInt64) : FrameCounter := ⟨counter.frames + frames⟩

/-- The count, and the counter reset. -/
def take (counter : FrameCounter) : UInt64 × FrameCounter := (counter.frames, ⟨0⟩)

end FrameCounter

end Flowmeter
