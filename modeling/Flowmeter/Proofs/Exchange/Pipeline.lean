import Mathlib.Algebra.GroupWithZero.Nat
import Mathlib.Logic.Function.Basic
import Flowmeter.Monitor.Basic

/-! The way from capture to refresh.

Producers push frames to batches and publish each batch in two steps, and a consumer collects
what is queued and then takes the count. A `Pipeline` is what they share, where each of them
stands and a record of what they did; `run` lets them take steps in the order of a schedule,
where a step whose turn it is not does nothing. Every step keeps a pipeline `Sound`
(`Sound.next`), and what is sound is `Delivered`: nothing is lost, repeated or reordered on
the way, under any schedule (`every_schedule_delivers`). The steps are those of the program:
taken in one go they are a publication (`run_publication`) and what a refresh does to the
exchange (`run_collection`). -/
namespace Flowmeter

/-- A batch and the frames that were pushed to it. -/
structure Filling where
  frames : List Frame := []
  batch : Batch := {}

namespace Filling

/-- What the batch tells the consumer. -/
def packets (filling : Filling) : List Packet := filling.batch.packets

def push (filling : Filling) (frame : Frame) : Filling :=
  ⟨filling.frames ++ [frame], filling.batch.push frame⟩

/-- The batch has the packets of its frames, in order, and has seen every frame. -/
structure Faithful (filling : Filling) : Prop where
  packets : filling.packets = filling.frames.filterMap Frame.packet?
  seen : filling.batch.seen = filling.frames.length

theorem foldl_push (filling : Filling) (frames : List Frame) :
    frames.foldl push filling =
      ⟨filling.frames ++ frames, frames.foldl Batch.push filling.batch⟩ := by
  induction frames generalizing filling with
  | nil => rw [List.append_nil]; rfl
  | cons frame rest ih =>
    rw [List.foldl_cons, ih, push, List.append_assoc]
    rfl

theorem faithful_empty : Faithful {} := ⟨rfl, rfl⟩

theorem Faithful.push {filling : Filling} (h : filling.Faithful) (frame : Frame) :
    (filling.push frame).Faithful where
  packets := by
    show filling.packets ++ frame.packet?.toList =
      (filling.frames ++ [frame]).filterMap Frame.packet?
    rw [h.packets, List.filterMap_append]
    cases hpacket : frame.packet? <;> simp [hpacket]
  seen := by
    show filling.batch.seen + 1 = (filling.frames ++ [frame]).length
    rw [h.seen, List.length_append, List.length_singleton]

end Filling

/-- One that fills batches and publishes them. -/
structure Producer where
  filling : Filling := {}
  /-- The packets are queued, and the frames are to be counted next. -/
  queued : Bool := false

/-- The batch is made of its frames, and it is among those queued if its packets are. -/
structure Producer.Sound (published : List Filling) (producer : Producer) : Prop where
  faithful : producer.filling.Faithful
  queued : producer.queued = true → producer.filling ∈ published

theorem Producer.sound_start (published : List Filling) : Producer.Sound published {} :=
  ⟨Filling.faithful_empty, fun h => Bool.noConfusion h⟩

theorem Producer.Sound.append {published : List Filling} {producer : Producer}
    (h : producer.Sound published) (filling : Filling) :
    producer.Sound (published ++ [filling]) :=
  ⟨h.faithful, fun hqueued => List.mem_append_left _ (h.queued hqueued)⟩

/-- A step that one of the producers or the consumer takes. -/
inductive Action (ι : Type)
  /-- A producer pushes a frame to its batch. -/
  | push (producer : ι) (frame : Frame)
  /-- A producer queues the packets of its batch. -/
  | enqueue (producer : ι)
  /-- A producer counts the frames of the batch it queued, and starts another. -/
  | count (producer : ι)
  /-- The consumer swaps what is queued with an empty buffer. -/
  | collect
  /-- The consumer takes the count. -/
  | take

/-- What producers and a consumer share, where they stand, and what they did so far. -/
structure Pipeline (ι : Type) where
  exchange : Exchange := {}
  producers : ι → Producer := fun _ => {}
  /-- The consumer has collected, and is to take the count next. -/
  collected : Bool := false
  /-- The batches queued, in order. -/
  published : List Filling := []
  /-- The batches whose frames are counted, in order. -/
  counted : List Filling := []
  /-- What was collected, time after time. -/
  drains : List (List Packet) := []
  /-- The counts taken. -/
  taken : List UInt64 := []

namespace Pipeline

variable {ι : Type}

/-! ### Steps -/

section Consumer
variable (state : Pipeline ι)

def collect : Pipeline ι :=
  let (drained, packets) := state.exchange.packets.swap []
  { state with
    exchange := { state.exchange with packets }
    collected := true
    drains := state.drains ++ [drained] }

def take : Pipeline ι :=
  let (frames, counter) := state.exchange.counter.take
  { state with
    exchange := { state.exchange with counter }
    collected := false
    taken := state.taken ++ [frames] }

end Consumer

variable [DecidableEq ι]

section Producers
variable (state : Pipeline ι)

def push (i : ι) (frame : Frame) : Pipeline ι :=
  { state with
    producers := Function.update state.producers i
      { filling := (state.producers i).filling.push frame } }

def enqueue (i : ι) : Pipeline ι :=
  let filling := (state.producers i).filling
  { state with
    exchange := state.exchange.enqueue filling.batch
    producers := Function.update state.producers i { filling, queued := true }
    published := state.published ++ [filling] }

def count (i : ι) : Pipeline ι :=
  let filling := (state.producers i).filling
  { state with
    exchange := state.exchange.count filling.batch
    producers := Function.update state.producers i {}
    counted := state.counted ++ [filling] }

/-- One step, if it is its turn. -/
def next : Action ι → Pipeline ι
  | .push i frame => if (state.producers i).queued then state else state.push i frame
  | .enqueue i => if (state.producers i).queued then state else state.enqueue i
  | .count i => if (state.producers i).queued then state.count i else state
  | .collect => if state.collected then state else state.collect
  | .take => if state.collected then state.take else state

/-- The steps one after the other. -/
def run (state : Pipeline ι) : List (Action ι) → Pipeline ι
  | [] => state
  | action :: rest => run (state.next action) rest

theorem run_append (state : Pipeline ι) (schedule more : List (Action ι)) :
    state.run (schedule ++ more) = (state.run schedule).run more := by
  induction schedule generalizing state with
  | nil => rfl
  | cons action rest ih => exact ih _

end Producers

/-! ### What every step keeps -/

section Keeps
omit [DecidableEq ι]

/-- The batches queued fall into those collected together, time after time, and those that
are still queued. -/
structure Grouped (state : Pipeline ι) (groups : List (List Filling)) (pending : List Filling) :
    Prop where
  published : groups.flatten ++ pending = state.published
  drains : state.drains = groups.map (·.flatMap Filling.packets)
  queue : state.exchange.packets.items = pending.flatMap Filling.packets

/-- What is so at every moment. -/
structure Sound (state : Pipeline ι) : Prop where
  producers : ∀ i, (state.producers i).Sound state.published
  published : ∀ filling ∈ state.published, filling.Faithful
  counted : ∀ filling ∈ state.counted, filling ∈ state.published
  grouped : ∃ groups pending, state.Grouped groups pending
  counts : ((state.taken.map UInt64.toNat).sum + state.exchange.counter.frames.toNat) % 2 ^ 64 =
    (state.counted.map (·.frames.length)).sum % 2 ^ 64

theorem sound_start : Sound ({} : Pipeline ι) where
  producers _ := Producer.sound_start []
  published _ h := by cases h
  counted _ h := by cases h
  grouped := ⟨[], [], rfl, rfl, rfl⟩
  counts := rfl

/-- What is pending is collected together. -/
theorem Sound.collect {state : Pipeline ι} (h : state.Sound) : state.collect.Sound where
  producers := h.producers
  published := h.published
  counted := h.counted
  grouped := by
    obtain ⟨groups, pending, hgrouped⟩ := h.grouped
    refine ⟨groups ++ [pending], [], ?_, ?_, rfl⟩
    · rw [List.append_nil, List.flatten_append, List.flatten_singleton, hgrouped.published]
      rfl
    · rw [List.map_append, ← hgrouped.drains, List.map_singleton, ← hgrouped.queue]
      rfl
  counts := h.counts

theorem Sound.take {state : Pipeline ι} (h : state.Sound) : state.take.Sound where
  producers := h.producers
  published := h.published
  counted := h.counted
  grouped := by
    obtain ⟨groups, pending, hgrouped⟩ := h.grouped
    exact ⟨groups, pending, hgrouped.published, hgrouped.drains, hgrouped.queue⟩
  counts := by
    show (((state.taken ++ [state.exchange.counter.frames]).map UInt64.toNat).sum + 0) % 2 ^ 64 = _
    rw [List.map_append, List.sum_append, List.map_singleton, List.sum_singleton, Nat.add_zero]
    exact h.counts

end Keeps

/-- What one producer keeps and the others have, all have. -/
theorem forall_update {P : Producer → Prop} {producers : ι → Producer} {i : ι}
    {producer : Producer} (hi : P producer) (h : ∀ j, P (producers j)) (j : ι) :
    P (Function.update producers i producer j) :=
  (Function.forall_update_iff producers fun _ => P).2 ⟨hi, fun j _ => h j⟩ j

namespace Sound

variable {state : Pipeline ι} (h : state.Sound)
include h

theorem push (i : ι) (frame : Frame) : (state.push i frame).Sound where
  producers := forall_update
    ⟨(h.producers i).faithful.push frame, fun hqueued => Bool.noConfusion hqueued⟩ h.producers
  published := h.published
  counted := h.counted
  grouped := by
    obtain ⟨groups, pending, hgrouped⟩ := h.grouped
    exact ⟨groups, pending, hgrouped.published, hgrouped.drains, hgrouped.queue⟩
  counts := h.counts

/-- What is queued is pending. -/
theorem enqueue (i : ι) : (state.enqueue i).Sound where
  producers := forall_update
    ⟨(h.producers i).faithful, fun _ => List.mem_append_right _ (List.mem_singleton_self _)⟩
    fun j => (h.producers j).append _
  published := by
    intro filling hfilling
    rcases List.mem_append.1 hfilling with hold | hnew
    · exact h.published filling hold
    · exact List.mem_singleton.1 hnew ▸ (h.producers i).faithful
  counted := fun filling hfilling => List.mem_append_left _ (h.counted filling hfilling)
  grouped := by
    obtain ⟨groups, pending, hgrouped⟩ := h.grouped
    refine ⟨groups, pending ++ [(state.producers i).filling], ?_, hgrouped.drains, ?_⟩
    · rw [← List.append_assoc, hgrouped.published]
      rfl
    · rw [List.flatMap_append, ← hgrouped.queue, List.flatMap_singleton]
      rfl
  counts := h.counts

/-- The count rises by the frames of a batch that is queued. -/
theorem count (i : ι) (hqueued : (state.producers i).queued = true) : (state.count i).Sound where
  producers := forall_update (Producer.sound_start _) h.producers
  published := h.published
  counted := by
    intro filling hfilling
    rcases List.mem_append.1 hfilling with hold | hnew
    · exact h.counted filling hold
    · exact List.mem_singleton.1 hnew ▸ (h.producers i).queued hqueued
  grouped := by
    obtain ⟨groups, pending, hgrouped⟩ := h.grouped
    exact ⟨groups, pending, hgrouped.published, hgrouped.drains, hgrouped.queue⟩
  counts := by
    have hcounts := h.counts
    have hseen := (h.producers i).faithful.seen
    simp only [Pipeline.count, Exchange.count, FrameCounter.add, List.map_append, List.sum_append,
      List.map_cons, List.map_nil, List.sum_singleton, UInt64.toNat_add, UInt64.toNat_ofNat', hseen]
    omega

/-- **Every step keeps a pipeline sound.** -/
theorem next (action : Action ι) : (state.next action).Sound := by
  cases action with
  | push i frame =>
    simp only [Pipeline.next]
    split
    · exact h
    · exact h.push i frame
  | enqueue i =>
    simp only [Pipeline.next]
    split
    · exact h
    · exact h.enqueue i
  | count i =>
    simp only [Pipeline.next]
    split
    · exact h.count i ‹_›
    · exact h
  | collect =>
    simp only [Pipeline.next]
    split
    · exact h
    · exact h.collect
  | take =>
    simp only [Pipeline.next]
    split
    · exact h.take
    · exact h

theorem run (schedule : List (Action ι)) : (state.run schedule).Sound := by
  induction schedule generalizing state with
  | nil => exact h
  | cons action rest ih => exact ih (h.next action)

end Sound

/-! ### What arrives -/

section Arrives
omit [DecidableEq ι]

/-- An item of a list that falls into groups is in one of them, or behind them all. -/
theorem split_groups {α : Type} {groups : List (List α)} {pending before after : List α} {item : α}
    (h : groups.flatten ++ pending = before ++ item :: after) :
    (∃ earlier left right later, groups = earlier ++ (left ++ item :: right) :: later ∧
      earlier.flatten ++ left = before) ∨
    ∃ left right, pending = left ++ item :: right ∧ groups.flatten ++ left = before := by
  induction groups generalizing before with
  | nil => exact .inr ⟨before, after, h, rfl⟩
  | cons group rest ih =>
    -- Either the item comes behind the first group, or it is in it.
    have behind (before' : List α) (hbefore : before = group ++ before')
        (hrest : rest.flatten ++ pending = before' ++ item :: after) :
        (∃ earlier left right later, group :: rest = earlier ++ (left ++ item :: right) :: later ∧
          earlier.flatten ++ left = before) ∨
        ∃ left right, pending = left ++ item :: right ∧
          (group :: rest).flatten ++ left = before := by
      rcases ih hrest with ⟨earlier, left, right, later, rfl, rfl⟩ | ⟨left, right, rfl, rfl⟩
      · refine .inl ⟨group :: earlier, left, right, later, rfl, ?_⟩
        rw [hbefore, List.flatten_cons, List.append_assoc]
      · refine .inr ⟨left, right, rfl, ?_⟩
        rw [hbefore, List.flatten_cons, List.append_assoc]
    rw [List.flatten_cons, List.append_assoc, List.append_eq_append_iff] at h
    rcases h with ⟨before', hbefore, hrest⟩ | ⟨inside, hgroup, hrest⟩
    · exact behind before' hbefore hrest
    · cases inside with
      | nil =>
        rw [List.append_nil] at hgroup
        exact behind [] (by rw [hgroup, List.append_nil]) hrest.symm
      | cons first right =>
        obtain ⟨rfl, -⟩ := List.cons.inj hrest
        exact .inl ⟨[], before, right, rest, by rw [hgroup, List.nil_append], rfl⟩

/-- Nothing is lost, repeated or reordered between those who publish and the one who
collects. -/
structure Delivered (state : Pipeline ι) : Prop where
  /-- What was collected and what is queued are the packets of the batches, in the order in which
  the batches were queued. -/
  packets : state.drains.flatten ++ state.exchange.packets.items =
    state.published.flatMap Filling.packets
  decoded : ∀ filling ∈ state.published,
    filling.packets = filling.frames.filterMap Frame.packet?
  /-- A batch stands whole at its place in what was collected at one time, or in what is queued. -/
  whole : ∀ before filling after, state.published = before ++ filling :: after →
    (∃ earlier left right later,
      state.drains = earlier ++ (left ++ filling.packets ++ right) :: later ∧
      earlier.flatten ++ left = before.flatMap Filling.packets) ∨
    ∃ left right, state.exchange.packets.items = left ++ filling.packets ++ right ∧
      state.drains.flatten ++ left = before.flatMap Filling.packets
  /-- Only batches that were queued are counted. -/
  counted : ∀ filling ∈ state.counted, filling ∈ state.published
  /-- The counts taken and the one not taken make up the frames of the batches counted. -/
  counts : ((state.taken.map UInt64.toNat).sum + state.exchange.counter.frames.toNat) % 2 ^ 64 =
    (state.counted.map (·.frames.length)).sum % 2 ^ 64

/-- The packets of groups, group by group. -/
theorem flatten_collected (groups : List (List Filling)) :
    (groups.map (·.flatMap Filling.packets)).flatten = groups.flatten.flatMap Filling.packets := by
  rw [List.flatMap_def, List.map_flatten, List.flatten_flatten, List.map_map]
  rfl

theorem flatMap_split (left right : List Filling) (filling : Filling) :
    (left ++ filling :: right).flatMap Filling.packets =
      left.flatMap Filling.packets ++ filling.packets ++ right.flatMap Filling.packets := by
  rw [List.flatMap_append, List.flatMap_cons, List.append_assoc]

/-- **What is sound is delivered.** -/
theorem Sound.delivered {state : Pipeline ι} (h : state.Sound) : state.Delivered := by
  obtain ⟨groups, pending, hgrouped⟩ := h.grouped
  exact {
    packets := by
      rw [hgrouped.drains, flatten_collected, hgrouped.queue, ← List.flatMap_append,
        hgrouped.published]
    decoded := fun filling hfilling => (h.published filling hfilling).packets
    whole := by
      intro before filling after hpublished
      rw [hgrouped.drains, hgrouped.queue]
      rcases split_groups (hgrouped.published.trans hpublished) with
        ⟨earlier, left, right, later, rfl, rfl⟩ | ⟨left, right, rfl, rfl⟩
      · refine .inl ⟨earlier.map (·.flatMap Filling.packets), left.flatMap Filling.packets,
          right.flatMap Filling.packets, later.map (·.flatMap Filling.packets), ?_, ?_⟩
        · rw [List.map_append, List.map_cons, flatMap_split]
        · rw [flatten_collected, List.flatMap_append]
      · refine .inr ⟨left.flatMap Filling.packets, right.flatMap Filling.packets, ?_, ?_⟩
        · rw [flatMap_split]
        · rw [flatten_collected, List.flatMap_append]
    counted := h.counted
    counts := h.counts }

end Arrives

/-- **Every schedule delivers.** Whatever producers and the consumer do, and in whatever order
their steps come, nothing is lost, repeated or reordered on the way. -/
theorem every_schedule_delivers (schedule : List (Action ι)) :
    (run ({} : Pipeline ι) schedule).Delivered :=
  (sound_start.run schedule).delivered

/-! ### Undisturbed

Without steps of others in between, the steps of a publication are `Exchange.publish`, and those
of the consumer are what a monitor does when it refreshes. -/

section Undisturbed
variable (state : Pipeline ι)

/-- Pushes are seen in the producer's batch only. -/
theorem run_push {i : ι} {filling : Filling} (frames : List Frame)
    (hturn : state.producers i = { filling }) :
    state.run (frames.map (.push i)) =
      { state with
        producers := Function.update state.producers i
          { filling := frames.foldl Filling.push filling } } := by
  induction frames generalizing state filling with
  | nil =>
    show state = { state with producers := Function.update state.producers i { filling } }
    rw [← hturn, Function.update_eq_self]
  | cons frame rest ih =>
    have hpush : state.next (.push i frame) = state.push i frame := by
      rw [next, hturn]
      rfl
    have hproducer : (state.push i frame).producers i = { filling := filling.push frame } := by
      rw [push, hturn]
      exact Function.update_self ..
    rw [List.map_cons, run, hpush, ih _ hproducer, push, Function.update_idem]
    rfl

/-- A publication adds the batch of its frames, and leaves the producer as it was. -/
theorem run_publication {i : ι} (frames : List Frame) (hidle : state.producers i = {}) :
    state.run (frames.map (.push i) ++ [.enqueue i, .count i]) =
      { state with
        exchange := state.exchange.publish (.ofFrames frames)
        published := state.published ++ [⟨frames, .ofFrames frames⟩]
        counted := state.counted ++ [⟨frames, .ofFrames frames⟩] } := by
  rw [run_append, run_push state frames hidle, Filling.foldl_push]
  have hproducers : Function.update state.producers i {} = state.producers := by
    rw [← hidle, Function.update_eq_self]
  simp only [run, next, enqueue, count, Function.update_self, Function.update_idem, hproducers,
    Bool.false_eq_true, if_false, if_true]
  rfl

/-- A collection is what a monitor does to the exchange when it refreshes. -/
theorem run_collection {monitor : Monitor} (hexchange : state.exchange = monitor.exchange)
    (hturn : state.collected = false) :
    state.run [.collect, .take] =
      { state with
        exchange := monitor.clearBuffer.swapBuffer.takeFrames.2.exchange
        drains := state.drains ++ [monitor.clearBuffer.swapBuffer.buffer]
        taken := state.taken ++ [monitor.clearBuffer.swapBuffer.takeFrames.1] } := by
  have hcollect : state.next .collect = state.collect := by
    rw [next, hturn]
    rfl
  have htake : state.collect.next .take = state.collect.take := rfl
  rw [run, run, run, hcollect, htake, hturn]
  unfold take collect
  rw [hexchange]
  rfl

end Undisturbed

end Pipeline

end Flowmeter
