import Flowmeter.Proofs.Exchange.Pipeline

/-! How far counts and collections drift apart.

A batch is queued first and counted then, and the consumer collects first and takes the count
then. So a batch that is published between the two steps of the consumer is counted at once and
collected next time (`counted_before_collected`), but a batch that is collected between the two
steps of its producer is collected at once and counted next time (`collected_before_counted`).
The second drift is bounded: what was collected exceeds the counts taken by no more than the
frames of the batches under way when the count is taken, and not at all if there are none
(`counts_cover_collections`). What carries this is that the batches queued are those counted
and those under way (`Tallied`). -/
namespace Flowmeter

/-- How many frames batches are made of. -/
def framesOf (fillings : List Filling) : Nat := (fillings.map (·.frames.length)).sum

section Frames
variable (fillings more : List Filling)

theorem framesOf_append : framesOf (fillings ++ more) = framesOf fillings + framesOf more := by
  rw [framesOf, List.map_append, List.sum_append]
  rfl

variable {fillings more} in
theorem framesOf_perm (h : fillings.Perm more) : framesOf fillings = framesOf more :=
  (h.map _).sum_nat

variable {fillings} in
/-- A frame decodes to one packet at most. -/
theorem length_packets_le (h : ∀ filling ∈ fillings, filling.Faithful) :
    (fillings.flatMap Filling.packets).length ≤ framesOf fillings := by
  induction fillings with
  | nil => exact Nat.le_refl 0
  | cons filling rest ih =>
    have hfilling : filling.packets.length ≤ filling.frames.length := by
      rw [(h filling (List.mem_cons_self ..)).packets]
      exact List.length_filterMap_le ..
    have hrest := ih fun other hother => h other (List.mem_cons_of_mem _ hother)
    rw [List.flatMap_cons, List.length_append]
    exact Nat.add_le_add hfilling hrest

end Frames

/-! ### Publications under way -/

section Publishing
variable {ι : Type}

/-- The producers that have queued their batch and are to count it next. -/
structure Publishing (producers : ι → Producer) (publishing : List ι) : Prop where
  nodup : publishing.Nodup
  mem_iff : ∀ i, i ∈ publishing ↔ (producers i).queued = true

/-- The batches of some producers. -/
def batchesOf (producers : ι → Producer) (those : List ι) : List Filling :=
  those.map fun i => (producers i).filling

variable {producers : ι → Producer} {publishing : List ι} {i : ι}

theorem Publishing.not_mem (h : Publishing producers publishing)
    (hidle : (producers i).queued = false) : i ∉ publishing := fun hmem =>
  Bool.false_ne_true (hidle.symm.trans ((h.mem_iff i).1 hmem))

variable [DecidableEq ι] {producer : Producer}

/-- What one producer does leaves the batches of others as they are. -/
theorem batchesOf_update (h : i ∉ publishing) :
    batchesOf (Function.update producers i producer) publishing =
      batchesOf producers publishing := by
  refine List.map_congr_left fun j hj => ?_
  have hne : j ≠ i := fun heq => h (heq ▸ hj)
  rw [Function.update_of_ne hne]

namespace Publishing

variable (h : Publishing producers publishing)
include h

theorem idle (hidle : (producers i).queued = false) (hproducer : producer.queued = false) :
    Publishing (Function.update producers i producer) publishing where
  nodup := h.nodup
  mem_iff j := by
    by_cases hj : j = i
    · subst hj
      simpa [hproducer] using h.not_mem hidle
    · rw [Function.update_of_ne hj]
      exact h.mem_iff j

theorem queue (hidle : (producers i).queued = false) (hproducer : producer.queued = true) :
    Publishing (Function.update producers i producer) (i :: publishing) where
  nodup := List.nodup_cons.2 ⟨h.not_mem hidle, h.nodup⟩
  mem_iff j := by
    by_cases hj : j = i
    · subst hj
      simp [hproducer]
    · rw [Function.update_of_ne hj, List.mem_cons, or_iff_right hj]
      exact h.mem_iff j

theorem finish (hproducer : producer.queued = false) :
    Publishing (Function.update producers i producer) (publishing.erase i) where
  nodup := h.nodup.erase i
  mem_iff j := by
    rw [h.nodup.mem_erase_iff]
    by_cases hj : j = i
    · subst hj
      simp [hproducer]
    · rw [Function.update_of_ne hj, and_iff_right hj]
      exact h.mem_iff j

end Publishing

end Publishing

namespace Pipeline

variable {ι : Type}

/-- The batches queued are those counted and those under way, and no frame is counted twice. -/
structure Tallied (state : Pipeline ι) (publishing : List ι) : Prop where
  underWay : Publishing state.producers publishing
  published : (state.counted ++ batchesOf state.producers publishing).Perm state.published
  taken : (state.taken.map UInt64.toNat).sum + state.exchange.counter.frames.toNat ≤
    framesOf state.counted

theorem tallied_start : Tallied ({} : Pipeline ι) [] where
  underWay := ⟨.nil, fun _ => ⟨fun h => absurd h List.not_mem_nil, fun h => Bool.noConfusion h⟩⟩
  published := .refl _
  taken := Nat.le_refl 0

namespace Tallied

variable {state : Pipeline ι} {publishing : List ι} (h : state.Tallied publishing)
include h

theorem collect : state.collect.Tallied publishing := ⟨h.underWay, h.published, h.taken⟩

theorem take : state.take.Tallied publishing where
  underWay := h.underWay
  published := h.published
  taken := by
    show ((state.taken ++ [state.exchange.counter.frames]).map UInt64.toNat).sum + 0 ≤ _
    rw [List.map_append, List.sum_append, List.map_singleton, List.sum_singleton, Nat.add_zero]
    exact h.taken

variable [DecidableEq ι] {i : ι}

theorem push (hidle : (state.producers i).queued = false) (frame : Frame) :
    (state.push i frame).Tallied publishing where
  underWay := h.underWay.idle hidle rfl
  published := by
    rw [Pipeline.push, batchesOf_update (h.underWay.not_mem hidle)]
    exact h.published
  taken := h.taken

/-- A batch that is queued is under way. -/
theorem enqueue (hidle : (state.producers i).queued = false) :
    (state.enqueue i).Tallied (i :: publishing) where
  underWay := h.underWay.queue hidle rfl
  published := by
    have hbatches : batchesOf (state.enqueue i).producers (i :: publishing) =
        (state.producers i).filling :: batchesOf state.producers publishing := by
      rw [batchesOf, List.map_cons]
      have hown : ((state.enqueue i).producers i).filling = (state.producers i).filling := by
        simp [Pipeline.enqueue]
      exact congrArg₂ _ hown (batchesOf_update (h.underWay.not_mem hidle))
    rw [hbatches]
    exact List.perm_middle.trans
      ((h.published.cons _).trans (List.perm_append_singleton ..).symm)
  taken := h.taken

/-- A batch that is counted is no longer under way. -/
theorem count (hqueued : (state.producers i).queued = true)
    (hseen : (state.producers i).filling.batch.seen = (state.producers i).filling.frames.length) :
    (state.count i).Tallied (publishing.erase i) where
  underWay := h.underWay.finish rfl
  published := by
    have hmem : i ∈ publishing := (h.underWay.mem_iff i).2 hqueued
    have hothers : batchesOf (state.count i).producers (publishing.erase i) =
        batchesOf state.producers (publishing.erase i) :=
      batchesOf_update h.underWay.nodup.not_mem_erase
    have hbatches : (batchesOf state.producers publishing).Perm
        ((state.producers i).filling :: batchesOf state.producers (publishing.erase i)) :=
      (List.perm_cons_erase hmem).map _
    rw [hothers]
    show ((state.counted ++ [(state.producers i).filling]) ++ _).Perm _
    rw [List.append_assoc]
    exact (hbatches.symm.append_left _).trans h.published
  taken := by
    have htaken := h.taken
    simp only [Pipeline.count, Exchange.count, FrameCounter.add, framesOf_append,
      UInt64.toNat_add, UInt64.toNat_ofNat', hseen]
    have hbatch : framesOf [(state.producers i).filling] =
        (state.producers i).filling.frames.length := Nat.add_zero _
    omega

/-- Every step keeps the tally. -/
theorem next (hsound : state.Sound) (action : Action ι) :
    ∃ publishing, (state.next action).Tallied publishing := by
  cases action with
  | push i frame =>
    simp only [Pipeline.next]
    split
    · exact ⟨publishing, h⟩
    · exact ⟨publishing, h.push (Bool.eq_false_iff.2 ‹_›) frame⟩
  | enqueue i =>
    simp only [Pipeline.next]
    split
    · exact ⟨publishing, h⟩
    · exact ⟨i :: publishing, h.enqueue (Bool.eq_false_iff.2 ‹_›)⟩
  | count i =>
    simp only [Pipeline.next]
    split
    · exact ⟨publishing.erase i, h.count ‹_› (hsound.producers i).faithful.seen⟩
    · exact ⟨publishing, h⟩
  | collect =>
    simp only [Pipeline.next]
    split
    · exact ⟨publishing, h⟩
    · exact ⟨publishing, h.collect⟩
  | take =>
    simp only [Pipeline.next]
    split
    · exact ⟨publishing, h.take⟩
    · exact ⟨publishing, h⟩

theorem run (hsound : state.Sound) (schedule : List (Action ι)) :
    ∃ publishing, (state.run schedule).Tallied publishing := by
  induction schedule generalizing state publishing with
  | nil => exact ⟨publishing, h⟩
  | cons action rest ih =>
    obtain ⟨publishing, hnext⟩ := h.next hsound action
    exact ih hnext (hsound.next action)

end Tallied

/-! ### Counts against collections -/

/-- How many packets were collected. -/
def collectedSize (state : Pipeline ι) : Nat := state.drains.flatten.length

/-- What the counts taken add up to. -/
def takenSize (state : Pipeline ι) : Nat := (state.taken.map UInt64.toNat).sum

/-- What is collected was queued. -/
theorem Sound.collectedSize_le {state : Pipeline ι} (h : state.Sound) :
    state.collectedSize ≤ framesOf state.published :=
  calc state.collectedSize
    _ ≤ (state.drains.flatten ++ state.exchange.packets.items).length := by
      rw [List.length_append]
      exact Nat.le_add_right ..
    _ = (state.published.flatMap Filling.packets).length := by rw [h.delivered.packets]
    _ ≤ framesOf state.published := length_packets_le h.published

/-- The counts taken are the frames counted, right after a count is taken. -/
theorem Tallied.takenSize_take {state : Pipeline ι} {publishing : List ι}
    (h : state.Tallied publishing) (hsound : state.Sound)
    (hroom : framesOf state.counted < 2 ^ 64) :
    state.take.takenSize = framesOf state.counted := by
  have hle : state.take.takenSize + 0 ≤ framesOf state.counted := h.take.taken
  have hcounts : (state.take.takenSize + 0) % 2 ^ 64 = framesOf state.counted % 2 ^ 64 :=
    hsound.take.counts
  omega

variable [DecidableEq ι]

theorem run_take {schedule : List (Action ι)} (hturn : (run {} schedule).collected = true) :
    run ({} : Pipeline ι) (schedule ++ [.take]) = (run {} schedule).take := by
  rw [run_append, run, run, next, if_pos hturn]

/-- **Counts cover collections** but for what is under way: whenever the consumer has taken a
count, it has collected no more packets than the counts and the frames of batches under way
allow, and no more than the counts if no producer is publishing. -/
theorem counts_cover_collections (schedule : List (Action ι))
    (hturn : (run ({} : Pipeline ι) schedule).collected = true)
    (hroom : framesOf (run ({} : Pipeline ι) schedule).counted < 2 ^ 64) :
    let state := run ({} : Pipeline ι) (schedule ++ [.take])
    (∃ publishing, Publishing state.producers publishing ∧
      state.collectedSize ≤
        state.takenSize + framesOf (batchesOf state.producers publishing)) ∧
    ((∀ i, (state.producers i).queued = false) → state.collectedSize ≤ state.takenSize) := by
  have hsound : (run ({} : Pipeline ι) schedule).Sound := sound_start.run schedule
  obtain ⟨publishing, htally⟩ := tallied_start.run sound_start schedule
  have hbound : (run ({} : Pipeline ι) schedule).take.collectedSize ≤
      (run ({} : Pipeline ι) schedule).take.takenSize +
        framesOf (batchesOf (run ({} : Pipeline ι) schedule).producers publishing) := by
    rw [htally.takenSize_take hsound hroom, ← framesOf_append, framesOf_perm htally.published]
    exact hsound.take.collectedSize_le
  simp only [run_take hturn]
  refine ⟨⟨publishing, htally.underWay, hbound⟩, fun hidle => ?_⟩
  have hnone : publishing = [] := List.eq_nil_iff_forall_not_mem.2 fun i =>
    htally.underWay.not_mem (hidle i)
  subst hnone
  exact hbound

/-- A question sent over UDP. -/
def question : Frame where
  data := List.replicate 14 0 ++ [8, 0] ++
    [0x45, 0, 0, 28, 0, 0, 0, 0, 64, 17, 0, 0, 192, 168, 0, 8, 1, 1, 1, 1] ++
    [0x13, 0x88, 0, 53, 0, 8, 0, 0]
  wireLength := 44
  time := 0

/-- The consumer takes both its steps between those of a producer. -/
def caughtHalfway : List (Action Unit) := [.push () question, .enqueue (), .collect]

theorem counts_cover_collections_halfway :
    (run {} caughtHalfway).collected = true ∧ framesOf (run {} caughtHalfway).counted < 2 ^ 64 ∧
      let state := run {} (caughtHalfway ++ [.take])
      (∃ publishing, Publishing state.producers publishing ∧
        state.collectedSize ≤
          state.takenSize + framesOf (batchesOf state.producers publishing)) ∧
      ((∀ i, (state.producers i).queued = false) → state.collectedSize ≤ state.takenSize) :=
  ⟨by decide, by decide, counts_cover_collections caughtHalfway (by decide) (by decide)⟩

/-- A packet can be collected before its frame is counted. -/
theorem collected_before_counted :
    ¬ ∀ schedule : List (Action Unit), (run {} schedule).collected = true →
      (run {} (schedule ++ [.take])).collectedSize ≤ (run {} (schedule ++ [.take])).takenSize :=
  fun h => absurd (h caughtHalfway (by decide)) (by decide)

/-- A batch that is published between the two steps of the consumer is counted at once, and its
packets wait. -/
theorem counted_before_collected (state : Pipeline ι) {i : ι} (frames : List Frame)
    (hturn : state.collected = true) (hidle : state.producers i = {}) :
    let after := state.run (frames.map (.push i) ++ [.enqueue i, .count i] ++ [.take])
    after.taken = state.taken ++ [state.exchange.counter.frames + .ofNat frames.length] ∧
      after.drains = state.drains ∧
      after.exchange.packets.items =
        state.exchange.packets.items ++ frames.filterMap Frame.packet? := by
  rw [run_append, run_publication state frames hidle, run, run, next, if_pos hturn,
    Batch.ofFrames_eq]
  exact ⟨rfl, rfl, rfl⟩

end Pipeline

end Flowmeter
