import Mathlib.Algebra.GroupWithZero.Nat
import Mathlib.Data.List.Forall2
import Mathlib.Data.List.Permutation
import Flowmeter.View

/-! What is shown of a cycle, and in which order.

`Arranged` says what it is to put values in order by an amount: none is lost or added, the amounts
go one way, and values of one amount stay as they were. Sorting does this in both orders
(`arranged_sorted`), so processes of equal traffic keep their order and hosts of equal traffic
stand by address. A limit comes after the sorting: the hosts of a view are the first ones of an
order that the limit does not enter (`ProcessView.Leads`). -/
namespace Flowmeter

namespace SortOrder

/-- A value of the first amount may stand in front of one of the second. -/
def Allows : SortOrder → Nat → Nat → Prop
  | ascending, a, b => a ≤ b
  | descending, a, b => b ≤ a

/-- A value of the first amount has to stand in front of one of the second. -/
def Prefers : SortOrder → Nat → Nat → Prop
  | ascending, a, b => a < b
  | descending, a, b => b < a

variable {order : SortOrder} {a b : Nat}

theorem Allows.trans {c : Nat} (hab : order.Allows a b) (hbc : order.Allows b c) :
    order.Allows a c := by
  cases order with
  | ascending => exact Nat.le_trans hab hbc
  | descending => exact Nat.le_trans hbc hab

theorem allows_total (order : SortOrder) (a b : Nat) : order.Allows a b ∨ order.Allows b a := by
  cases order with
  | ascending => exact Nat.le_total a b
  | descending => exact Nat.le_total b a

theorem allows_of_eq (h : a = b) : order.Allows a b := by
  cases order with
  | ascending => exact Nat.le_of_eq h
  | descending => exact Nat.le_of_eq h.symm

theorem Allows.prefers_or_eq (h : order.Allows a b) : order.Prefers a b ∨ a = b := by
  cases order with
  | ascending => exact Nat.lt_or_eq_of_le h
  | descending => exact (Nat.lt_or_eq_of_le h).imp_right Eq.symm

theorem Prefers.asymm (h : order.Prefers a b) : ¬order.Prefers b a := by
  cases order with
  | ascending => exact Nat.lt_asymm h
  | descending => exact Nat.lt_asymm h

theorem Prefers.ne (h : order.Prefers a b) : a ≠ b := by
  cases order with
  | ascending => exact Nat.ne_of_lt h
  | descending => exact Nat.ne_of_gt h

theorem compare_ne_gt_iff {a b : UInt64} :
    order.compare a b ≠ .gt ↔ order.Allows a.toNat b.toNat := by
  have hcompare (a b : UInt64) : Ord.compare a b ≠ .gt ↔ a.toNat ≤ b.toNat := by
    rw [← UInt64.le_iff_toNat_le, ← Std.isLE_compare, ne_eq, Ordering.ne_gt_iff_isLE]
  cases order with
  | ascending => exact hcompare a b
  | descending => exact hcompare b a

end SortOrder

/-! ### Values in order -/

/-- The values in order by their amounts; those of one amount keep their order. -/
structure Arranged {α : Type} (order : SortOrder) (amount : α → Nat) (given arranged : List α) :
    Prop where
  perm : arranged.Perm given
  ordered : arranged.Pairwise fun a b => order.Allows (amount a) (amount b)
  stable : ∀ n, arranged.filter (amount · = n) = given.filter (amount · = n)

namespace Arranged
variable {α : Type} {order : SortOrder} {amount : α → Nat} {given arranged : List α}

/-- What holds of values of one amount as they were given holds of them as they are arranged. -/
theorem ties (h : Arranged order amount given arranged) {R : α → α → Prop}
    (hgiven : given.Pairwise R) : arranged.Pairwise fun a b => amount a = amount b → R a b := by
  rw [List.pairwise_iff_forall_sublist]
  intro a b hsub hamount
  have hties : [a, b].Sublist (given.filter (amount · = amount a)) := by
    rw [← h.stable]
    simpa [hamount] using hsub.filter (amount · = amount a)
  exact List.pairwise_iff_forall_sublist.1 (hgiven.filter _) hties

theorem congr {other : α → Nat} (h : Arranged order amount given arranged)
    (hamount : ∀ a ∈ given, amount a = other a) : Arranged order other given arranged where
  perm := h.perm
  ordered := by
    refine h.ordered.imp_of_mem fun ha hb hab => ?_
    rwa [← hamount _ (h.perm.mem_iff.1 ha), ← hamount _ (h.perm.mem_iff.1 hb)]
  stable n := by
    have hgiven : given.filter (amount · = n) = given.filter (other · = n) :=
      List.filter_congr fun a ha => by rw [hamount a ha]
    have harranged : arranged.filter (amount · = n) = arranged.filter (other · = n) :=
      List.filter_congr fun a ha => by rw [hamount a (h.perm.mem_iff.1 ha)]
    rw [← hgiven, ← harranged, h.stable]

end Arranged

namespace ViewOptions
variable {α : Type} (options : ViewOptions)

/-- **Sorting arranges**, in both orders. -/
theorem arranged_sorted (traffic : α → UInt64) (values : List α) :
    Arranged options.order (fun a => (traffic a).toNat) values (options.sorted traffic values) := by
  let amount (a : α) : Nat := (traffic a).toNat
  let le (a b : α) : Bool := options.order.compare (traffic a) (traffic b) ≠ .gt
  have hle (a b : α) :
      le a b = true ↔ options.order.Allows (amount a) (amount b) := by
    rw [← SortOrder.compare_ne_gt_iff, decide_eq_true_eq]
  have htrans (a b c : α) (hab : le a b = true) (hbc : le b c = true) : le a c = true :=
    (hle a c).2 (((hle a b).1 hab).trans ((hle b c).1 hbc))
  have htotal (a b : α) : (le a b || le b a) = true := by
    rw [Bool.or_eq_true, hle, hle]
    exact options.order.allows_total _ _
  exact {
    perm := List.mergeSort_perm values le
    ordered := (List.pairwise_mergeSort htrans htotal values).imp fun h => (hle _ _).1 h
    stable := by
      intro n
      -- Values of one amount are sorted already, so they are a sublist of what is sorted.
      have hties : (values.filter (amount · = n)).Pairwise fun a b => le a b = true := by
        have hamount {a : α} (ha : a ∈ values.filter (amount · = n)) : amount a = n := by
          simpa using List.of_mem_filter ha
        exact List.pairwise_of_forall_mem_list fun a ha b hb =>
          (hle a b).2 (SortOrder.allows_of_eq ((hamount ha).trans (hamount hb).symm))
      have hsub := (List.sublist_mergeSort htrans htotal hties List.filter_sublist).filter
        (amount · = n)
      simp only [List.filter_filter, Bool.and_self] at hsub
      have hlength := ((List.mergeSort_perm values le).filter (amount · = n)).length_eq
      exact (hsub.eq_of_length hlength.symm).symm }

theorem map_sorted {β : Type} (f : α → β) (traffic : β → UInt64) (values : List α) :
    (options.sorted (fun a => traffic (f a)) values).map f =
      options.sorted traffic (values.map f) :=
  List.map_mergeSort fun _ _ _ _ => rfl

end ViewOptions

/-! ### Traffic in full -/

/-- All bytes exchanged with a host, as a number that does not wrap. -/
def HostTraffic.volume (traffic : HostTraffic) : Nat := traffic.recv.toNat + traffic.sent.toNat

/-- All bytes of a process, as a number that does not wrap. -/
def ProcessTraffic.volume (traffic : ProcessTraffic) : Nat :=
  traffic.recv.toNat + traffic.sent.toNat

/-- 64 bits have room for the totals of the process and of its hosts. -/
structure ProcessTraffic.HasRoom (traffic : ProcessTraffic) : Prop where
  process : traffic.volume < 2 ^ 64
  hosts : ∀ host ∈ traffic.hosts.entries, host.2.volume < 2 ^ 64

theorem HostTraffic.toNat_total {traffic : HostTraffic} (h : traffic.volume < 2 ^ 64) :
    traffic.total.toNat = traffic.volume := by
  rw [volume] at h ⊢
  rw [total, UInt64.toNat_add, Nat.mod_eq_of_lt h]

theorem ProcessTraffic.toNat_total {traffic : ProcessTraffic} (h : traffic.volume < 2 ^ 64) :
    traffic.total.toNat = traffic.volume := by
  rw [volume] at h ⊢
  rw [total, UInt64.toNat_add, Nat.mod_eq_of_lt h]

/-- A host stands in front of another: it is preferred, or they are equal and its address is
lower. -/
def SortOrder.Leads (order : SortOrder) (a b : Address × HostTraffic) : Prop :=
  order.Prefers a.2.volume b.2.volume ∨ a.2.volume = b.2.volume ∧ rank a.1 < rank b.1

/-- The hosts of the view are the first ones of these, which are the hosts of its process in
order; there are as many of them as the limit lets through. -/
structure ProcessView.Shows (view : ProcessView) (options : ViewOptions)
    (hosts : List (Address × HostTraffic)) : Prop where
  perm : hosts.Perm view.process.hosts.entries
  ordered : hosts.Pairwise options.order.Leads
  first : view.hosts <+: hosts
  all : options.hostLimit = 0 → view.hosts = hosts ∧ view.hidden = 0
  limited : options.hostLimit ≠ 0 →
    view.hosts.length = min options.hostLimit.toNat view.process.hosts.size ∧
    view.hidden = view.process.hosts.size - min options.hostLimit.toNat view.process.hosts.size

/-- A host that is left out is not preferred to one that is shown. -/
theorem ProcessView.Shows.not_prefers {view : ProcessView} {options : ViewOptions}
    {hosts : List (Address × HostTraffic)} (h : view.Shows options hosts)
    {shown hidden : Address × HostTraffic} (hshown : shown ∈ view.hosts)
    (hhidden : hidden ∈ view.process.hosts.entries) (hout : hidden ∉ view.hosts) :
    ¬options.order.Prefers hidden.2.volume shown.2.volume := by
  obtain ⟨rest, hsplit⟩ := h.first
  have hrest : hidden ∈ rest := by
    have hmem : hidden ∈ view.hosts ++ rest := hsplit ▸ h.perm.mem_iff.2 hhidden
    exact (List.mem_append.1 hmem).resolve_left hout
  have hleads : options.order.Leads shown hidden :=
    (List.pairwise_append.1 (hsplit ▸ h.ordered)).2.2 shown hshown hidden hrest
  rcases hleads with hprefers | ⟨heq, -⟩
  · exact hprefers.asymm
  · exact fun hprefers => hprefers.ne heq.symm

namespace ViewOptions
variable (options : ViewOptions)

/-- The processes that are shown. -/
def kept (processes : List ProcessTraffic) : List ProcessTraffic :=
  if options.hideIdle then processes.filter (0 < ·.volume) else processes

/-- The hosts of a process in the order in which they are shown. -/
def hostOrder (process : ProcessTraffic) : List (Address × HostTraffic) :=
  options.sorted (·.2.total) process.hosts.entries

variable {process : ProcessTraffic} {processes : List ProcessTraffic}

/-- Processes are put in order first, and the limit is applied to the hosts of each. -/
theorem views_eq : options.views processes =
    (options.sorted ProcessTraffic.total
      (processes.filter fun process => !options.hideIdle || 0 < process.total)).map
        options.view :=
  (options.map_sorted options.view (·.process.total) _).symm

theorem map_process_views : (options.views processes).map (·.process) =
    options.sorted ProcessTraffic.total
      (processes.filter fun process => !options.hideIdle || 0 < process.total) := by
  rw [options.views_eq, List.map_map]
  exact List.map_id _

theorem hosts_view : (options.view process).hosts =
    if options.hostLimit = 0 then options.hostOrder process
    else (options.hostOrder process).take options.hostLimit.toNat := by
  have hzero : options.hostLimit = 0 ↔ options.hostLimit.toNat = 0 := by
    rw [← UInt64.toNat_inj]
    rfl
  simp only [view, hzero]
  rfl

theorem isPrefix_hosts : (options.view process).hosts <+: options.hostOrder process := by
  rw [hosts_view]
  split
  · exact List.prefix_rfl
  · exact List.take_prefix _ _

/-- Shown or hidden, no host is lost. -/
theorem hidden_view : (options.view process).hidden =
    (options.hostOrder process).length - (options.view process).hosts.length := rfl

/-! ### What is shown -/

theorem kept_eq (h : ∀ process ∈ processes, process.HasRoom) :
    options.kept processes =
      processes.filter fun process => !options.hideIdle || 0 < process.total := by
  have hpositive : ∀ process ∈ processes,
      (0 < process.total ↔ 0 < process.volume) := fun process hmem => by
    rw [UInt64.lt_iff_toNat_lt, ProcessTraffic.toNat_total (h process hmem).process]
    rfl
  rw [kept]
  cases options.hideIdle with
  | false => simp
  | true => exact List.filter_congr fun process hmem => by simp [hpositive process hmem]

theorem arranged_views (h : ∀ process ∈ processes, process.HasRoom) :
    Arranged options.order ProcessTraffic.volume (options.kept processes)
      ((options.views processes).map (·.process)) := by
  rw [map_process_views, options.kept_eq h]
  refine (options.arranged_sorted ProcessTraffic.total _).congr fun process hmem => ?_
  exact ProcessTraffic.toNat_total (h process (List.mem_of_mem_filter hmem)).process

theorem arranged_hostOrder (h : process.HasRoom) :
    Arranged options.order (·.2.volume) process.hosts.entries (options.hostOrder process) :=
  (options.arranged_sorted (·.2.total) process.hosts.entries).congr fun host hhost =>
    HostTraffic.toNat_total (h.hosts host hhost)

/-- Hosts of equal traffic stand by address, in both orders. -/
theorem pairwise_hostOrder (h : process.HasRoom) :
    (options.hostOrder process).Pairwise options.order.Leads := by
  have harranged := options.arranged_hostOrder h
  refine (harranged.ordered.and (harranged.ties process.hosts.ascending)).imp ?_
  rintro a b ⟨hallows, htie⟩
  rcases hallows.prefers_or_eq with hprefers | heq
  · exact .inl hprefers
  · exact .inr ⟨heq, htie heq⟩

theorem shows_view (h : process.HasRoom) :
    (options.view process).Shows options (options.hostOrder process) := by
  have hperm := (options.arranged_hostOrder h).perm
  have hlength : (options.hostOrder process).length = process.hosts.size := hperm.length_eq
  exact {
    perm := hperm
    ordered := options.pairwise_hostOrder h
    first := options.isPrefix_hosts
    all := by
      intro hzero
      rw [hidden_view, hosts_view, if_pos hzero, Nat.sub_self]
      exact ⟨rfl, rfl⟩
    limited := by
      intro hlimit
      have hcount : (options.view process).hosts.length =
          min options.hostLimit.toNat process.hosts.size := by
        rw [hosts_view, if_neg hlimit, List.length_take, hlength]
      exact ⟨hcount, by rw [hidden_view, hcount, hlength]; rfl⟩ }

theorem exists_of_mem_views (h : ∀ process ∈ processes, process.HasRoom) {view : ProcessView}
    (hview : view ∈ options.views processes) :
    ∃ process, process.HasRoom ∧ options.view process = view := by
  rw [views_eq, List.mem_map] at hview
  obtain ⟨process, hprocess, rfl⟩ := hview
  have hmem := (options.arranged_sorted ProcessTraffic.total _).perm.mem_iff.1 hprocess
  exact ⟨process, h process (List.mem_of_mem_filter hmem), rfl⟩

/-- Two views of one process show the same hosts as far as both go. -/
def Agree (a b : ProcessView) : Prop :=
  a.process = b.process ∧ (a.hosts <+: b.hosts ∨ b.hosts <+: a.hosts)

/-- The limit changes neither which processes are shown where nor which host comes first. -/
theorem views_agree (limit : UInt64) (processes : List ProcessTraffic) :
    List.Forall₂ Agree (options.views processes)
      (({ options with hostLimit := limit } : ViewOptions).views processes) := by
  rw [views_eq, views_eq]
  refine List.forall₂_map_left_iff.2 (List.forall₂_map_right_iff.2 (List.forall₂_same.2 ?_))
  intro process _
  exact ⟨rfl, List.prefix_or_prefix_of_prefix (options.isPrefix_hosts)
    (isPrefix_hosts { options with hostLimit := limit })⟩

/-- **What is shown of a cycle.** If 64 bits have room for the totals, the views are those of the
processes that are kept, in order; processes of equal traffic keep their order, whichever way it
goes. A view shows the first hosts of its process in order, hosts of equal traffic by address,
and counts the others. With another limit the same processes are shown in the same places, and
of two views of a process the one shows the first hosts of the other. No host that is left out is
preferred to one that is shown. -/
theorem views_are_in_order (options : ViewOptions) (processes : List ProcessTraffic)
    (h : ∀ process ∈ processes, process.HasRoom) :
    Arranged options.order ProcessTraffic.volume (options.kept processes)
      ((options.views processes).map (·.process)) ∧
    (∀ view ∈ options.views processes, ∃ hosts, view.Shows options hosts) ∧
    (∀ limit, List.Forall₂ Agree (options.views processes)
      (({ options with hostLimit := limit } : ViewOptions).views processes)) ∧
    ∀ view ∈ options.views processes, ∀ shown ∈ view.hosts,
      ∀ hidden ∈ view.process.hosts.entries, hidden ∉ view.hosts →
        ¬options.order.Prefers hidden.2.volume shown.2.volume := by
  have hshows : ∀ view ∈ options.views processes, ∃ hosts, view.Shows options hosts := by
    intro view hview
    obtain ⟨process, hroom, rfl⟩ := options.exists_of_mem_views h hview
    exact ⟨options.hostOrder process, options.shows_view hroom⟩
  refine ⟨options.arranged_views h, hshows, fun limit => options.views_agree limit processes, ?_⟩
  intro view hview shown hshown hidden hhidden hout
  obtain ⟨hosts, hview⟩ := hshows view hview
  exact hview.not_prefers hshown hhidden hout

section Ties

/-- Two processes of equal traffic, and one without any between them. The first has three hosts,
two of them of equal traffic. -/
def tied : List ProcessTraffic := [
  { pid := 1, command := "one", recv := 7, hosts := .ofList [
    (.quad 10 0 0 1, { recv := 2 }), (.quad 10 0 0 2, { recv := 3 }),
    (.quad 10 0 0 3, { recv := 2 })] },
  { pid := 2, command := "two" },
  { pid := 3, command := "three", sent := 7, hosts := .ofList [(.quad 10 0 0 1, { sent := 7 })] }]

/-- The two busiest hosts of every process with traffic. -/
def busiest : ViewOptions := { order := .descending, hideIdle := true, hostLimit := 2 }

theorem hasRoom_tied : ∀ process ∈ tied, process.HasRoom := by
  have hroom : ∀ process ∈ tied, process.volume < 2 ^ 64 ∧
      ∀ host ∈ process.hosts.entries, host.2.volume < 2 ^ 64 := by decide
  exact fun process hmem => ⟨(hroom process hmem).1, (hroom process hmem).2⟩

theorem tied_are_in_order :
    (busiest.views tied).map (fun view => (view.process.pid, view.hosts.map (·.1), view.hidden)) =
      [(1, [.quad 10 0 0 2, .quad 10 0 0 1], 1), (3, [.quad 10 0 0 1], 0)] ∧
    Arranged .descending ProcessTraffic.volume (busiest.kept tied)
      ((busiest.views tied).map (·.process)) ∧
    ∀ view ∈ busiest.views tied, ∃ hosts, view.Shows busiest hosts := by
  obtain ⟨harranged, hshows, -⟩ := views_are_in_order busiest tied hasRoom_tied
  exact ⟨by cbv, harranged, hshows⟩

end Ties

end ViewOptions

end Flowmeter
