import Flowmeter.CommandLine.Reader
import Flowmeter.Proofs.Fallible

/-! What a command line gives.

However the words are read, arguments change in one place only: a flag is given with its value
(`Arguments.give`). So what each gift preserves holds of all that a command line asks for
(`Arguments.holds_of_read`). Seconds between refreshes are given in range (`give_inRange`), hence
they are in range in the end (`inRange_of_read`). -/
namespace Flowmeter.CommandLine

/-! ### Runs -/

section Runs
variable {Holds : Arguments → Prop}
  (hgive : ∀ {arguments result : Arguments} {flag : Flag} {value : Text.Raw},
    Holds arguments → arguments.give flag value = .ok result → Holds result)
  {reader after : Reader} {flag : Flag} {value : Option Text.Raw}
include hgive

namespace Reader

theorem holds_accept (hreader : Holds reader.arguments) (h : reader.accept flag value = .ok after) :
    Holds after.arguments := by
  simp only [accept] at h
  split at h
  · cases h
  · split at h
    · cases h
    · obtain ⟨arguments, hgiven, h⟩ := bind_eq_ok_iff.1 h
      obtain rfl := Except.ok.inj h
      exact hgive hreader hgiven

theorem holds_settle (hreader : Holds reader.arguments) (h : reader.settle = .ok after) :
    Holds after.arguments := by
  unfold settle at h
  split at h
  · obtain rfl := Except.ok.inj h
    exact hreader
  · refine holds_accept hgive ?_ h
    exact hreader

theorem holds_take (hreader : Holds reader.arguments) (h : reader.take flag value = .ok after) :
    Holds after.arguments := by
  obtain ⟨settled, hsettled, h⟩ := bind_eq_ok_iff.1 h
  exact holds_accept hgive (holds_settle hgive hreader hsettled) h

theorem holds_await (hreader : Holds reader.arguments) (h : reader.await flag = .ok after) :
    Holds after.arguments := by
  obtain ⟨settled, hsettled, h⟩ := bind_eq_ok_iff.1 h
  obtain rfl := Except.ok.inj h
  have hheld : Holds settled.arguments := holds_settle hgive hreader hsettled
  exact hheld

theorem holds_long {name : Text.Raw} (hreader : Holds reader.arguments)
    (h : reader.long name value = .ok after) : Holds after.arguments := by
  unfold long at h
  split at h
  · cases h
  · split at h
    · exact holds_await hgive hreader h
    · cases h
    · exact holds_take hgive hreader h

theorem holds_cluster {letters : Text.Raw} (hreader : Holds reader.arguments)
    (h : reader.cluster letters = .ok after) : Holds after.arguments := by
  induction letters generalizing reader with
  | nil =>
    obtain rfl := Except.ok.inj h
    exact hreader
  | cons letter rest ih =>
    cases letter with
    | stray bytes => cases h
    | char letter =>
      unfold cluster at h
      split at h
      · cases h
      · split at h
        · split at h
          · exact holds_await hgive hreader h
          · exact holds_take hgive hreader h
        · obtain ⟨taken, htaken, h⟩ := bind_eq_ok_iff.1 h
          exact ih (holds_take hgive hreader htaken) h

omit hgive in
theorem holds_plain {text : Text.Raw} (hreader : Holds reader.arguments)
    (h : reader.plain text = .ok after) : Holds after.arguments := by
  unfold plain at h
  split at h
  · obtain rfl := Except.ok.inj h
    exact hreader
  · cases h

theorem holds_end {arguments : Arguments} (hreader : Holds reader.arguments)
    (h : reader.settle.map (·.arguments) = .ok arguments) : Holds arguments := by
  obtain ⟨settled, hsettled, rfl⟩ := map_eq_ok_iff.1 h
  exact holds_settle hgive hreader hsettled

theorem holds_read {words : List Text.Raw} {arguments : Arguments}
    (hreader : Holds reader.arguments) (h : reader.read words = .ok arguments) :
    Holds arguments := by
  induction words generalizing reader with
  | nil => exact holds_end hgive hreader h
  | cons word rest ih =>
    unfold read at h
    split at h
    · split at h
      · exact holds_end hgive hreader h
      · cases h
    · obtain ⟨next, hnext, h⟩ := bind_eq_ok_iff.1 h
      exact ih (holds_long hgive hreader hnext) h
    · obtain ⟨next, hnext, h⟩ := bind_eq_ok_iff.1 h
      exact ih (holds_cluster hgive hreader hnext) h
    · obtain ⟨next, hnext, h⟩ := bind_eq_ok_iff.1 h
      exact ih (holds_plain hreader hnext) h

end Reader

/-- **What giving a flag preserves holds of all that a command line asks for.** -/
theorem Arguments.holds_of_read {words : List Text.Raw} {arguments : Arguments}
    (hnone : Holds {}) (h : Arguments.read words = .ok arguments) : Holds arguments :=
  Reader.holds_read hgive hnone h

end Runs

/-! ### The range -/

namespace Arguments

/-- Seconds between refreshes, if they were given, are in range. -/
def InRange (arguments : Arguments) : Prop :=
  ∀ seconds, arguments.refreshSecs = some seconds →
    Settings.minRefreshSecs ≤ seconds ∧ seconds ≤ Settings.maxRefreshSecs

theorem refreshOf_inRange {value : Text.Raw} {seconds : UInt64}
    (h : refreshOf value = .ok seconds) :
    Settings.minRefreshSecs ≤ seconds ∧ seconds ≤ Settings.maxRefreshSecs := by
  obtain ⟨number, -, h⟩ := bind_eq_ok_iff.1 h
  split at h
  · next hrange =>
    obtain rfl := Except.ok.inj h
    exact hrange
  · obtain ⟨-, -, h⟩ := bind_eq_ok_iff.1 h
    obtain ⟨text, -, h⟩ := bind_eq_ok_iff.1 h
    cases h

theorem give_inRange {arguments result : Arguments} {flag : Flag} {value : Text.Raw}
    (harguments : arguments.InRange) (h : arguments.give flag value = .ok result) :
    result.InRange := by
  cases flag with
  | refresh =>
    obtain ⟨seconds, hseconds, h⟩ := bind_eq_ok_iff.1 h
    obtain rfl := Except.ok.inj h
    rintro given ⟨⟩
    exact refreshOf_inRange hseconds
  | capture | order | hostLimit | device =>
    obtain ⟨given, -, h⟩ := bind_eq_ok_iff.1 h
    obtain rfl := Except.ok.inj h
    exact harguments
  | hideIdle | showSplit | numericNames | saveSettings =>
    obtain rfl := Except.ok.inj h
    exact harguments
  | logFile =>
    simp only [give] at h
    split at h
    · cases h
    · obtain rfl := Except.ok.inj h
      exact harguments
  | help | version => cases h

theorem inRange_of_read {words : List Text.Raw} {arguments : Arguments}
    (h : Arguments.read words = .ok arguments) : arguments.InRange :=
  holds_of_read give_inRange nofun h

end Arguments

end Flowmeter.CommandLine
