/-! How alike two words are.

Two letters match if they are equal and stand about as far from the start, up to half
the longer word less one. The measure is the mean of the share of matching letters in
each word and the share of those that match in order; each letter is matched once, with
the first that is left. -/
namespace Flowmeter.CommandLine.Similar

/-- The positions of the letters of `right` that match those of `left`, in the order of
`left`, from `position` on. -/
def matched (window : Nat) (right : List Char) : Nat → List Nat → List Char → List (Char × Nat)
  | _, _, [] => []
  | position, taken, c :: left =>
    let near := (List.range right.length).find? fun other =>
      position ≤ other + window && other ≤ position + window && right[other]? == some c &&
        !taken.contains other
    match near with
    | some other => (c, other) :: matched window right (position + 1) (other :: taken) left
    | none => matched window right (position + 1) taken left

/-- How alike two words are, from 0 to 1. -/
def measure (left right : List Char) : Float :=
  if left.isEmpty && right.isEmpty then 1.0
  else
    let window := max left.length right.length / 2 - 1
    let pairs := matched window right 0 [] left
    let count := pairs.length
    if count = 0 then 0.0
    else
      let inOrder := (pairs.map (·.2)).mergeSort.filterMap fun position => right[position]?
      let moved := ((pairs.map (·.1)).zip inOrder).countP fun letters => letters.1 != letters.2
      let share (part whole : Nat) : Float := Float.ofNat part / Float.ofNat whole
      (share count left.length + share count right.length + share (count - moved / 2) count) / 3.0

/-- The candidate most like the word, the last of several, if one is alike enough. -/
def best? {α : Type} (word : List Char) (spelling : α → List Char) (candidates : List α) :
    Option α :=
  let better (best : Option (α × Float)) (candidate : α) : Option (α × Float) :=
    let alike := measure word (spelling candidate)
    let beaten : Bool := match best with
      | some (_, before) => alike < before
      | none => alike ≤ 0.7
    if beaten then best else some (candidate, alike)
  (candidates.foldl better none).map (·.1)

end Flowmeter.CommandLine.Similar
