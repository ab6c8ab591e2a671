import Flowmeter.Files.Tree

/-! What is found in a tree that has been written to.

A tree that has grown leads along every path it led along before (`Reaches`), and making
directories even keeps what stands at each place (`Extends`). So a file that was written is
read back (`read_of_write`), and directories are made beside the files, not over them
(`extends_makeDirectories`). -/
namespace Flowmeter.FileTree

variable {tree after : FileTree} {place : Place} {path : String}

theorem node?_put_self {node : FileNode} (hplace : place ≠ []) :
    (tree.put place node).node? place = some node := by
  rw [node?, if_neg (by simpa using hplace), put, List.lookup_cons_self]

theorem node?_put_of_ne {node : FileNode} {other : Place} (hother : other ≠ place) :
    (tree.put place node).node? other = tree.node? other := by
  have hfalse : (other == place) = false := beq_false_of_ne hother
  simp only [node?, put, List.lookup_cons, hfalse]

/-- The root is a directory. -/
theorem ne_nil_of_node? (h : tree.node? place ≠ some .directory) : place ≠ [] := by
  rintro rfl
  exact h rfl

/-! ### Following a path -/

/-- A name of an entry, as the system takes it. -/
structure NamesEntry (name : String) : Prop where
  not_dot : name ≠ "."
  not_dots : name ≠ ".."
  short : name.utf8ByteSize ≤ maxNameSize

section Enter
variable {name : String}

theorem enter_dot (hplace : tree.node? place = some .directory) :
    tree.enter place "." = .ok place := by
  rw [enter, if_neg (by simp [hplace]), if_pos (by rfl)]

theorem enter_dots (hplace : tree.node? place = some .directory) :
    tree.enter place ".." = .ok place.dropLast := by
  rw [enter, if_neg (by simp [hplace]), if_neg (by decide), if_pos (by rfl)]

theorem NamesEntry.enter (hname : NamesEntry name)
    (hplace : tree.node? place = some .directory) :
    tree.enter place name =
      if (tree.node? (place ++ [name])).isSome then .ok (place ++ [name]) else .error .notFound := by
  rw [FileTree.enter, if_neg (by simp [hplace]), if_neg (by simpa using hname.not_dot),
    if_neg (by simpa using hname.not_dots), if_neg (Nat.not_lt_of_le hname.short)]

/-- Where a name can lead at all. -/
theorem enter_cases (tree : FileTree) (place : Place) (name : String)
    (hfault : tree.enter place name ≠ .error .notDirectory)
    (hlong : tree.enter place name ≠ .error .nameTooLong) :
    tree.node? place = some .directory ∧ (name = "." ∨ name = ".." ∨ NamesEntry name) := by
  unfold enter at hfault hlong
  split at hfault
  · exact absurd rfl hfault
  next hplace =>
  refine ⟨by simpa using hplace, ?_⟩
  rw [if_neg hplace] at hlong
  by_cases hdot : name = "."
  · exact .inl hdot
  by_cases hdots : name = ".."
  · exact .inr (.inl hdots)
  refine .inr (.inr ⟨hdot, hdots, ?_⟩)
  rw [if_neg (by simpa using hdot), if_neg (by simpa using hdots)] at hlong
  exact Nat.le_of_not_lt fun hlarge => hlong (if_pos hlarge)

/-- Only the name of an entry is missed. -/
theorem enter_eq_notFound_iff : tree.enter place name = .error .notFound ↔
    tree.node? place = some .directory ∧ NamesEntry name ∧ tree.node? (place ++ [name]) = none := by
  constructor
  · intro h
    obtain ⟨hplace, rfl | rfl | hname⟩ :=
      enter_cases tree place name (by simp [h]) (by simp [h])
    · rw [enter_dot hplace] at h; cases h
    · rw [enter_dots hplace] at h; cases h
    · rw [hname.enter hplace] at h
      refine ⟨hplace, hname, ?_⟩
      split at h
      · cases h
      · next hnone => simpa using hnone
  · rintro ⟨hplace, hname, hnone⟩
    rw [hname.enter hplace, hnone]
    rfl

end Enter

/-- The names along a path. -/
def namesAlong (path : String) : List String :=
  Path.components path ++ if Path.namesDirectory path then ["."] else []

theorem resolve_eq (hcheck : checkPath path = .ok ()) (hpath : path.isEmpty = false) :
    tree.resolve path = (namesAlong path).foldlM tree.enter (tree.origin path) := by
  rw [resolve, hcheck, hpath]
  rfl

theorem checkPath_ne_notFound : checkPath path ≠ .error .notFound := by
  unfold checkPath
  split
  · exact nofun
  split <;> exact nofun

/-- A path that is followed is not empty, and the system can be asked about it. -/
theorem checked_of_resolve (h : tree.resolve path = .ok place) :
    checkPath path = .ok () ∧ path.isEmpty = false := by
  cases hcheck : checkPath path with
  | error fault => rw [resolve, hcheck] at h; cases h
  | ok =>
    cases hpath : path.isEmpty with
    | true => rw [resolve, hcheck, hpath] at h; cases h
    | false => exact ⟨rfl, rfl⟩

/-- The system was asked about a path of which something is missing. -/
theorem checked_of_notFound (h : tree.resolve path = .error .notFound) :
    checkPath path = .ok () := by
  cases hcheck : checkPath path with
  | error fault =>
    have hresolve : tree.resolve path = .error fault := by rw [resolve, hcheck]; rfl
    obtain rfl : fault = .notFound := Except.error.inj (hresolve.symm.trans h)
    exact absurd hcheck checkPath_ne_notFound
  | ok => rfl

/-! ### Trees that have grown -/

/-- What led somewhere leads there still: directories are directories, and what was there is
there. -/
structure Reaches (tree after : FileTree) : Prop where
  workingDirectory : after.workingDirectory = tree.workingDirectory
  directory {place : Place} : tree.node? place = some .directory →
    after.node? place = some .directory
  isSome {place : Place} : (tree.node? place).isSome = true → (after.node? place).isSome = true

/-- What was at a place is there still. -/
structure Extends (tree after : FileTree) : Prop where
  workingDirectory : after.workingDirectory = tree.workingDirectory
  node {place : Place} {node : FileNode} : tree.node? place = some node →
    after.node? place = some node

namespace Reaches

theorem put (node : FileNode) (hplace : tree.node? place ≠ some .directory) :
    tree.Reaches (tree.put place node) where
  workingDirectory := rfl
  directory {other} hother := by
    have hne : other ≠ place := fun heq => hplace (heq ▸ hother)
    rw [node?_put_of_ne hne, hother]
  isSome {other} hother := by
    by_cases heq : other = place
    · rw [heq, node?_put_self (ne_nil_of_node? hplace)]
      rfl
    · rw [node?_put_of_ne heq, hother]

variable (h : tree.Reaches after)
include h

theorem enter {name : String} {next : Place} (hnext : tree.enter place name = .ok next) :
    after.enter place name = .ok next := by
  obtain ⟨hplace, rfl | rfl | hname⟩ :=
    enter_cases tree place name (by simp [hnext]) (by simp [hnext])
  · rwa [enter_dot (h.directory hplace), ← enter_dot hplace]
  · rwa [enter_dots (h.directory hplace), ← enter_dots hplace]
  · rw [hname.enter hplace] at hnext
    rw [hname.enter (h.directory hplace)]
    split at hnext
    · next hthere => rwa [if_pos (h.isSome hthere)]
    · cases hnext

theorem foldlM_enter {names : List String} {last : Place}
    (hlast : names.foldlM tree.enter place = .ok last) :
    names.foldlM after.enter place = .ok last := by
  induction names generalizing place with
  | nil => exact hlast
  | cons name rest ih =>
    rw [List.foldlM_cons] at hlast ⊢
    cases hnext : tree.enter place name with
    | error fault => rw [hnext] at hlast; cases hlast
    | ok next =>
      rw [hnext] at hlast
      rw [h.enter hnext]
      exact ih hlast

theorem origin (path : String) : after.origin path = tree.origin path := by
  rw [FileTree.origin, FileTree.origin, h.workingDirectory]

theorem resolve (hplace : tree.resolve path = .ok place) : after.resolve path = .ok place := by
  obtain ⟨hcheck, hpath⟩ := checked_of_resolve hplace
  rw [resolve_eq hcheck hpath] at hplace ⊢
  rw [h.origin]
  exact h.foldlM_enter hplace

end Reaches

/-! ### Writing a file -/

/-- A file is opened where the path leads, or in a directory where nothing has its name. -/
theorem open?_cases {before : List UInt8} (h : tree.open? path = .ok (place, before)) :
    tree.resolve path = .ok place ∧ tree.node? place = some (.file before) ∨
    tree.resolve path = .error .notFound ∧ Path.namesDirectory path = false ∧
      ∃ above name directory, Path.components path = above ++ [name] ∧
        above.foldlM tree.enter (tree.origin path) = .ok directory ∧
        tree.node? directory = some .directory ∧ place = directory ++ [name] := by
  unfold open? at h
  split at h
  · next resolved hresolve =>
    split at h
    · next content hnode =>
      obtain ⟨rfl, rfl⟩ := Prod.mk.inj (Except.ok.inj h)
      exact .inl ⟨hresolve, hnode⟩
    · cases h
  · next hresolve =>
    split at h
    · cases h
    next name above hnames =>
    have hnames : Path.components path = above.reverse ++ [name] := by
      rw [← List.reverse_reverse (Path.components path), hnames, List.reverse_cons]
    cases hdirectory : above.reverse.foldlM tree.enter (tree.origin path) with
    | error fault => rw [hdirectory] at h; cases h
    | ok directory =>
    rw [hdirectory] at h
    simp only [bind, Except.bind] at h
    split at h
    · cases h
    next hkind =>
    split at h
    · cases h
    next hnamed =>
    obtain ⟨rfl, -⟩ := Prod.mk.inj (Except.ok.inj h)
    exact .inr ⟨hresolve, by simpa using hnamed, above.reverse, name, directory, hnames,
      hdirectory, by simpa using hkind, rfl⟩
  · cases h

/-- Where a file is opened there is no directory, and the path leads there once the file has
been put there. -/
theorem opened {before : List UInt8} (h : tree.open? path = .ok (place, before)) :
    tree.node? place ≠ some .directory ∧
      ∀ content, (tree.put place (.file content)).resolve path = .ok place := by
  obtain ⟨hresolve, hnode⟩ |
      ⟨hresolve, hnamed, above, name, directory, hnames, habove, hkind, rfl⟩ := open?_cases h
  · have hplace : tree.node? place ≠ some .directory := by simp [hnode]
    exact ⟨hplace, fun content => (Reaches.put _ hplace).resolve hresolve⟩
  · -- The path ends with the name of an entry, and that is the first thing missing.
    have hpath : path.isEmpty = false := by
      rw [Bool.eq_false_iff]
      intro hempty
      obtain rfl : path = "" := String.isEmpty_iff.1 hempty
      exact List.append_ne_nil_of_right_ne_nil _ (List.cons_ne_nil _ _) hnames.symm
    have halong : namesAlong path = above ++ [name] := by
      rw [namesAlong, hnames, hnamed]
      exact List.append_nil _
    have hlast {other : FileTree} (hother : other.origin path = tree.origin path)
        (hfold : above.foldlM other.enter (tree.origin path) = .ok directory) :
        other.resolve path = other.enter directory name := by
      rw [resolve_eq (checked_of_notFound hresolve) hpath, halong, hother, List.foldlM_append,
        hfold]
      exact bind_pure (other.enter directory name)
    rw [hlast rfl habove] at hresolve
    obtain ⟨-, hentry, hnone⟩ := enter_eq_notFound_iff.1 hresolve
    have hplace : tree.node? (directory ++ [name]) ≠ some .directory := by simp [hnone]
    refine ⟨hplace, fun content => ?_⟩
    have hreaches := Reaches.put (.file content) hplace
    rw [hlast (hreaches.origin path) (hreaches.foldlM_enter habove),
      hentry.enter (hreaches.directory hkind), node?_put_self (ne_nil_of_node? hplace)]
    rfl

/-- **A file that was written is read back.** -/
theorem read_of_write {content : List UInt8} (h : tree.write path content = .ok after) :
    after.read path = .ok content := by
  cases hopen : tree.open? path with
  | error fault => rw [write, hopen] at h; cases h
  | ok found =>
    rw [write, hopen] at h
    obtain rfl := Except.ok.inj h
    obtain ⟨hplace, hresolve⟩ := opened hopen
    rw [read, hresolve content]
    simp only [bind, Except.bind, node?_put_self (ne_nil_of_node? hplace)]
    rfl

/-- Where something is read, something is. -/
theorem contains_of_read {content : List UInt8} (h : tree.read path = .ok content) :
    tree.contains path = true := by
  cases hresolve : tree.resolve path with
  | error fault => rw [read, hresolve] at h; cases h
  | ok place => rw [contains, hresolve]

/-! ### Making directories -/

namespace Extends

theorem refl (tree : FileTree) : tree.Extends tree := ⟨rfl, id⟩

theorem trans {next : FileTree} (h : tree.Extends next) (hnext : next.Extends after) :
    tree.Extends after where
  workingDirectory := hnext.workingDirectory.trans h.workingDirectory
  node hnode := hnext.node (h.node hnode)

theorem put {node : FileNode} (hplace : tree.node? place = none) :
    tree.Extends (tree.put place node) where
  workingDirectory := rfl
  node {other _} hother := by
    have hne : other ≠ place := by
      rintro rfl
      rw [hplace] at hother
      cases hother
    rw [node?_put_of_ne hne, hother]

variable (h : tree.Extends after)
include h

theorem reaches : tree.Reaches after where
  workingDirectory := h.workingDirectory
  directory := h.node
  isSome hthere := by
    obtain ⟨node, hnode⟩ := Option.isSome_iff_exists.1 hthere
    rw [h.node hnode]
    rfl

/-- Files keep their contents. -/
theorem read {content : List UInt8} (hread : tree.read path = .ok content) :
    after.read path = .ok content := by
  cases hresolve : tree.resolve path with
  | error fault => rw [FileTree.read, hresolve] at hread; cases hread
  | ok place =>
    rw [FileTree.read, hresolve] at hread
    rw [FileTree.read, h.reaches.resolve hresolve]
    simp only [bind, Except.bind] at hread ⊢
    split at hread
    · next hnode => rw [h.node hnode]; exact hread
    · cases hread
    · cases hread

end Extends

theorem extends_makeAlong {names : List String} (h : tree.makeAlong place names = .ok after) :
    tree.Extends after := by
  induction names generalizing tree place with
  | nil =>
    obtain rfl := Except.ok.inj h
    exact .refl tree
  | cons name rest ih =>
    unfold makeAlong at h
    split at h
    · simp only [bind, Except.bind] at h
      split at h
      · cases h
      · exact ih h
    · next hmissing =>
      obtain ⟨-, -, hnone⟩ := enter_eq_notFound_iff.1 hmissing
      exact (Extends.put hnone).trans (ih h)
    · cases h

/-- **Directories are made beside what is there.** -/
theorem extends_makeDirectories (h : tree.makeDirectories path = .ok after) :
    tree.Extends after := by
  cases hcheck : checkPath path with
  | error fault => rw [makeDirectories, hcheck] at h; cases h
  | ok =>
    rw [makeDirectories, hcheck] at h
    exact extends_makeAlong h

end Flowmeter.FileTree
