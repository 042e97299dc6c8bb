import Curriculum.Files.Path

/-! # File trees

A file tree assigns an entry to each place that holds one. A place is the list of names from the
root down to it, and the root is always a directory. Paths lead to places: every name but the last
has to be that of a directory, and a path may go back up from any directory it has reached.

The tree branches by names. What operations do to it is said by `get?` alone, in `get?_put`,
`get?_erase` and `get?_prune`. An entry is a file or a directory: there are no links. -/

namespace Curriculum

/-- The names from the root down to an entry. -/
abbrev Place := List Text

inductive Entry where
  /-- A file with its content; `runnable` tells that it may be run as a program. -/
  | file (content : Bytes) (runnable : Bool)
  /-- A file whose content cannot be read. -/
  | sealedFile
  | directory
  deriving DecidableEq, Repr

/-- Why an operation on files fails. -/
inductive Fault where
  | missing
  | occupied
  | notDirectory
  | isDirectory
  | badName
  | denied
  /-- No more bytes fit. -/
  | full
  deriving DecidableEq, Repr

/-- What lies at a place and, by the next name, below it. -/
inductive FileTree where
  | node (entry : Option Entry) (branches : List (Text × FileTree))

namespace FileTree

instance : EmptyCollection FileTree := ⟨node none []⟩

instance : Inhabited FileTree := ⟨∅⟩

def entry : FileTree → Option Entry
  | node e _ => e

def branches : FileTree → List (Text × FileTree)
  | node _ bs => bs

def branch (name : Text) : List (Text × FileTree) → FileTree
  | [] => ∅
  | (n, t) :: rest => if n = name then t else branch name rest

/-- The branches with that of a name replaced. -/
def setBranch (name : Text) (t : FileTree) (bs : List (Text × FileTree)) :
    List (Text × FileTree) :=
  (name, t) :: bs.filter fun b => b.1 ≠ name

def subtree : FileTree → Place → FileTree
  | t, [] => t
  | node _ bs, name :: rest => (branch name bs).subtree rest

/-- The tree with what lies at and below a place changed. -/
def change (f : FileTree → FileTree) : Place → FileTree → FileTree
  | [], t => f t
  | name :: rest, node e bs => node e (setBranch name (change f rest (branch name bs)) bs)

def get? (t : FileTree) (place : Place) : Option Entry :=
  if place = [] then some .directory else (t.subtree place).entry

/-- The tree without the entry at a place. What lies below the place stays. -/
def erase (t : FileTree) (place : Place) : FileTree := t.change (fun b => node none b.branches) place

def put (t : FileTree) (place : Place) (entry : Entry) : FileTree :=
  t.change (fun b => node (some entry) b.branches) place

def prune (t : FileTree) (place : Place) : FileTree := t.change (fun _ => ∅) place

@[simp] theorem subtree_nil (t : FileTree) : t.subtree [] = t := by cases t; rfl

@[simp] theorem subtree_cons (t : FileTree) (name : Text) (rest : Place) :
    t.subtree (name :: rest) = (branch name t.branches).subtree rest := by cases t; rfl

theorem subtree_append (t : FileTree) (p q : Place) : t.subtree (p ++ q) = (t.subtree p).subtree q := by
  induction p generalizing t with
  | nil => simp
  | cons name rest ih => simp [ih]

@[simp] theorem entry_subtree_empty (place : Place) : ((∅ : FileTree).subtree place).entry = none := by
  induction place with
  | nil => rfl
  | cons name rest ih => rw [subtree_cons]; exact ih

theorem branch_filter (name other : Text) (bs : List (Text × FileTree)) (h : other ≠ name) :
    branch other (bs.filter fun b => b.1 ≠ name) = branch other bs := by
  induction bs with
  | nil => rfl
  | cons b rest ih =>
    obtain ⟨n, t⟩ := b
    by_cases hn : n = name
    · subst hn
      rw [List.filter_cons_of_neg (by simp), ih]
      simp [branch, Ne.symm h]
    · rw [List.filter_cons_of_pos (by simpa using hn), branch, branch, ih]

theorem branch_setBranch (name other : Text) (t : FileTree) (bs : List (Text × FileTree)) :
    branch other (setBranch name t bs) = if other = name then t else branch other bs := by
  by_cases h : other = name
  · simp [setBranch, branch, h]
  · rw [if_neg h, ← branch_filter name other bs h]
    simp [setBranch, branch, Ne.symm h]

/-- A change shows below its place. -/
theorem subtree_change_append (f : FileTree → FileTree) (t : FileTree) (p q : Place) :
    (t.change f p).subtree (p ++ q) = (f (t.subtree p)).subtree q := by
  induction p generalizing t with
  | nil => simp [change]
  | cons name rest ih =>
    obtain ⟨e, bs⟩ := t
    simp [change, branches, branch_setBranch, ih]

/-- A change shows nowhere else. -/
theorem entry_change_of_not_prefix (f : FileTree → FileTree) (t : FileTree) {p q : Place}
    (h : ¬p <+: q) : ((t.change f p).subtree q).entry = (t.subtree q).entry := by
  induction p generalizing t q with
  | nil => exact absurd (List.nil_prefix) h
  | cons name rest ih =>
    obtain ⟨e, bs⟩ := t
    cases q with
    | nil => rfl
    | cons n q =>
      simp only [change, subtree_cons, branches, branch_setBranch]
      split
      · next hn =>
        subst hn
        exact ih _ fun hp => h ((List.prefix_cons_inj n).2 hp)
      · rfl

theorem get?_erase (t : FileTree) {place other : Place} (h : place ≠ []) :
    (t.erase place).get? other = if other = place then none else t.get? other := by
  unfold get? erase
  by_cases ho : other = []
  · subst ho; simp [Ne.symm h]
  by_cases hp : place <+: other
  · obtain ⟨rest, rfl⟩ := hp
    rw [subtree_change_append, subtree_append]
    cases rest with
    | nil => simp [h, entry]
    | cons n rest => simp [branches]
  · have hne : other ≠ place := fun he => hp (he ▸ List.prefix_rfl)
    simp [ho, hne, entry_change_of_not_prefix _ _ hp]

theorem get?_put (t : FileTree) {place other : Place} (entry : Entry) (h : place ≠ []) :
    (t.put place entry).get? other = if other = place then some entry else t.get? other := by
  unfold get? put
  by_cases ho : other = []
  · subst ho; simp [Ne.symm h]
  by_cases hp : place <+: other
  · obtain ⟨rest, rfl⟩ := hp
    rw [subtree_change_append, subtree_append]
    cases rest with
    | nil => simp [h, FileTree.entry]
    | cons n rest => simp [branches]
  · have hne : other ≠ place := fun he => hp (he ▸ List.prefix_rfl)
    simp [ho, hne, entry_change_of_not_prefix _ _ hp]

theorem get?_prune (t : FileTree) {place other : Place} (h : place ≠ []) :
    (t.prune place).get? other = if place <+: other then none else t.get? other := by
  unfold get? prune
  by_cases ho : other = []
  · subst ho; simp [h]
  by_cases hp : place <+: other
  · obtain ⟨rest, rfl⟩ := hp
    rw [subtree_change_append]
    simp [h]
  · simp [ho, hp, entry_change_of_not_prefix _ _ hp]

/-! ## From paths to places -/

/-- The longest name that an entry may have, in bytes. -/
def nameLimit : Nat := 255

/-- The longest path that can be followed, in bytes. -/
def pathLimit : Nat := 4095

/-- The place that the steps lead to from a place. What lies at and below it is `here`, and `up`
holds its names, the last one first. -/
def walkFrom (t here : FileTree) (up : List Text) : List Text → Except Fault Place
  | [] => .ok up.reverse
  | name :: rest =>
    match if up = [] then some .directory else here.entry with
    | none => .error .missing
    | some .directory =>
      if name = ['.'] then walkFrom t here up rest
      else if name = ['.', '.'] then walkFrom t (t.subtree up.tail.reverse) up.tail rest
      else if nameLimit < (Path.bytes name).length then .error .badName
      else walkFrom t (branch name here.branches) (name :: up) rest
    | some _ => .error .notDirectory

def walk (t : FileTree) (place : Place) (steps : List Text) : Except Fault Place :=
  walkFrom t (t.subtree place) place.reverse steps

theorem walk_nil (t : FileTree) (place : Place) : t.walk place [] = .ok place := by
  simp [walk, walkFrom]

/-- A step is taken from a directory only: it stays, goes back up, or goes down to a name. -/
theorem walk_cons (t : FileTree) (place : Place) (name : Text) (rest : List Text) :
    t.walk place (name :: rest) =
      match t.get? place with
      | none => .error .missing
      | some .directory =>
        if name = ['.'] then t.walk place rest
        else if name = ['.', '.'] then t.walk place.dropLast rest
        else if nameLimit < (Path.bytes name).length then .error .badName
        else t.walk (place ++ [name]) rest
      | some _ => .error .notDirectory := by
  unfold walk
  rw [walkFrom]
  have hg : (if place.reverse = [] then some Entry.directory else (t.subtree place).entry) =
      t.get? place := by simp [get?]
  rw [hg]
  have hd : place.reverse.tail = place.dropLast.reverse := by simp
  have hb : branch name (t.subtree place).branches = t.subtree (place ++ [name]) := by
    simp [subtree_append]
  have hr : name :: place.reverse = (place ++ [name]).reverse := by simp
  rw [hd, hb, hr, List.reverse_reverse]

/-- The place that a path names, seen from the directory `here`. The place itself may be empty; all
that leads to it is there. -/
def locate (t : FileTree) (here : Place) (path : Text) : Except Fault Place :=
  if path.isEmpty then .error .missing
  else if '\x00' ∈ path then .error .badName
  else if pathLimit < (Path.bytes path).length then .error .badName
  else t.walk (if Path.isAbsolute path then [] else here) (Path.steps path)

def entryAt (t : FileTree) (here : Place) (path : Text) : Option Entry :=
  match t.locate here path with
  | .ok place => t.get? place
  | .error _ => none

/-! ## Operations on paths -/

def read (t : FileTree) (here : Place) (path : Text) : Except Fault Bytes := do
  match t.get? (← t.locate here path) with
  | some (.file content _) => .ok content
  | some .directory => .error .isDirectory
  | some .sealedFile => .error .denied
  | none => .error .missing

def makeDirectory (t : FileTree) (here : Place) (path : Text) : Except Fault FileTree := do
  let place ← t.locate here path
  match t.get? place with
  | none => .ok (t.put place .directory)
  | some _ => .error .occupied

/-- The tree with an empty file at a path, new or emptied. -/
def create (t : FileTree) (here : Place) (path : Text) : Except Fault FileTree := do
  let place ← t.locate here path
  match t.get? place with
  | none => .ok (t.put place (.file [] false))
  | some (.file _ runnable) => .ok (t.put place (.file [] runnable))
  | some .directory => .error .isDirectory
  | some .sealedFile => .error .denied

def append (t : FileTree) (here : Place) (path : Text) (bytes : Bytes) :
    Except Fault FileTree := do
  let place ← t.locate here path
  match t.get? place with
  | some (.file content runnable) => .ok (t.put place (.file (content ++ bytes) runnable))
  | some .directory => .error .isDirectory
  | some .sealedFile => .error .denied
  | none => .error .missing

/-- The tree with the file at one path moved to another, where it replaces a file. -/
def rename (t : FileTree) (here : Place) (source target : Text) : Except Fault FileTree := do
  let old ← t.locate here source
  let new ← t.locate here target
  match t.get? old, t.get? new with
  | none, _ => .error .missing
  | some .directory, _ => .error .isDirectory
  | some _, some .directory => .error .isDirectory
  | some entry, _ => if old = new then .ok t else .ok ((t.erase old).put new entry)

def removeFile (t : FileTree) (here : Place) (path : Text) : Except Fault FileTree := do
  let place ← t.locate here path
  match t.get? place with
  | none => .error .missing
  | some .directory => .error .isDirectory
  | some _ => .ok (t.erase place)

/-- The tree without the entry at a path and all that lies below it. -/
def removeAll (t : FileTree) (here : Place) (path : Text) : Except Fault FileTree := do
  let place ← t.locate here path
  match t.get? place with
  | none => .error .missing
  | some _ => .ok (t.prune place)

/-! ## Listings -/

def children (t : FileTree) (place : Place) : List (Text × Entry) :=
  (t.subtree place).branches.filterMap fun (name, b) => b.entry.map fun e => (name, e)

def list (t : FileTree) (here : Place) (path : Text) : Except Fault (List (Text × Entry)) := do
  let place ← t.locate here path
  match t.get? place with
  | some .directory => .ok (t.children place)
  | some _ => .error .notDirectory
  | none => .error .missing

mutual
/-- The entries at and below the top of a tree, by their paths, when `path` leads to it. -/
def entries (path : Text) : FileTree → List (Text × Entry)
  | node e bs => (e.toList.map fun e => (path, e)) ++ branchEntries path bs

def branchEntries (path : Text) : List (Text × FileTree) → List (Text × Entry)
  | [] => []
  | (name, b) :: rest => b.entries (Path.join path name) ++ branchEntries path rest
end

/-- All that lies below a place, by relative path in the order of the paths' bytes. -/
def listing (t : FileTree) (place : Place) : List (Text × Entry) :=
  (branchEntries [] (t.subtree place).branches).mergeSort fun a b => !Path.before b.1 a.1

/-- The tree with directories at a place and at all places above it. -/
def putDirectories (t : FileTree) (place : Place) : FileTree :=
  (List.range (place.length + 1)).foldl (fun t n =>
    if (t.get? (place.take n)).isSome then t else t.put (place.take n) .directory) t

end FileTree

/-- The file tree as seen by a program that only reads. -/
structure FileView where
  /-- The content of the file at a path. -/
  read : Text → Except Fault Bytes
  /-- The names in the directory at a path in some order, with those that are directories
  marked. -/
  list : Text → Except Fault (List (Text × Bool))
  /-- Something is at the path. -/
  present : Text → Bool
  /-- A file is at the path. -/
  isFile : Text → Bool

def FileTree.view (t : FileTree) (here : Place) : FileView where
  read := t.read here
  list path := (t.list here path).map fun names =>
    names.map fun (name, entry) => (name, decide (entry = .directory))
  present path := (t.entryAt here path).isSome
  isFile path :=
    match t.entryAt here path with
    | some (.file ..) | some .sealedFile => true
    | _ => false

end Curriculum
