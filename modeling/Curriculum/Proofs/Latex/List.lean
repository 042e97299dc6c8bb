import Curriculum.Proofs.Latex.Command
import Curriculum.Text.Entries

/-! # Lists

The commands of a document open lists, close them and start their entries. Read one after the other
they tell how many entries each list has (`lists`); a document in which a list is left open, or
closed by a command of another kind, is not read at all. LaTeX accepts no list without an entry
(`HasNoEmptyList`). -/

namespace Curriculum.Latex

/-! ## Marks -/

/-- The lists of résumés: bullets, or headings with what stands below each. -/
inductive ListKind where
  | items
  | headings
  deriving DecidableEq, Repr

/-- What a command does to the lists around it. -/
inductive Mark where
  | opens (kind : ListKind)
  | closes (kind : ListKind)
  | entry (kind : ListKind)
  deriving DecidableEq, Repr

/-- The commands that have to do with lists. -/
def listCommands : List (Text × Mark) :=
  [("resumeItemListStart", .opens .items), ("resumeItemListEnd", .closes .items),
    ("resumeItem", .entry .items), ("resumeSubHeadingListStart", .opens .headings),
    ("resumeSubHeadingListEnd", .closes .headings), ("resumeSubheading", .entry .headings),
    ("resumeProjectHeading", .entry .headings)]

def Mark.ofCommand? (command : Text) : Option Mark := lookup command listCommands

/-! ## Reading lists -/

/-- Lists with the number of their entries: those that are open, the innermost first, and those that
are closed, in the order of their ends. -/
structure Nesting where
  around : List (ListKind × Nat) := []
  done : List (ListKind × Nat) := []

namespace Nesting

/-- One more mark. An entry and an end belong to the innermost list, which has to be of their
kind. -/
def next (n : Nesting) : Mark → Option Nesting
  | .opens kind => some { n with around := (kind, 0) :: n.around }
  | .entry kind =>
    match n.around with
    | (inner, count) :: outer =>
      if inner = kind then some { n with around := (inner, count + 1) :: outer } else none
    | [] => none
  | .closes kind =>
    match n.around with
    | (inner, count) :: outer =>
      if inner = kind then some ⟨outer, n.done ++ [(inner, count)]⟩ else none
    | [] => none

end Nesting

/-- What stands behind the first occurrence of a word. -/
def behind? (word : Text) : Text → Option Text
  | [] => none
  | c :: t => if word <+: c :: t then some ((c :: t).drop word.length) else behind? word t

/-- The body of the document in a source. -/
def documentBody? (source : Text) : Option Text := behind? "\\begin\x7bdocument\x7d" source

/-- The lists in the document of a source with the number of their entries, in the order of their
ends. -/
def lists (source : Text) : Option (List (ListKind × Nat)) := do
  let body ← documentBody? source
  let nesting ← ((commands body).filterMap Mark.ofCommand?).foldlM Nesting.next {}
  if nesting.around = [] then some nesting.done else none

/-- All lists in the document are closed, and each of them has an entry. -/
def HasNoEmptyList (source : Text) : Prop :=
  ∃ counts, lists source = some counts ∧ ∀ list ∈ counts, 0 < list.2

/-! ## Marks in a row -/

/-- The marks are entries of an open list and whole lists inside of it. -/
def Fills (kind : ListKind) (count : Nat) (inner : List (ListKind × Nat)) (marks : List Mark) :
    Prop :=
  ∀ before outer done, marks.foldlM Nesting.next ⟨(kind, before) :: outer, done⟩ =
    some ⟨(kind, before + count) :: outer, done ++ inner⟩

/-- The marks are whole lists. -/
def Spans (found : List (ListKind × Nat)) (marks : List Mark) : Prop :=
  ∀ around done, marks.foldlM Nesting.next ⟨around, done⟩ = some ⟨around, done ++ found⟩

section
variable {kind : ListKind} {marks marks' : List Mark} {found found' : List (ListKind × Nat)}
  {count count' : Nat}

theorem Spans.nil : Spans [] [] := fun around done => by
  rw [List.append_nil]
  rfl

theorem Spans.append (h : Spans found marks) (h' : Spans found' marks') :
    Spans (found ++ found') (marks ++ marks') := fun around done => by
  rw [List.foldlM_append, h around done]
  exact (h' around _).trans (by rw [List.append_assoc])

theorem Spans.flatMap {f : α → List Mark} {g : α → List (ListKind × Nat)} {l : List α}
    (h : ∀ a ∈ l, Spans (g a) (f a)) : Spans (l.flatMap g) (l.flatMap f) := by
  induction l with
  | nil => exact .nil
  | cons a l ih =>
    obtain ⟨ha, hl⟩ := List.forall_mem_cons.1 h
    rw [List.flatMap_cons, List.flatMap_cons]
    exact ha.append (ih hl)

theorem Spans.fills (h : Spans found marks) : Fills kind 0 found marks :=
  fun _ _ done => h _ done

theorem Fills.nil : Fills kind 0 [] [] := Spans.nil.fills

theorem Fills.entry : Fills kind 1 [] [.entry kind] := fun before outer done => by
  simp [Nesting.next]

theorem Fills.append (h : Fills kind count found marks) (h' : Fills kind count' found' marks') :
    Fills kind (count + count') (found ++ found') (marks ++ marks') := fun before outer done => by
  rw [List.foldlM_append, h before outer done]
  refine (h' _ outer _).trans ?_
  rw [Nat.add_assoc, List.append_assoc]

/-- One entry for each item, and lists below it. -/
theorem Fills.flatMap {f : α → List Mark} {g : α → List (ListKind × Nat)} {l : List α}
    (h : ∀ a ∈ l, Fills kind 1 (g a) (f a)) : Fills kind l.length (l.flatMap g) (l.flatMap f) := by
  induction l with
  | nil => exact .nil
  | cons a l ih =>
    obtain ⟨ha, hl⟩ := List.forall_mem_cons.1 h
    rw [List.length_cons, Nat.add_comm, List.flatMap_cons, List.flatMap_cons]
    exact ha.append (ih hl)

theorem Fills.list (h : Fills kind count found marks) :
    Spans (found ++ [(kind, count)]) (.opens kind :: marks ++ [.closes kind]) :=
  fun around done => by
    change (marks ++ [Mark.closes kind]).foldlM Nesting.next ⟨(kind, 0) :: around, done⟩ = _
    rw [List.foldlM_append, h 0 around done]
    simp [Nesting.next]

theorem lists_eq_some {source body : Text} (hbody : documentBody? source = some body)
    (h : Spans found ((commands body).filterMap Mark.ofCommand?)) : lists source = some found := by
  have hread := h [] []
  rw [List.nil_append] at hread
  simp only [lists, hbody, Option.bind_eq_bind, Option.bind_some, hread, if_true]

end

/-! ## The body of the document -/

section
variable {word t rest : Text}

theorem length_le_of_behind? (h : behind? word t = some rest) : word.length ≤ t.length := by
  induction t with
  | nil => cases h
  | cons c t ih =>
    rw [behind?] at h
    split at h
    · next hword => exact hword.length_le
    · exact Nat.le_succ_of_le (ih h)

/-- What stands behind a word does not depend on how the text goes on. -/
theorem behind?_append (h : behind? word t = some rest) (u : Text) :
    behind? word (t ++ u) = some (rest ++ u) := by
  induction t with
  | nil => cases h
  | cons c t ih =>
    rw [behind?] at h
    rw [List.cons_append, behind?]
    split at h
    · next hword =>
      cases h
      rw [← List.cons_append, if_pos (hword.trans (List.prefix_append ..)),
        List.drop_append_of_le_length hword.length_le]
    · next hword =>
      -- the word fits into `t`, where it occurs, so it would fit in front of `u` here too
      have hnot : ¬word <+: c :: (t ++ u) := fun hlong => by
        refine hword (List.prefix_of_prefix_length_le hlong (List.prefix_append (c :: t) u) ?_)
        exact Nat.le_succ_of_le (length_le_of_behind? h)
      rw [if_neg hnot]
      exact ih h

end

end Curriculum.Latex
