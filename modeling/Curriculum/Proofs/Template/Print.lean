import Curriculum.Proofs.Template.Normal
import Curriculum.Proofs.Template.Scan
import Curriculum.Proofs.Text.Trim

/-! # Printed forests

A forest is written as a body by writing its literals as they are and its other nodes as tags. The
blanks in a tag are free, so that printing is a relation: `Prints` is parameterised by the ways in
which tags are spelled. `Spelling.padded` wants blanks on both sides of what a tag says,
`Spelling.loose` allows them there. -/

namespace Curriculum.Template

/-- The ways in which tags are spelled: each relates what a tag says to the text between its
braces. -/
structure Spelling where
  /-- A variable with a path. -/
  var : Text → Text → Prop
  /-- The start of a block with a path. -/
  each : Text → Text → Prop
  /-- The end of a block. -/
  close : Text → Prop

/-- The text stands in `inside`, with blanks of some kind on both sides. -/
def Around (blank : Text → Prop) (t inside : Text) : Prop :=
  ∃ w w', blank w ∧ blank w' ∧ inside = w ++ t ++ w'

/-- At least one blank. -/
def Gap (w : Text) : Prop := Text.allBlank w ∧ w ≠ []

theorem Around.intro {blank : Text → Prop} (hw : blank w) (hw' : blank w') (t : Text) :
    Around blank t (w ++ t ++ w') := ⟨w, w', hw, hw', rfl⟩

theorem gap_singleton (hc : isBlank c) : Gap [c] := ⟨by simp [Text.allBlank, hc], by simp⟩

namespace Spelling

/-- Tags with blanks on both sides of what they say, and one blank behind the word that opens a
block. -/
def padded : Spelling where
  var path := Around Gap path
  each path := Around Gap (eachWord ++ [' '] ++ path)
  close := Around Gap endWord

/-- Tags with or without blanks around what they say. Only a path must be parted from the word that
opens a block. -/
def loose : Spelling where
  var path := Around (Text.allBlank ·) path
  each path inside := ∃ gap, Text.allBlank gap ∧ (path ≠ [] → gap ≠ []) ∧
    Around (Text.allBlank ·) (eachWord ++ gap ++ path) inside
  close := Around (Text.allBlank ·) endWord

end Spelling

/-- The forest written as a body. -/
inductive Prints (s : Spelling) : List Node → Text → Prop
  | nil : Prints s [] []
  | literal {nodes : List Node} {text rest : Text} :
    Prints s nodes rest → Prints s (.literal text :: nodes) (text ++ rest)
  | var {nodes : List Node} {path inside rest : Text} :
    s.var path inside → Prints s nodes rest →
    Prints s (.var path :: nodes) ((Token.tag inside).source ++ rest)
  | each {nodes children : List Node} {path inside body inside' rest : Text} :
    s.each path inside → Prints s children body → s.close inside' → Prints s nodes rest →
    Prints s (.each path children :: nodes)
      ((Token.tag inside).source ++ body ++ (Token.tag inside').source ++ rest)

theorem Prints.append {s : Spelling} {nodes nodes' : List Node} {body body' : Text}
    (h : Prints s nodes body) (h' : Prints s nodes' body') :
    Prints s (nodes ++ nodes') (body ++ body') := by
  induction h with
  | nil => exact h'
  | literal _ ih => simpa using .literal ih
  | var hvar _ ih => simpa using .var hvar ih
  | each heach hchildren hclose _ _ ih =>
    rw [List.append_assoc]
    exact .each heach hchildren hclose ih

/-! ## What a tag says -/

theorem trim_of_around {blank : Text → Prop} (hblank : ∀ w, blank w → Text.allBlank w)
    (h : Around blank t inside) : Text.trim inside = Text.trim t := by
  obtain ⟨w, w', hw, hw', rfl⟩ := h
  exact Text.trim_append_blank (hblank w hw) (hblank w' hw') t

theorem around_trim (inside : Text) : Around (Text.allBlank ·) (Text.trim inside) inside :=
  Text.trim_split inside

/-- Blanks around the word and the path do not matter, and neither do those between them. -/
theorem eachPath?_trim_eachWord {gap path : Text} (hgap : Text.allBlank gap)
    (hpath : Text.trim path = path) (hne : path ≠ [] → gap ≠ []) :
    eachPath? (Text.trim (eachWord ++ gap ++ path)) = some path := by
  by_cases hp : path = []
  · have hword : Text.trim ([] ++ eachWord ++ gap) = Text.trim eachWord :=
      Text.trim_append_blank rfl hgap eachWord
    rw [hp, List.append_nil, ← List.nil_append eachWord, hword]
    rfl
  obtain ⟨c, gap', rfl⟩ := List.exists_cons_of_ne_nil (hne hp)
  have hend : Text.trimEnd path = path := Text.trimEnd_of_trim_eq hpath
  have htrim : Text.trim (eachWord ++ c :: gap' ++ path) = eachWord ++ c :: gap' ++ path := by
    have hstart : Text.trimStart (eachWord ++ c :: gap' ++ path) = eachWord ++ c :: gap' ++ path :=
      Text.trimStart_eq_self_of_cons rfl _
    rw [Text.trim, hstart, Text.trimEnd_append_of_ne_nil (hend.symm ▸ hp), hend]
  rw [htrim, List.append_assoc, List.cons_append,
    eachPath?_append (Text.isBlank_of_mem hgap List.mem_cons_self), ← List.cons_append,
    Text.trim_blank_append hgap, hpath]

end Curriculum.Template
