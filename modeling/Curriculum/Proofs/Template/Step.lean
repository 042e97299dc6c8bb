import Curriculum.Proofs.Template.Normal

/-! # What a tag does while a body is read

A tag opens a block, closes the innermost one or is a variable. A closing tag where no block is open
is text. -/

namespace Curriculum.Template

namespace Reading

variable {inside path : Text}

theorem step_each (r : Reading) (h : eachPath? (Text.trim inside) = some path) :
    r.step (.tag inside) = ⟨[], ⟨path, r.current⟩ :: r.blocks⟩ := by
  simp only [step, h]

theorem step_close (h : Text.trim inside = endWord) (current : List Node) (block : OpenBlock)
    (blocks : List OpenBlock) :
    step ⟨current, block :: blocks⟩ (.tag inside) =
      ⟨.each block.path current.reverse :: block.before, blocks⟩ := by
  have heach : eachPath? endWord = none := rfl
  simp only [step, h, heach, if_true]

theorem step_stray (h : Text.trim inside = endWord) (current : List Node) :
    step ⟨current, []⟩ (.tag inside) = step ⟨current, []⟩ (.text (Token.tag inside).source) := by
  have heach : eachPath? endWord = none := rfl
  simp only [step, h, heach, if_true]

theorem step_var (r : Reading) (h : Text.trim inside = path) (hopen : ¬OpensBlock path)
    (hend : path ≠ endWord) :
    r.step (.tag inside) = { r with current := .var path :: r.current } := by
  simp only [step, h, eachPath?_eq_none_iff.2 hopen, if_neg hend]

/-- All that a tag can do. -/
theorem step_tag_cases (r : Reading) (inside : Text) :
    (∃ path, eachPath? (Text.trim inside) = some path ∧
      r.step (.tag inside) = ⟨[], ⟨path, r.current⟩ :: r.blocks⟩) ∨
    (∃ block blocks, Text.trim inside = endWord ∧ r.blocks = block :: blocks ∧
      r.step (.tag inside) = ⟨.each block.path r.current.reverse :: block.before, blocks⟩) ∨
    (Text.trim inside = endWord ∧ r.blocks = [] ∧
      r.step (.tag inside) = r.step (.text (Token.tag inside).source)) ∨
    (¬OpensBlock (Text.trim inside) ∧ Text.trim inside ≠ endWord ∧
      r.step (.tag inside) = { r with current := .var (Text.trim inside) :: r.current }) := by
  cases heach : eachPath? (Text.trim inside) with
  | some path => exact .inl ⟨path, rfl, r.step_each heach⟩
  | none =>
    right
    by_cases hend : Text.trim inside = endWord
    · obtain ⟨current, _ | ⟨block, blocks⟩⟩ := r
      · exact .inr (.inl ⟨hend, rfl, step_stray hend current⟩)
      · exact .inl ⟨block, blocks, hend, rfl, step_close hend current block blocks⟩
    · have hopen := eachPath?_eq_none_iff.1 heach
      exact .inr (.inr ⟨hopen, hend, r.step_var rfl hopen hend⟩)

end Reading

end Curriculum.Template
