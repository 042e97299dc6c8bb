import Curriculum.Text.Basic

/-! # Template ids

An id is a non-empty word of ASCII letters, digits, hyphens and underscores, so it always serves as
the stem of a file name. -/

namespace Curriculum

/-- The characters of ids. -/
def isIdChar (c : Char) : Bool := c.isAlphanum || c = '-' || c = '_'

structure TemplateId where
  text : Text
  valid : (!text.isEmpty && text.all isIdChar) = true

namespace TemplateId

instance : DecidableEq TemplateId := fun a b =>
  decidable_of_iff (a.text = b.text) ⟨fun h => by cases a; cases b; cases h; rfl, fun h => h ▸ rfl⟩

/-- The id that a text spells, if it spells one. -/
def ofText? (t : Text) : Option TemplateId :=
  if h : (!t.isEmpty && t.all isIdChar) = true then some ⟨t, h⟩ else none

/-- What is said about text that is no id. -/
def refusal (t : Text) : Text :=
  "invalid template id '".toList ++ t ++
    "'; expected ASCII letters, digits, '-' or '_'".toList

theorem ofText?_text (id : TemplateId) : ofText? id.text = some id := by
  simp [ofText?, id.valid]

theorem text_of_ofText? {t : Text} {id : TemplateId} (h : ofText? t = some id) : id.text = t := by
  unfold ofText? at h
  split at h <;> simp_all
  exact h ▸ rfl

end TemplateId

end Curriculum
