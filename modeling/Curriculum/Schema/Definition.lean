import Curriculum.Schema.FieldValue
import Curriculum.Schema.TemplateId

/-! # Template definitions

What is published of a template: its id, the name shown for it, and the fields of its form. -/

namespace Curriculum

open Json (Record Value)

structure Definition where
  id : TemplateId
  name : Text
  fields : List FieldSpec

namespace Definition

def toValue (d : Definition) : Value :=
  .object [("id", .string d.id.text), ("name", .string d.name),
    ("fields", .array (fieldValues d.fields))]

def ofValue? (v : Value) : Option Definition := do
  let r ← Record.ofValue? 3 v
  let id ← TemplateId.ofText? (← r.text? 0 "id")
  let name ← r.text? 1 "name"
  some ⟨id, name, ← fieldsOf? (← r.get? 2 "fields")⟩

/-- The entry of a listing. -/
def summary (d : Definition) : Value :=
  .object [("id", .string d.id.text), ("name", .string d.name)]

end Definition

end Curriculum
