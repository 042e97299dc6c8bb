import Curriculum.Json.Value

/-! # Fields of a schema

A schema describes the fields of a form. A repeatable field may have fields of its own. -/

namespace Curriculum

inductive FieldType where
  | text
  | textarea
  | list
  | repeatable
  deriving DecidableEq, Inhabited, Repr

def FieldType.name : FieldType → Text
  | .text => "text"
  | .textarea => "textarea"
  | .list => "list"
  | .repeatable => "repeatable"

def FieldType.ofName? (name : Text) : Option FieldType :=
  [FieldType.text, .textarea, .list, .repeatable].find? fun type => type.name = name

structure FieldSpec where
  name : Text
  label : Text
  type : FieldType := .text
  required : Bool := false
  /-- The fields of a repeatable field. A field of another type is not to have any, not even none
  at all. -/
  subFields : Option (List FieldSpec) := none
  deriving Inhabited

mutual
def FieldSpec.decEq : (f g : FieldSpec) → Decidable (f = g)
  | ⟨name, label, type, required, subs⟩, ⟨name', label', type', required', subs'⟩ =>
    match subs, subs' with
    | none, none =>
      decidable_of_iff ((name, label, type, required) = (name', label', type', required'))
        (by simp)
    | some subs, some subs' =>
      have := fieldsDecEq subs subs'
      decidable_of_iff
        ((name, label, type, required) = (name', label', type', required') ∧ subs = subs')
        (by simp [and_assoc])
    | none, some _ | some _, none => isFalse (by simp)

def fieldsDecEq : (fs gs : List FieldSpec) → Decidable (fs = gs)
  | [], [] => isTrue rfl
  | f :: fs, g :: gs =>
    have := f.decEq g
    have := fieldsDecEq fs gs
    decidable_of_iff (f = g ∧ fs = gs) (by simp)
  | [], _ :: _ | _ :: _, [] => isFalse (by simp)
end

instance : DecidableEq FieldSpec := FieldSpec.decEq

mutual
/-- The types of a field and of the fields below it, the field first. -/
def FieldSpec.types : FieldSpec → List FieldType
  | ⟨_, _, type, _, none⟩ => [type]
  | ⟨_, _, type, _, some subs⟩ => type :: typesOf subs

/-- The types of several fields, each followed by those below it. -/
def typesOf : List FieldSpec → List FieldType
  | [] => []
  | f :: fs => f.types ++ typesOf fs
end

mutual
/-- The first field, a field before the ones below it, that has sub fields and is not repeatable. -/
def FieldSpec.misplaced? : FieldSpec → Option FieldSpec
  | ⟨_, _, _, _, none⟩ => none
  | ⟨name, label, type, required, some subs⟩ =>
    if type = .repeatable then misplacedIn? subs else some ⟨name, label, type, required, some subs⟩

/-- The first such field of several. -/
def misplacedIn? : List FieldSpec → Option FieldSpec
  | [] => none
  | f :: fs => f.misplaced? <|> misplacedIn? fs
end

/-! ## Reading fields

A field is a record in JSON or in YAML. The two differ in what a part means, and agree on which
parts there are. -/

/-- What a part of a record may be taken for. -/
structure FieldSource where
  text : Option Text
  type : Option FieldType
  flag : Option Bool
  /-- The part says that there is nothing. -/
  nothing : Bool
  fields : Option (List FieldSpec)

/-- A part that may be left out but not be malformed. -/
def optional (part : Option α) (default : β) (read : α → Option β) : Option β :=
  match part with
  | none => some default
  | some a => read a

/-- The field that a record describes. Its sub fields have two names, of which only one may be
used, and may be there to say that there are none. -/
def FieldSpec.ofRecord? (r : Json.Record FieldSource) : Option FieldSpec := do
  let name ← (← r.get? 0 "name").text
  let label ← (← r.get? 1 "label").text
  let type ← optional (r.get? 2 "type") .text FieldSource.type
  let required ← optional (r.get? 3 "required") false FieldSource.flag
  let sub ← match r.get? 4 "sub_fields", r.alias? "subFields" with
    | some _, some _ => none
    | some s, none => some (some s)
    | none, other => some other
  let subFields ← optional sub none fun s => if s.nothing then some none else s.fields.map some
  some ⟨name, label, type, required, subFields⟩

end Curriculum
