import Curriculum.Schema.Field

/-! # Fields as JSON -/

namespace Curriculum

open Json (Value)

mutual
def FieldSpec.toValue : FieldSpec → Value
  | ⟨name, label, type, required, none⟩ =>
    .object [("name", .string name), ("label", .string label), ("type", .string type.name),
      ("required", .bool required)]
  | ⟨name, label, type, required, some subs⟩ =>
    .object [("name", .string name), ("label", .string label), ("type", .string type.name),
      ("required", .bool required), ("sub_fields", .array (fieldValues subs))]

def fieldValues : List FieldSpec → List Value
  | [] => []
  | f :: fs => f.toValue :: fieldValues fs
end

/-- A value as a part of a record, beside the fields that it lists. -/
def FieldSource.ofValue (v : Value) (fields : Option (List FieldSpec)) : FieldSource where
  text := v.text?
  type := v.choice?.bind FieldType.ofName?
  flag := v.bool?
  nothing := match v with
    | .null => true
    | _ => false
  fields

mutual
def FieldSpec.ofValue? : Value → Option FieldSpec
  | .object members => FieldSpec.ofRecord? (.named (sourcesOfMembers members))
  | .array items =>
    if items.length ≤ 5 then FieldSpec.ofRecord? (.listed (sourcesOfItems items)) else none
  | _ => none

/-- The fields that a value lists. -/
def fieldsOf? : Value → Option (List FieldSpec)
  | .array items => fieldsOfItems? items
  | _ => none

/-- The fields that several values describe, if all of them do. -/
def fieldsOfItems? : List Value → Option (List FieldSpec)
  | [] => some []
  | v :: vs => do some ((← FieldSpec.ofValue? v) :: (← fieldsOfItems? vs))

def sourcesOfMembers : List (Text × Value) → List (Text × FieldSource)
  | [] => []
  | (key, v) :: ms => (key, .ofValue v (fieldsOf? v)) :: sourcesOfMembers ms

def sourcesOfItems : List Value → List FieldSource
  | [] => []
  | v :: vs => .ofValue v (fieldsOf? v) :: sourcesOfItems vs
end

end Curriculum
