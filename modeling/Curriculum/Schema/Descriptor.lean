import Curriculum.Schema.Field
import Curriculum.Yaml.Document

/-! # Schema descriptors

A descriptor is the YAML file that names a template and lists its fields. Its id is not part of
it. -/

namespace Curriculum

open Yaml (Node)

/-- A node as a part of a record, beside the fields that it lists. -/
def FieldSource.ofNode (n : Node) (fields : Option (List FieldSpec)) : FieldSource where
  text := n.text?
  type := n.text?.bind FieldType.ofName?
  flag := n.bool?
  nothing := n.isNothing
  fields

def FieldSpec.partNames : List Text :=
  ["name", "label", "type", "required", "sub_fields", "subFields"]

mutual
/-- The field that a node describes, nested to at most the given depth. No part may be given
twice. -/
def FieldSpec.ofNode? : Nat → Node → Option FieldSpec
  | depth + 1, .mapping entries => do
    let sources ← sourcesOfEntries? depth entries
    if Node.distinct FieldSpec.partNames sources then FieldSpec.ofRecord? (.named sources) else none
  | _, _ => none

/-- The fields that a node lists. An empty place lists none. -/
def fieldsOfNode? : Nat → Node → Option (List FieldSpec)
  | depth + 1, .sequence items => fieldsOfNodes? depth items
  | _, .scalar [] false => some []
  | _, _ => none

def fieldsOfNodes? : Nat → List Node → Option (List FieldSpec)
  | _, [] => some []
  | depth, n :: ns => do
    some ((← FieldSpec.ofNode? depth n) :: (← fieldsOfNodes? depth ns))

/-- The entries of a mapping as parts of a record, if all of its keys are scalars. -/
def sourcesOfEntries? : Nat → List (Node × Node) → Option (List (Text × FieldSource))
  | _, [] => some []
  | depth, (key, n) :: es => do
    let source := FieldSource.ofNode n (fieldsOfNode? depth n)
    some ((← key.text?, source) :: (← sourcesOfEntries? depth es))
end

structure Descriptor where
  name : Text
  fields : List FieldSpec := []
  deriving DecidableEq

namespace Descriptor

/-- How many sequences and mappings may lie within one another. -/
def depthLimit : Nat := 128

def ofNode? (n : Node) : Option Descriptor := do
  let entries ← n.entries?
  if Node.distinct ["name", "fields"] entries then
    let name ← (← lookup "name" entries).text?
    let fields ← optional (lookup "fields" entries) [] (fieldsOfNode? (depthLimit - 1))
    some ⟨name, fields⟩
  else none

def parse? (t : Text) : Option Descriptor := (Node.parse? t).bind ofNode?

end Descriptor

end Curriculum
