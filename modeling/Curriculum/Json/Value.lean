import Curriculum.Decimal.Number
import Curriculum.Text.Entries

/-! # JSON values

A value as it is read from a submission or handed to a template. Looking up a key finds its first
member; `Value.ofMembers` makes an object in which every key has one member, the last one given. -/

namespace Curriculum.Json

inductive Value where
  | null
  | bool (value : Bool)
  | number (value : Number)
  | string (value : Text)
  | array (items : List Value)
  | object (members : List (Text × Value))
  deriving Inhabited

abbrev Members := List (Text × Value)

namespace Value

/-- The object with the given members, where a later member of the same key replaces an earlier. -/
def ofMembers (members : List (Text × Value)) : Value :=
  .object (members.foldl (fun all (key, value) => bindName key value all) [])

def members? : Value → Option Members
  | .object members => some members
  | _ => none

def items? : Value → Option (List Value)
  | .array items => some items
  | _ => none

def text? : Value → Option Text
  | .string t => some t
  | _ => none

def bool? : Value → Option Bool
  | .bool b => some b
  | _ => none

/-- The texts of an array that holds strings only. -/
def texts? (v : Value) : Option (List Text) := do
  (← v.items?).mapM text?

end Value

/-! ## Records

A record is written as an object with a member for each field, or as the array of its fields in
their order, where fields at the end may be missing. -/

inductive Record (α : Type u) where
  | named (fields : List (Text × α))
  | listed (fields : List α)

namespace Record

/-- The field at a position, under a name. -/
def get? (record : Record α) (position : Nat) (name : Text) : Option α :=
  match record with
  | .named fields => lookup name fields
  | .listed fields => fields[position]?

/-- A field under a second name. Only a record with names has one. -/
def alias? (record : Record α) (name : Text) : Option α :=
  match record with
  | .named fields => lookup name fields
  | .listed _ => none

/-- A value as a record of at most `size` fields. -/
def ofValue? (size : Nat) : Value → Option (Record Value)
  | .object members => some (.named members)
  | .array items => if items.length ≤ size then some (.listed items) else none
  | _ => none

def text? (record : Record Value) (position : Nat) (name : Text) : Option Text :=
  (record.get? position name).bind Value.text?

end Record

/-- A choice without content is written as its name, or as an object whose only member has that
name and is null. -/
def Value.choice? : Value → Option Text
  | .string name => some name
  | .object [(name, .null)] => some name
  | _ => none

end Curriculum.Json
