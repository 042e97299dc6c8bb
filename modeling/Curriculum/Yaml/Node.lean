import Curriculum.Text.Basic

/-! # YAML documents

A document is a tree of scalars, sequences and mappings. What a scalar means depends on what is
expected in its place, so it keeps its text and whether it was quoted. A place that is left empty
holds the empty scalar without quotes. -/

namespace Curriculum.Yaml

inductive Node where
  | scalar (text : Text) (quoted : Bool)
  | sequence (items : List Node)
  | mapping (entries : List (Node × Node))
  deriving Inhabited

namespace Node

/-- What stands in a place that is left empty. -/
def void : Node := .scalar [] false

def text? : Node → Option Text
  | .scalar t _ => some t
  | _ => none

def plain? : Node → Option Text
  | .scalar t false => some t
  | _ => none

/-- The words for null. An empty place is one of them. -/
def nothingWords : List Text := ["", "~", "null", "Null", "NULL"]

def trueWords : List Text := ["true", "True", "TRUE"]

def falseWords : List Text := ["false", "False", "FALSE"]

/-- Nothing is said: the place is empty or holds a word for null. -/
def isNothing (n : Node) : Bool :=
  match n.plain? with
  | some t => nothingWords.contains t
  | none => false

/-- A truth value is one of six words without quotes. -/
def bool? (n : Node) : Option Bool := do
  let t ← n.plain?
  if trueWords.contains t then some true
  else if falseWords.contains t then some false
  else none

def digit? (base : Nat) (c : Char) : Option Nat :=
  let value :=
    if c.isDigit then c.toNat - '0'.toNat
    else if 'a' ≤ c && c ≤ 'f' then c.toNat - 'a'.toNat + 10
    else if 'A' ≤ c && c ≤ 'F' then c.toNat - 'A'.toNat + 10
    else base
  if value < base then some value else none

def natural? (base : Nat) (t : Text) : Option Nat :=
  if t.isEmpty then none
  else t.foldlM (fun n c => (digit? base c).map fun d => n * base + d) 0

/-- An unsigned integer below `2 ^ 64`, without quotes: decimal without leading zeros, or in base
16, 8 or 2 after `0x`, `0o` or `0b`; one plus sign may precede it. -/
def word64? (n : Node) : Option Nat := do
  let t ← n.plain?
  let body := match t with
    | '+' :: rest => rest
    | _ => t
  let value ← match body with
    | '0' :: 'x' :: rest => natural? 16 rest
    | '0' :: 'o' :: rest => natural? 8 rest
    | '0' :: 'b' :: rest => natural? 2 rest
    | '0' :: _ :: _ => none
    | _ => natural? 10 body
  if value < 0x10000000000000000 then some value else none

/-- The entries of a mapping all of whose keys are scalars. An empty place is an empty mapping. -/
def entries? : Node → Option (List (Text × Node))
  | .mapping entries => entries.mapM fun (key, value) => key.text?.map fun k => (k, value)
  | .scalar [] false => some []
  | _ => none

/-- No name of the list is the key of two entries. -/
def distinct (names : List Text) (entries : List (Text × α)) : Bool :=
  names.all fun name => (entries.filter fun e => e.1 = name).length ≤ 1

end Node

end Curriculum.Yaml
