import Curriculum.Json.Value

/-! # Writing JSON

A value is written either on one line without blanks, or with one member or item a line and two
blanks for each level. Both forms escape quotes, backslashes and control characters only. -/

namespace Curriculum.Json

private def hexChar (n : Nat) : Char := (Nat.toDigits 16 n).headD '0'

/-- A character of a string as it is written. -/
def escapeChar (c : Char) : Text :=
  if c = '"' then ['\\', '"']
  else if c = '\\' then ['\\', '\\']
  else if c = '\n' then ['\\', 'n']
  else if c = '\r' then ['\\', 'r']
  else if c = '\t' then ['\\', 't']
  else if c = '\x08' then ['\\', 'b']
  else if c = '\x0c' then ['\\', 'f']
  else if c.toNat < 0x20 then
    ['\\', 'u', '0', '0', hexChar (c.toNat / 16), hexChar (c.toNat % 16)]
  else [c]

def quote (t : Text) : Text := '"' :: t.flatMap escapeChar ++ ['"']

mutual
/-- A value on one line. -/
def Value.compact : Value → Text
  | .null => "null"
  | .bool true => "true"
  | .bool false => "false"
  | .number n => n.display
  | .string s => quote s
  | .array [] => ['[', ']']
  | .array (v :: vs) => '[' :: v.compact ++ compactItems vs ++ [']']
  | .object [] => ['\x7b', '\x7d']
  | .object ((k, v) :: ms) => '\x7b' :: quote k ++ ':' :: v.compact ++ compactMembers ms ++ ['\x7d']

/-- Items after the first one. -/
def compactItems : List Value → Text
  | [] => []
  | v :: vs => ',' :: v.compact ++ compactItems vs

/-- Members after the first one. -/
def compactMembers : List (Text × Value) → Text
  | [] => []
  | (k, v) :: ms => ',' :: quote k ++ ':' :: v.compact ++ compactMembers ms
end

def newLine (level : Nat) : Text := '\n' :: List.replicate (2 * level) ' '

mutual
/-- A value over several lines, where `level` is that of the line it starts on. -/
def Value.prettyAt (level : Nat) : Value → Text
  | .null => "null"
  | .bool true => "true"
  | .bool false => "false"
  | .number n => n.display
  | .string s => quote s
  | .array [] => ['[', ']']
  | .array (v :: vs) =>
    '[' :: newLine (level + 1) ++ v.prettyAt (level + 1) ++ prettyItems (level + 1) vs ++
      newLine level ++ [']']
  | .object [] => ['\x7b', '\x7d']
  | .object ((k, v) :: ms) =>
    '\x7b' :: newLine (level + 1) ++ quote k ++ ':' :: ' ' :: v.prettyAt (level + 1) ++
      prettyMembers (level + 1) ms ++ newLine level ++ ['\x7d']

def prettyItems (level : Nat) : List Value → Text
  | [] => []
  | v :: vs => ',' :: newLine level ++ v.prettyAt level ++ prettyItems level vs

def prettyMembers (level : Nat) : List (Text × Value) → Text
  | [] => []
  | (k, v) :: ms =>
    ',' :: newLine level ++ quote k ++ ':' :: ' ' :: v.prettyAt level ++ prettyMembers level ms
end

def Value.pretty (v : Value) : Text := v.prettyAt 0

end Curriculum.Json
