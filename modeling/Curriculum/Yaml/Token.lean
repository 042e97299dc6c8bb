import Curriculum.Yaml.Scalar

/-! # Tokens of YAML

A document is cut into scalars and the marks around them. Blocks are told apart by the columns of
their first tokens, and each gets a token for its start and its end.

Whether a token is the key of a mapping shows only at the colon behind it. So the place where a key
may have started is remembered, and the token for the key is put there later. A key ends on the line
on which it starts and is not too long. Anchors, tags, directives and block scalars are not read,
and text that uses them is refused. -/

namespace Curriculum.Yaml

inductive Token where
  | documentStart
  | documentEnd
  | sequenceStart
  | mappingStart
  | blockEnd
  /-- The hyphen before an item. -/
  | entry
  | key
  | value
  | openSequence
  | closeSequence
  | openMapping
  | closeMapping
  | comma
  | scalar (text : Text) (quoted : Bool)
  deriving DecidableEq, Repr

/-- A place where a key may have started. -/
structure Candidate where
  /-- How many tokens precede it. -/
  position : Nat
  spot : Spot
  /-- Nothing but a key can stand there. -/
  required : Bool

structure Lexer where
  cursor : Cursor
  /-- The columns of the open blocks, the innermost first. -/
  blocks : List Nat := []
  /-- A key may start here. -/
  keys : Bool := true
  candidate : Option Candidate := none
  /-- The candidates outside of the open brackets, the innermost first. -/
  outer : List (Option Candidate) := []
  /-- The tokens so far, the last one first, and how many they are. -/
  tokens : List Token := []
  count : Nat := 0

namespace Lexer

def inBrackets (l : Lexer) : Bool := !l.outer.isEmpty

def column (l : Lexer) : Nat := l.cursor.spot.column

def push (l : Lexer) (t : Token) : Lexer :=
  { l with tokens := t :: l.tokens, count := l.count + 1 }

/-- Puts a token behind the first `position` ones. -/
def insert (l : Lexer) (position : Nat) (t : Token) : Lexer :=
  { l with tokens := l.tokens.insertIdx (l.count - position) t, count := l.count + 1 }

def take (l : Lexer) (length : Nat) (t : Token) : Lexer :=
  { l.push t with cursor := l.cursor.forward length }

/-! ## Blanks and comments -/

/-- The cursor behind blanks, comments and line ends, and whether a key may start there. Outside
brackets a new line allows a key, and no tabs where a key may start. A byte order mark may start a
line. -/
def skipFrom (brackets keys comment : Bool) (spot : Spot) : Text → Cursor × Bool
  | [] => (⟨[], spot⟩, keys)
  | c :: rest =>
    if isBreak c then skipFrom brackets (keys || !brackets) false (spot.after c) rest
    else if comment || c = '#' then skipFrom brackets keys true (spot.after c) rest
    else if c = ' ' || (c = '\t' && (brackets || !keys)) || (c = '\uFEFF' && spot.column = 0) then
      skipFrom brackets keys false (spot.after c) rest
    else (⟨c :: rest, spot⟩, keys)

def skip (l : Lexer) : Lexer :=
  let (cursor, keys) := skipFrom l.inBrackets l.keys false l.cursor.spot l.cursor.rest
  { l with cursor, keys }

/-! ## Blocks -/

/-- Ends the blocks that start in the column `least` or right of it. -/
def closeBlocks (l : Lexer) (least : Nat) : Lexer :=
  if l.inBrackets then l
  else
    let ended := (l.blocks.takeWhile (least ≤ ·)).length
    { l with
      blocks := l.blocks.drop ended
      tokens := List.replicate ended .blockEnd ++ l.tokens
      count := l.count + ended }

/-- Starts a block in a column, unless one has started there. Its token comes after `position`
others. -/
def openBlock (l : Lexer) (column position : Nat) (t : Token) : Lexer :=
  if l.inBrackets || l.blocks.head?.any (column ≤ ·) then l
  else { l.insert position t with blocks := column :: l.blocks }

/-! ## Keys -/

/-- The most characters that a key may have before its colon. -/
def keyLimit : Nat := 1024

/-- A candidate is dropped at a spot that is too far from it; `none` if a key is required. -/
def renew (spot : Spot) : Option Candidate → Option (Option Candidate)
  | none => some none
  | some c =>
    if c.spot.line < spot.line || c.spot.index + keyLimit < spot.index then
      if c.required then none else some none
    else some (some c)

def renewAll (l : Lexer) : Option Lexer := do
  let candidate ← renew l.cursor.spot l.candidate
  let outer ← l.outer.mapM (renew l.cursor.spot)
  some { l with candidate, outer }

def forget (l : Lexer) : Option Lexer :=
  if l.candidate.any (·.required) then none else some { l with candidate := none }

/-- Makes the cursor a candidate, if a key may start there. -/
def note (l : Lexer) : Option Lexer :=
  if l.keys then do
    let l ← l.forget
    let required := !l.inBrackets && l.blocks.head? = some l.column
    some { l with candidate := some ⟨l.count, l.cursor.spot, required⟩ }
  else some l

/-! ## Tokens -/

def scalar (l : Lexer) (cursor : Cursor) (keys : Bool) (text : Text) (quoted : Bool) : Lexer :=
  { l.push (.scalar text quoted) with cursor, keys }

def openBracket (l : Lexer) (t : Token) : Option Lexer := do
  let l ← l.note
  some ({ l with candidate := none, outer := l.candidate :: l.outer, keys := true }.take 1 t)

/-- A closing bracket. One that closes nothing is a token all the same. -/
def closeBracket (l : Lexer) (t : Token) : Option Lexer := do
  let l ← l.forget
  some ({ l with candidate := l.outer.head?.join, outer := l.outer.tail, keys := false }.take 1 t)

/-- A mark for the start of a key or an item in a block. -/
def blockMark (l : Lexer) (start mark : Token) : Option Lexer :=
  if l.keys then do
    let l ← (l.openBlock l.column l.count start).forget
    some (l.take 1 mark)
  else none

/-- A colon. What started at the candidate is a key. -/
def colon (l : Lexer) : Option Lexer :=
  match l.candidate with
  | some c =>
    let l := { l.insert c.position .key with candidate := none, keys := false }
    some ((l.openBlock c.spot.column c.position .mappingStart).take 1 .value)
  | none =>
    if l.inBrackets then some ({ l with keys := false }.take 1 .value)
    else if l.keys then
      some ((l.openBlock l.column l.count .mappingStart).take 1 .value)
    else none

def plainScalar (l : Lexer) : Option Lexer := do
  let l ← l.note
  let floor := match l.blocks with
    | [] => 0
    | column :: _ => column + 1
  let p ← plain? l.inBrackets floor l.cursor
  some (l.scalar p.cursor p.broken p.text false)

/-- The lexer behind the token at the cursor. -/
def next (l : Lexer) : Option Lexer :=
  if l.column = 0 && isMarker l.cursor.rest then do
    let l ← (l.closeBlocks 0).forget
    let t := if l.cursor.rest.head? = some '-' then .documentStart else .documentEnd
    some ({ l with keys := false }.take 3 t)
  else match l.cursor.rest with
    | [] => none
    | '[' :: _ => l.openBracket .openSequence
    | '\x7b' :: _ => l.openBracket .openMapping
    | ']' :: _ => l.closeBracket .closeSequence
    | '\x7d' :: _ => l.closeBracket .closeMapping
    | ',' :: _ => do
      let l ← l.forget
      some ({ l with keys := true }.take 1 .comma)
    | '"' :: rest => do
      let l ← l.note
      let (t, cursor) ← doubleFrom [] {} .none (l.cursor.spot.after '"') rest
      some (l.scalar cursor false t true)
    | '\'' :: rest => do
      let l ← l.note
      let (t, cursor) ← singleFrom [] {} (l.cursor.spot.after '\'') rest
      some (l.scalar cursor false t true)
    | c :: rest =>
      if c = '-' && atGap rest then
        if l.inBrackets then none else l.blockMark .sequenceStart .entry
      else if c = '?' && l.inBrackets then do
        let l ← l.forget
        some ({ l with keys := false }.take 1 .key)
      else if c = '?' && atGap rest then l.blockMark .mappingStart .key
      else if c = ':' && (l.inBrackets || atGap rest) then l.colon
      else l.plainScalar

/-- Cuts the rest of a document. Every step but the last takes a character at least. -/
def run : Nat → Lexer → Option (List Token)
  | 0, _ => none
  | steps + 1, l => do
    let l ← l.skip.renewAll
    let l := l.closeBlocks (l.column + 1)
    if l.cursor.rest.isEmpty then
      let l ← (l.closeBlocks 0).forget
      some l.tokens.reverse
    else run steps (← l.next)

end Lexer

def Token.ofText? (t : Text) : Option (List Token) :=
  Lexer.run (t.length + 1) ⟨⟨t, {}⟩, [], true, none, [], [], 0⟩

end Curriculum.Yaml
