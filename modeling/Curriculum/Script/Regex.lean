import Curriculum.Script.Pattern

/-! # Regular expressions

A regular expression matches stretches of a text and remembers what its groups have matched. Of the
matches in a text the one that starts first counts, and of those the longest. -/

namespace Curriculum.Script

inductive Regex where
  | empty
  | one (s : CharSet)
  /-- The place where `test` holds of the characters before and behind it. -/
  | place (test : Option Char → Option Char → Bool)
  | sequence (a b : Regex)
  | either (a b : Regex)
  | several (a : Regex) (least : Nat) (most : Option Nat)
  | group (number : Nat) (a : Regex)
  /-- The text that a group has matched. -/
  | again (number : Nat)

namespace Regex

/-- A place in a text, with the groups that have matched on the way to it. -/
structure Spot where
  /-- The characters before the place, the last one first. -/
  before : Text
  behind : Text
  passed : Nat := 0
  groups : List (Nat × Text) := []

def Spot.advance (s : Spot) (count : Nat) : Spot :=
  { s with
    before := (s.behind.take count).reverse ++ s.before
    behind := s.behind.drop count
    passed := s.passed + count }

/-- The spots without those at the place of an earlier one. -/
def distinctSpots (seen : List Nat) : List Spot → List Spot
  | [] => []
  | s :: rest =>
    if seen.contains s.passed then distinctSpots seen rest
    else s :: distinctSpots (s.passed :: seen) rest

/-- Repeats a step that goes on from a spot, at least and at most so many times. What it passes
grows, so `fuel` is what is left of the text. -/
def repeated (step : Spot → List Spot) (fuel least : Nat) (most : Option Nat) (s : Spot) :
    List Spot :=
  match fuel with
  | 0 => if least = 0 then [s] else []
  | fuel + 1 =>
    let more := if most = some 0 then [] else (step s).flatMap fun t =>
      if s.passed < t.passed || 0 < least then
        repeated step fuel (least - 1) (most.map (· - 1)) t
      else []
    distinctSpots [] (if least = 0 then more ++ [s] else more)

/-- The spots to which a match can lead, as many characters as possible first. -/
def spots : Regex → Spot → List Spot
  | empty, s => [s]
  | one set, s =>
    match s.behind with
    | c :: _ => if set.contains c then [s.advance 1] else []
    | [] => []
  | place test, s => if test s.before.head? s.behind.head? then [s] else []
  | sequence a b, s => distinctSpots [] ((a.spots s).flatMap b.spots)
  | either a b, s => distinctSpots [] (a.spots s ++ b.spots s)
  | several a least most, s => repeated a.spots (s.behind.length + least + 1) least most s
  | group n a, s => (a.spots s).map fun t =>
    { t with groups := assignGroup n (s.behind.take (t.passed - s.passed)) t.groups }
  | again n, s =>
    match s.groups.lookup n with
    | some t => if t.isPrefixOf s.behind then [s.advance t.length] else []
    | none => []
where
  assignGroup (n : Nat) (t : Text) (groups : List (Nat × Text)) : List (Nat × Text) :=
    (n, t) :: groups.filter fun g => g.1 ≠ n

structure Found where
  /-- What was passed over to get to it. -/
  skipped : Text
  matched : Text
  rest : Text
  groups : List (Nat × Text)

/-- The first match at or behind a place, `before` being reversed; `skipped` is reversed too. -/
def findFrom (r : Regex) (before skipped : Text) : Text → Option Found
  | [] => (longest (r.spots ⟨before, [], 0, []⟩)).map (found [])
  | c :: t =>
    match longest (r.spots ⟨before, c :: t, 0, []⟩) with
    | some s => some (found (c :: t) s)
    | none => findFrom r (c :: before) (c :: skipped) t
where
  longest (spots : List Spot) : Option Spot :=
    spots.foldl (fun best s => if best.all (·.passed < s.passed) then some s else best) none
  found (t : Text) (s : Spot) : Found :=
    ⟨skipped.reverse, t.take s.passed, t.drop s.passed, s.groups⟩

def find? (r : Regex) (t : Text) : Option Found := r.findFrom [] [] t

/-! ## Reading -/

inductive Token where
  | char (c : Char)
  | set (s : CharSet)
  | opening
  | closing
  | bar
  | count (least : Nat) (most : Option Nat)
  | caret
  | dollar
  | place (test : Option Char → Option Char → Bool)
  | again (n : Nat)

def isWordChar (c : Option Char) : Bool := c.any isWordPart
where
  isWordPart (c : Char) : Bool := c.isAlphanum || c = '_'

/-- The word characters, or all others. -/
def wordSet (negated : Bool) : CharSet :=
  ⟨negated, [('a', 'z'), ('A', 'Z'), ('0', '9'), ('_', '_')]⟩

def spaceSet (negated : Bool) : CharSet := ⟨negated, [('\t', '\r'), (' ', ' ')]⟩

/-- The bounds of a repetition up to the closing brace, and what follows. -/
def bounds? (extended : Bool) (t : Text) : Option (Token × Text) := do
  let least := t.takeWhile Char.isDigit
  let t := t.drop least.length
  let comma := t.head? = some ','
  let t := if comma then t.drop 1 else t
  let most := t.takeWhile Char.isDigit
  let rest ← (if extended then ['\x7d'] else ['\\', '\x7d'] : Text).isPrefixOf? (t.drop most.length)
  let low := (Text.natural? least).getD 0
  if least.isEmpty && !comma then none
  return (.count low (if comma then Text.natural? most else some low), rest)

/-- The token behind a backslash. -/
def escaped (extended : Bool) (c : Char) (rest : Text) : Option (Token × Text) :=
  match c with
  | '(' => some (if extended then .char c else .opening, rest)
  | ')' => some (if extended then .char c else .closing, rest)
  | '|' => some (if extended then .char c else .bar, rest)
  | '+' => some (if extended then .char c else .count 1 none, rest)
  | '?' => some (if extended then .char c else .count 0 (some 1), rest)
  | '\x7b' => if extended then some (.char c, rest) else bounds? false rest
  | 'n' => some (.char '\n', rest)
  | 't' => some (.char '\t', rest)
  | 'w' => some (.set (wordSet false), rest)
  | 'W' => some (.set (wordSet true), rest)
  | 's' => some (.set (spaceSet false), rest)
  | 'S' => some (.set (spaceSet true), rest)
  | '<' => some (.place fun a b => !isWordChar a && isWordChar b, rest)
  | '>' => some (.place fun a b => isWordChar a && !isWordChar b, rest)
  | 'b' => some (.place fun a b => isWordChar a != isWordChar b, rest)
  | 'B' => some (.place fun a b => isWordChar a == isWordChar b, rest)
  | '\x60' => some (.place fun a _ => a.isNone, rest)
  | '\'' => some (.place fun _ b => b.isNone, rest)
  | _ => if c.isDigit && c ≠ '0' then some (.again (c.toNat - '0'.toNat), rest)
    else some (.char c, rest)

/-- The tokens of a written expression, of the extended kind or the basic one. Each takes a
character at least. -/
def tokens? (extended : Bool) (fuel : Nat) (t : Text) : Option (List Token) :=
  match fuel, t with
  | _, [] => some []
  | 0, _ => none
  | _, ['\\'] => none
  | fuel + 1, '\\' :: c :: rest => do
    let (token, rest) ← escaped extended c rest
    return token :: (← tokens? extended fuel rest)
  | fuel + 1, '[' :: rest => do
    let (s, after) ← charSet? (rest.map fun c => (c, c = '!'))
    return .set s :: (← tokens? extended fuel (after.map (·.1)))
  | fuel + 1, c :: rest => do
    let (token, rest) := match c, extended with
      | '.', _ => (.set ⟨true, []⟩, rest)
      | '*', _ => (.count 0 none, rest)
      | '^', _ => (.caret, rest)
      | '$', _ => (.dollar, rest)
      | '(', true => (.opening, rest)
      | ')', true => (.closing, rest)
      | '|', true => (.bar, rest)
      | '+', true => (.count 1 none, rest)
      | '?', true => (.count 0 (some 1), rest)
      | '\x7b', true => (bounds? true rest).getD (.char c, rest)
      | _, _ => (.char c, rest)
    return token :: (← tokens? extended fuel rest)

/-- The tokens ahead, and the number of the last group. -/
structure Ahead where
  tokens : List Token
  groups : Nat := 0

abbrev Reader := StateT Ahead Option

/-- The character matched by itself, or with both of its cases. -/
def single (fold : Bool) (c : Char) : Regex :=
  if fold then one ⟨false, [(c.toLower, c.toLower), (c.toUpper, c.toUpper)]⟩
  else one ⟨false, [(c, c)]⟩

def foldSet (fold : Bool) (s : CharSet) : CharSet :=
  if fold then
    let letters := "abcdefghijklmnopqrstuvwxyz".toList
    let both (c d : Char) : Bool := s.ranges.any fun (low, high) =>
      (low ≤ c && c ≤ high) || (low ≤ d && d ≤ high)
    let more := letters.filter fun c => both c c.toUpper
    { s with ranges := s.ranges ++ more.flatMap fun c => [(c, c), (c.toUpper, c.toUpper)] }
  else s

def lineStart : Regex := place fun a _ => a.isNone

def lineEnd : Regex := place fun _ b => b.isNone

/-- The counts that follow a part apply to it. -/
def counted (fuel : Nat) (r : Regex) : Reader Regex :=
  match fuel with
  | 0 => return r
  | fuel + 1 => do
    match (← get).tokens with
    | .count least most :: rest =>
      modify fun a => { a with tokens := rest }
      counted fuel (several r least most)
    | _ => return r

mutual

/-- Alternatives up to a closing bracket or the end. -/
def alternatives (extended fold : Bool) (fuel : Nat) : Reader Regex :=
  match fuel with
  | 0 => failure
  | fuel + 1 => do
    let a ← parts extended fold fuel true
    match (← get).tokens with
    | .bar :: rest =>
      modify fun s => { s with tokens := rest }
      return either a (← alternatives extended fold fuel)
    | _ => return a

/-- Parts one after the other; `start` tells that none came before. In basic expressions a star that
comes first and an anchor in the middle are characters. -/
def parts (extended fold : Bool) (fuel : Nat) (start : Bool) : Reader Regex :=
  match fuel with
  | 0 => failure
  | fuel + 1 => do
    match (← get).tokens with
    | [] | .bar :: _ | .closing :: _ => return empty
    | token :: rest =>
      modify fun s => { s with tokens := rest }
      let follow (r : Regex) : Reader Regex := do
        let r ← counted rest.length r
        return sequence r (← parts extended fold fuel false)
      match token with
      | .char c => follow (single fold c)
      | .set s => follow (one (foldSet fold s))
      | .place test => return sequence (place test) (← parts extended fold fuel start)
      | .again n => follow (again n)
      | .caret =>
        if extended || start then return sequence lineStart (← parts extended fold fuel true)
        else follow (single fold '^')
      | .dollar =>
        let final := match rest with
          | [] | .bar :: _ | .closing :: _ => true
          | _ => false
        if extended || final then follow lineEnd else follow (single fold '$')
      | .count .. => if extended then parts extended fold fuel start else follow (single fold '*')
      | .opening =>
        modify fun s => { s with groups := s.groups + 1 }
        let n := (← get).groups
        let r ← alternatives extended fold fuel
        match (← get).tokens with
        | .closing :: rest =>
          modify fun s => { s with tokens := rest }
          follow (group n r)
        | _ => failure
      | .bar | .closing => failure

end

/-- The expression that is written as a text; `fold` tells that the case of letters does not
count. -/
def parse? (extended fold : Bool) (t : Text) : Option Regex := do
  let tokens ← tokens? extended t.length t
  let (r, ahead) ← (alternatives extended fold (2 * tokens.length + 2)).run { tokens }
  if ahead.tokens.isEmpty then some r else none

/-- The expression that matches a text itself. -/
def ofText (fold : Bool) (t : Text) : Regex :=
  t.foldr (fun c r => sequence (single fold c) r) empty

end Regex

end Curriculum.Script
