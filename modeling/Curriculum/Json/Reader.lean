import Curriculum.Json.Value

/-! # Reading JSON

A text is one value between blanks. Numbers have no leading zeros and must fit a double, strings
hold no control characters and no lone surrogates, and values nest to a limited depth. -/

namespace Curriculum.Json

namespace Reader

/-- The blanks between the tokens of JSON. -/
def isGap (c : Char) : Bool := c = ' ' || c = '\n' || c = '\t' || c = '\r'

def skipGaps (t : Text) : Text := t.dropWhile isGap

/-! ## Strings -/

def hexDigit? (c : Char) : Option Nat :=
  if c.isDigit then some (c.toNat - '0'.toNat)
  else if 'a' ≤ c && c ≤ 'f' then some (c.toNat - 'a'.toNat + 10)
  else if 'A' ≤ c && c ≤ 'F' then some (c.toNat - 'A'.toNat + 10)
  else none

def unit? (a b c d : Char) : Option Nat := do
  some (((← hexDigit? a) * 16 + (← hexDigit? b)) * 256 + (← hexDigit? c) * 16 + (← hexDigit? d))

def isHighSurrogate (n : Nat) : Bool := 0xD800 ≤ n && n < 0xDC00

def isLowSurrogate (n : Nat) : Bool := 0xDC00 ≤ n && n < 0xE000

def shortEscape? : Char → Option Char
  | '"' => some '"'
  | '\\' => some '\\'
  | '/' => some '/'
  | 'b' => some '\x08'
  | 'f' => some '\x0c'
  | 'n' => some '\n'
  | 'r' => some '\r'
  | 't' => some '\t'
  | _ => none

/-- The rest of a string after its opening quote, and what follows the closing one. -/
def stringBody : Text → Option (Text × Text)
  | [] => none
  | '"' :: rest => some ([], rest)
  | '\\' :: 'u' :: a :: b :: c :: d :: '\\' :: 'u' :: e :: f :: g :: h :: rest => do
    let high ← unit? a b c d
    if isHighSurrogate high then
      let low ← unit? e f g h
      if isLowSurrogate low then
        let (more, after) ← stringBody rest
        some (Char.ofNat (0x10000 + (high - 0xD800) * 0x400 + (low - 0xDC00)) :: more, after)
      else none
    else if isLowSurrogate high then none
    else
      let (more, after) ← stringBody ('\\' :: 'u' :: e :: f :: g :: h :: rest)
      some (Char.ofNat high :: more, after)
  | '\\' :: 'u' :: a :: b :: c :: d :: rest => do
    let n ← unit? a b c d
    if isHighSurrogate n || isLowSurrogate n then none
    else
      let (more, after) ← stringBody rest
      some (Char.ofNat n :: more, after)
  | '\\' :: e :: rest => do
    let c ← shortEscape? e
    let (more, after) ← stringBody rest
    some (c :: more, after)
  | c :: rest => do
    if c.toNat < 0x20 then none
    else
      let (more, after) ← stringBody rest
      some (c :: more, after)

/-! ## Numbers -/

/-- The exponent of a numeral, if it has one. -/
def exponent (t : Text) : Option (Option Int × Text) :=
  match t with
  | e :: rest =>
    if e = 'e' || e = 'E' then do
      let (negative, body) := match rest with
        | '+' :: r => (false, r)
        | '-' :: r => (true, r)
        | r => (false, r)
      let (ds, after) := body.span Char.isDigit
      let n ← Text.natural? ds
      some (some (if negative then -Int.ofNat n else Int.ofNat n), after)
    else some (none, t)
  | [] => some (none, [])

/-- The digits after the point of a numeral, if it has one. -/
def fraction (t : Text) : Option (Option Text × Text) :=
  match t with
  | '.' :: rest =>
    let (ds, after) := rest.span Char.isDigit
    if ds.isEmpty then none else some (some ds, after)
  | _ => some (none, t)

def number (t : Text) : Option (Number × Text) := do
  let (negative, body) := match t with
    | '-' :: r => (true, r)
    | r => (false, r)
  let (whole, rest) := body.span Char.isDigit
  if whole.isEmpty || (whole.length > 1 && whole.head? = some '0') then none
  else
    let (frac, rest) ← fraction rest
    let (power, rest) ← exponent rest
    some (← Number.ofNumeral ⟨negative, whole, frac, power⟩, rest)

/-! ## Values

The first argument bounds the steps and the second the depth. Every step takes at least one
character, so as many steps as there are characters always suffice. -/

mutual
def value : Nat → Nat → Text → Option (Value × Text)
  | 0, _, _ => none
  | steps + 1, depth, t =>
    match skipGaps t with
    | 'n' :: 'u' :: 'l' :: 'l' :: rest => some (.null, rest)
    | 't' :: 'r' :: 'u' :: 'e' :: rest => some (.bool true, rest)
    | 'f' :: 'a' :: 'l' :: 's' :: 'e' :: rest => some (.bool false, rest)
    | '"' :: rest => do
      let (s, rest) ← stringBody rest
      some (.string s, rest)
    | '[' :: rest =>
      match depth, skipGaps rest with
      | 0, _ => none
      | _ + 1, ']' :: rest => some (.array [], rest)
      | depth + 1, rest => do
        let (vs, rest) ← items steps depth rest
        some (.array vs, rest)
    | '\x7b' :: rest =>
      match depth, skipGaps rest with
      | 0, _ => none
      | _ + 1, '\x7d' :: rest => some (.object [], rest)
      | depth + 1, rest => do
        let (ms, rest) ← members steps depth rest
        some (.ofMembers ms, rest)
    | rest => do
      let (n, rest) ← number rest
      some (.number n, rest)

/-- The items of an array after its bracket, through the closing one. -/
def items : Nat → Nat → Text → Option (List Value × Text)
  | 0, _, _ => none
  | steps + 1, depth, t => do
    let (v, rest) ← value steps depth t
    match skipGaps rest with
    | ',' :: rest => do
      let (vs, rest) ← items steps depth rest
      some (v :: vs, rest)
    | ']' :: rest => some ([v], rest)
    | _ => none

/-- The members of an object after its brace, through the closing one. -/
def members : Nat → Nat → Text → Option (List (Text × Value) × Text)
  | 0, _, _ => none
  | steps + 1, depth, t =>
    match skipGaps t with
    | '"' :: rest => do
      let (key, rest) ← stringBody rest
      match skipGaps rest with
      | ':' :: rest => do
        let (v, rest) ← value steps depth rest
        match skipGaps rest with
        | ',' :: rest => do
          let (ms, rest) ← members steps depth rest
          some ((key, v) :: ms, rest)
        | '\x7d' :: rest => some ([(key, v)], rest)
        | _ => none
      | _ => none
    | _ => none
end

end Reader

/-- How many arrays and objects may lie within one another. -/
def depthLimit : Nat := 127

/-- The value that a text denotes, nested to at most `depth`. -/
def Value.parse? (t : Text) (depth : Nat) : Option Value := do
  let (v, rest) ← Reader.value (t.length + 1) depth t
  if (Reader.skipGaps rest).isEmpty then some v else none

end Curriculum.Json
