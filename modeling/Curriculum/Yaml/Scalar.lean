import Curriculum.Text.Basic

/-! # Scalars of YAML

A cursor stands at a line and a column of a document. Scalars may run over several lines: blanks
around a line end do not count, a line feed alone becomes a space, and the first of several ends is
dropped if it is a line feed. -/

namespace Curriculum.Yaml

def isBlank (c : Char) : Bool := c = ' ' || c = '\t'

/-- The characters that end a line: the line feed and the two separators of Unicode. -/
def isBreak (c : Char) : Bool := c = '\n' || c = '\u2028' || c = '\u2029'

/-- A blank, a line end or the end of the document comes next. -/
def atGap : Text → Bool
  | [] => true
  | c :: _ => isBlank c || isBreak c

/-- A marker that starts or ends a document comes next. It counts at the start of a line only. -/
def isMarker : Text → Bool
  | '-' :: '-' :: '-' :: rest => atGap rest
  | '.' :: '.' :: '.' :: rest => atGap rest
  | _ => false

def isFlowMark (c : Char) : Bool := c ∈ [',', '[', ']', '\x7b', '\x7d']

/-- Where in a document: how many characters precede, and how many of them in which line. -/
structure Spot where
  index : Nat := 0
  line : Nat := 0
  column : Nat := 0
  deriving DecidableEq, Repr

def Spot.after (s : Spot) (c : Char) : Spot :=
  if isBreak c then ⟨s.index + 1, s.line + 1, 0⟩ else ⟨s.index + 1, s.line, s.column + 1⟩

/-- What is left of a document, and where it begins. -/
structure Cursor where
  rest : Text
  spot : Spot := {}

def Cursor.forward (c : Cursor) (count : Nat) : Cursor :=
  ⟨c.rest.drop count, ⟨c.spot.index + count, c.spot.line, c.spot.column + count⟩⟩

/-- What lies between two stretches of a scalar: the blanks of the first line and the line ends,
the last ones first. `escaped` tells that a backslash stood before the first line end, which is not
among the others then. -/
structure Gap where
  blanks : Text := []
  breaks : Text := []
  escaped : Bool := false

namespace Gap

def isBroken (g : Gap) : Bool := g.escaped || !g.breaks.isEmpty

def isEmpty (g : Gap) : Bool := g.blanks.isEmpty && !g.isBroken

/-- A further blank. Blanks at the start of a line do not count. -/
def addBlank (g : Gap) (c : Char) : Gap := if g.isBroken then g else { g with blanks := c :: g.blanks }

def addBreak (g : Gap) (c : Char) : Gap := { g with blanks := [], breaks := c :: g.breaks }

def fill (g : Gap) : Text :=
  if !g.isBroken then g.blanks
  else if g.escaped || g.breaks.getLast? ≠ some '\n' then g.breaks
  else if g.breaks = ['\n'] then [' ']
  else g.breaks.dropLast

end Gap

/-! ## Plain scalars -/

/-- A scalar without quotes: its text, whether line ends follow it, and the cursor behind the blanks
and line ends that follow it. -/
structure Plain where
  text : Text
  broken : Bool
  cursor : Cursor

/-- The plain scalar that ends at a spot, when `done` is its text with the last character first. -/
def Plain.ending (done : Text) (gap : Gap) (spot : Spot) (rest : Text) : Plain :=
  ⟨done.reverse, gap.isBroken, ⟨rest, spot⟩⟩

/-- The rest of a plain scalar. `done` holds what has been read, the last character first. Outside
brackets a line that starts left of `floor` does not belong to the scalar, and no tab may stand
there. -/
def plainFrom (flow : Bool) (floor : Nat) (done : Text) (gap : Gap) (spot : Spot) :
    Text → Option Plain
  | [] => some (.ending done gap spot [])
  | c :: rest =>
    if isBlank c then
      if c = '\t' && gap.isBroken && spot.column < floor then none
      else plainFrom flow floor done (gap.addBlank c) (spot.after c) rest
    else if isBreak c then plainFrom flow floor done (gap.addBreak c) (spot.after c) rest
    else if gap.isBroken && !flow && spot.column < floor then
      some (.ending done gap spot (c :: rest))
    else if spot.column = 0 && isMarker (c :: rest) then some (.ending done gap spot (c :: rest))
    else if c = '#' && !gap.isEmpty then some (.ending done gap spot (c :: rest))
    else if flow && c = ':' && (rest.head?.any fun d => isFlowMark d || d = '?') then none
    else if c = ':' && atGap rest then some (.ending done gap spot (c :: rest))
    else if flow && isFlowMark c then some (.ending done gap spot (c :: rest))
    else plainFrom flow floor (c :: (gap.fill ++ done)) {} (spot.after c) rest

/-- A plain scalar may start here. Indicators start none, but hyphens, and outside brackets question
marks and colons, do when no gap follows. -/
def startsPlain (flow : Bool) : Text → Bool
  | [] => false
  | c :: rest =>
    if c = '-' then !atGap rest
    else if c = '?' || c = ':' then !flow && !atGap rest
    else !(isBlank c || c ∈ [',', '[', ']', '\x7b', '\x7d', '#', '&', '*', '!', '|', '>', '\'', '"',
      '%', '@', '\x60'])

def plain? (flow : Bool) (floor : Nat) (c : Cursor) : Option Plain :=
  if startsPlain flow c.rest then plainFrom flow floor [] {} c.spot c.rest else none

/-! ## Quoted scalars -/

/-- The rest of a scalar in single quotes. -/
def singleFrom (done : Text) (gap : Gap) (spot : Spot) : Text → Option (Text × Cursor)
  | [] => none
  | '\'' :: '\'' :: rest =>
    singleFrom ('\'' :: (gap.fill ++ done)) {} ((spot.after '\'').after '\'') rest
  | '\'' :: rest => some ((gap.fill ++ done).reverse, ⟨rest, spot.after '\''⟩)
  | c :: rest =>
    if isBreak c then singleFrom done (gap.addBreak c) (spot.after c) rest
    else if isBlank c then singleFrom done (gap.addBlank c) (spot.after c) rest
    else if spot.column = 0 && isMarker (c :: rest) then none
    else singleFrom (c :: (gap.fill ++ done)) {} (spot.after c) rest

def escaped? : Char → Option Char
  | '0' => some '\x00'
  | 'a' => some '\x07'
  | 'b' => some '\x08'
  | 't' => some '\t'
  | '\t' => some '\t'
  | 'n' => some '\n'
  | 'v' => some '\x0b'
  | 'f' => some '\x0c'
  | 'r' => some '\r'
  | 'e' => some '\x1b'
  | ' ' => some ' '
  | '"' => some '"'
  | '/' => some '/'
  | '\\' => some '\\'
  | 'N' => some '\u0085'
  | '_' => some '\u00A0'
  | 'L' => some '\u2028'
  | 'P' => some '\u2029'
  | _ => none

/-- How many hexadecimal digits follow the letter of a long escape. -/
def codeLength? : Char → Option Nat
  | 'x' => some 2
  | 'u' => some 4
  | 'U' => some 8
  | _ => none

def hexNumber? (digits : Text) : Option Nat :=
  digits.foldlM (fun n c =>
    if c.isDigit then some (n * 16 + (c.toNat - '0'.toNat))
    else if 'a' ≤ c && c ≤ 'f' then some (n * 16 + (c.toNat - 'a'.toNat + 10))
    else if 'A' ≤ c && c ≤ 'F' then some (n * 16 + (c.toNat - 'A'.toNat + 10))
    else none) 0

/-- The character of a code point. Surrogates are none. -/
def charOf? (n : Nat) : Option Char := if n.isValidChar then some (Char.ofNat n) else none

/-- What a backslash has announced: nothing, any escape, or the remaining digits of a code point
after those read so far. -/
inductive Escape where
  | none
  | start
  | code (digits : Nat) (read : Text)

/-- The rest of a scalar in double quotes. -/
def doubleFrom (done : Text) (gap : Gap) (escape : Escape) (spot : Spot) :
    Text → Option (Text × Cursor)
  | [] => none
  | c :: rest =>
    match escape with
    | .code digits read =>
      if digits ≤ 1 then
        match (hexNumber? (read ++ [c])).bind charOf? with
        | some d => doubleFrom (d :: done) {} .none (spot.after c) rest
        | none => none
      else doubleFrom done {} (.code (digits - 1) (read ++ [c])) (spot.after c) rest
    | .start =>
      if isBreak c then doubleFrom done { escaped := true } .none (spot.after c) rest
      else match codeLength? c, escaped? c with
        | some digits, _ => doubleFrom done {} (.code digits []) (spot.after c) rest
        | none, some d => doubleFrom (d :: done) {} .none (spot.after c) rest
        | none, none => none
    | .none =>
      if c = '"' then some ((gap.fill ++ done).reverse, ⟨rest, spot.after c⟩)
      else if isBreak c then doubleFrom done (gap.addBreak c) .none (spot.after c) rest
      else if isBlank c then doubleFrom done (gap.addBlank c) .none (spot.after c) rest
      else if spot.column = 0 && isMarker (c :: rest) then none
      else if c = '\\' then doubleFrom (gap.fill ++ done) {} .start (spot.after c) rest
      else doubleFrom (c :: (gap.fill ++ done)) {} .none (spot.after c) rest

end Curriculum.Yaml
