import Curriculum.Text.Basic

/-! # Patterns

A pattern matches whole texts: names of files, the subjects of a choice, or what is cut off a value.
Quoted characters of a pattern match only themselves. -/

namespace Curriculum.Script

def classRanges? (name : Text) : Option (List (Char × Char)) :=
  match String.ofList name with
  | "alpha" => some [('a', 'z'), ('A', 'Z')]
  | "digit" => some [('0', '9')]
  | "alnum" => some [('a', 'z'), ('A', 'Z'), ('0', '9')]
  | "upper" => some [('A', 'Z')]
  | "lower" => some [('a', 'z')]
  | "space" => some [('\t', '\r'), (' ', ' ')]
  | "blank" => some [('\t', '\t'), (' ', ' ')]
  | "punct" => some [('!', '/'), (':', '@'), ('[', '\x60'), ('\x7b', '~')]
  | "print" => some [(' ', '~')]
  | "graph" => some [('!', '~')]
  | "cntrl" => some [('\x00', '\x1f'), ('\x7f', '\x7f')]
  | "xdigit" => some [('0', '9'), ('a', 'f'), ('A', 'F')]
  | _ => none

/-- Some characters: those in the ranges, or all others. -/
structure CharSet where
  negated : Bool
  ranges : List (Char × Char)
  deriving DecidableEq, Repr

def CharSet.contains (s : CharSet) (c : Char) : Bool :=
  s.ranges.any (fun (low, high) => low ≤ c && c ≤ high) != s.negated

inductive Atom where
  | char (c : Char)
  | one
  | many
  | oneOf (s : CharSet)
  deriving DecidableEq, Repr

abbrev Pattern := List Atom

/-- A character with a mark on those that are quoted. -/
abbrev Marked := Char × Bool

/-- The class at the start of a list, behind `[:`, and what follows it. -/
def class? (t : List Marked) : Option (List (Char × Char) × List Marked) :=
  let name := t.takeWhile fun m => m.1.isAlpha
  match t.drop name.length with
  | (':', _) :: (']', _) :: rest => (classRanges? (name.map (·.1))).map fun r => (r, rest)
  | _ => none

/-- The ranges up to the closing bracket, and what follows it. A bracket that comes first does not
close. -/
def setRanges (fuel : Nat) (start : Bool) (t : List Marked) :
    Option (List (Char × Char) × List Marked) :=
  match fuel, t with
  | 0, _ | _, [] => none
  | fuel + 1, (']', false) :: rest =>
    if start then (setRanges fuel false rest).map fun (r, rest) => ((']', ']') :: r, rest)
    else some ([], rest)
  | fuel + 1, ('[', false) :: (':', false) :: rest =>
    match class? rest with
    | some (ranges, rest) => (setRanges fuel false rest).map fun (r, rest) => (ranges ++ r, rest)
    | none => (setRanges fuel false ((':', false) :: rest)).map fun (r, rest) =>
      (('[', '[') :: r, rest)
  | fuel + 1, (c, _) :: ('-', false) :: (d, q) :: rest =>
    if d = ']' && !q then
      (setRanges fuel false (('-', true) :: (d, q) :: rest)).map fun (r, rest) => ((c, c) :: r, rest)
    else (setRanges fuel false rest).map fun (r, rest) => ((c, d) :: r, rest)
  | fuel + 1, (c, _) :: rest =>
    (setRanges fuel false rest).map fun (r, rest) => ((c, c) :: r, rest)

/-- The set between brackets, behind the opening one, and what follows. -/
def charSet? (t : List Marked) : Option (CharSet × List Marked) :=
  let negated := match t with
    | ('!', false) :: _ | ('^', false) :: _ => true
    | _ => false
  let t := if negated then t.drop 1 else t
  (setRanges (t.length + 1) true t).map fun (ranges, rest) => (⟨negated, ranges⟩, rest)

namespace Pattern

def ofMarked (t : List Marked) : Pattern :=
  go t.length t
where
  go (fuel : Nat) (t : List Marked) : Pattern :=
    match fuel, t with
    | 0, _ | _, [] => []
    | fuel + 1, ('*', false) :: rest => .many :: go fuel rest
    | fuel + 1, ('?', false) :: rest => .one :: go fuel rest
    | fuel + 1, ('[', false) :: rest =>
      match charSet? rest with
      | some (s, rest) => .oneOf s :: go fuel rest
      | none => .char '[' :: go fuel rest
    | fuel + 1, (c, _) :: rest => .char c :: go fuel rest

/-- The pattern matches more than one text. -/
def isOpen (p : Pattern) : Bool :=
  p.any fun
    | .char _ => false
    | _ => true

def matchesText : Pattern → Text → Bool
  | [], [] => true
  | [], _ :: _ => false
  | .many :: p, [] => matchesText p []
  | .many :: p, c :: t => matchesText p (c :: t) || matchesText (.many :: p) t
  | _ :: _, [] => false
  | .char d :: p, c :: t => c = d && matchesText p t
  | .one :: p, _ :: t => matchesText p t
  | .oneOf s :: p, c :: t => s.contains c && matchesText p t
termination_by p t => p.length + t.length

/-- The text without what the pattern matches at its start or end, as much or as little of it as
can be. -/
def cut (p : Pattern) (atEnd longest : Bool) (t : Text) : Text :=
  let lengths := List.range (t.length + 1)
  if atEnd then
    let lengths := if longest then lengths else lengths.reverse
    t.take ((lengths.find? fun n => p.matchesText (t.drop n)).getD t.length)
  else
    let lengths := if longest then lengths.reverse else lengths
    t.drop ((lengths.find? fun n => p.matchesText (t.take n)).getD 0)

end Pattern

end Curriculum.Script
