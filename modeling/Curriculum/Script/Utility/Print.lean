import Curriculum.Decimal.Places
import Curriculum.Script.Arithmetic
import Curriculum.Script.Utility.Options

/-! # Printing

Two utilities print their arguments: one as they are, the other as a format says. In both a
backslash stands with what follows it for a character. -/

namespace Curriculum.Script

def isOctal (c : Char) : Bool := '0' ≤ c && c ≤ '7'

/-- The byte that octal digits denote. -/
def octalChar (digits : Text) : Char :=
  Char.ofNat ((digits.foldl (fun n c => n * 8 + (c.toNat - '0'.toNat)) 0) % 256)

def escapes : List (Char × Char) :=
  [('a', '\x07'), ('b', '\x08'), ('f', '\x0c'), ('n', '\n'), ('r', '\r'), ('t', '\t'), ('v', '\x0b'),
    ('\\', '\\')]

/-- What a backslash and the text behind it stand for, and what follows. A zero may come before
octal digits when `zero` says so. -/
def escapeAt (zero : Bool) : Text → Text × Text
  | [] => (['\\'], [])
  | c :: rest =>
    match escapes.lookup c with
    | some d => ([d], rest)
    | none =>
      if !isOctal c then (['\\'], c :: rest)
      else
        let t := if zero && c = '0' && rest.head?.any isOctal then rest else c :: rest
        let digits := (t.take 3).takeWhile isOctal
        ([octalChar digits], t.drop digits.length)

/-- The characters that a text with backslashes stands for, and whether the output ends there. -/
def unescape (t : Text) : Text × Bool :=
  go t.length t
where
  go (fuel : Nat) (t : Text) : Text × Bool :=
    let behind (front : Text) (p : Text × Bool) : Text × Bool := (front ++ p.1, p.2)
    match fuel, t with
    | 0, _ | _, [] => ([], false)
    | _, '\\' :: 'c' :: _ => ([], true)
    | fuel + 1, '\\' :: rest =>
      let (front, rest) := escapeAt true rest
      behind front (go fuel rest)
    | fuel + 1, c :: rest => behind [c] (go fuel rest)

def echo (arguments : List Text) : Step Nat := do
  let bare := arguments.head? = some "-n".toList
  let (t, ends) := unescape (Text.join [' '] (if bare then arguments.tail else arguments))
  Step.print (if bare || ends then t else t ++ ['\n'])
  return 0

/-! ## Formats -/

structure Layout where
  flags : List Char := []
  width : Nat := 0
  precision : Option Nat := none

/-- The value with blanks or zeros up to the width. -/
def Layout.pad (l : Layout) (numeric : Bool) (t : Text) : Text :=
  let missing := l.width - t.length
  if l.flags.contains '-' then t ++ List.replicate missing ' '
  else if l.flags.contains '0' && numeric && l.precision.isNone then
    let sign := t.takeWhile fun c => c = '-' || c = '+' || c = ' '
    sign ++ List.replicate missing '0' ++ t.drop sign.length
  else List.replicate missing ' ' ++ t

/-- Digits with zeros up to the precision, behind a sign. -/
def Layout.number (l : Layout) (sign digits : Text) : Text :=
  let missing := l.precision.getD 1 - digits.length
  l.pad true (sign ++ List.replicate missing '0' ++ digits)

/-- A number as an argument: a quote stands for the code of the character behind it. The longest
start that is a number counts; the flag tells that all of it is one. -/
def numberArgument (t : Text) : Int × Bool :=
  match t with
  | [] => (0, true)
  | ['"'] | ['\''] => (0, true)
  | '"' :: c :: _ | '\'' :: c :: _ => (c.toNat, true)
  | _ =>
    match constant? t with
    | some n => (n, true)
    | none =>
      let lengths := (List.range t.length).reverse
      ((lengths.findSome? fun n => constant? (t.take n)).getD 0, false)

def inBase (base n : Nat) : Text := Nat.toDigits base n

/-- A value as a directive lays it out; nothing if there is no such directive. -/
def Layout.convert? (l : Layout) (kind : Char) (n : Int) : Option Text :=
  let plus : Text := if l.flags.contains '+' then ['+'] else if l.flags.contains ' ' then [' '] else []
  let base (front digits : Text) : Text :=
    l.number (if l.flags.contains '#' && n ≠ 0 then front else []) digits
  match kind with
  | 'd' | 'i' => some (l.number (if n < 0 then ['-'] else plus) (Number.digits n.natAbs))
  | 'u' => some (l.number [] (Number.digits (bits n)))
  | 'o' => some (base ['0'] (inBase 8 (bits n)))
  | 'x' => some (base ['0', 'x'] (inBase 16 (bits n)))
  | 'X' => some (base ['0', 'X'] ((inBase 16 (bits n)).map Char.toUpper))
  | _ => none

/-- A number with a fraction as an argument spells it: whether it is below zero, and its size. The
longest start that is a number counts; the flag tells that all of it is one. -/
def realArgument (t : Text) : (Bool × Magnitude) × Bool :=
  let size (digits : Nat) (power : Int) : Magnitude :=
    (Magnitude.ofRatio (digits * Nat.pow 10 power.toNat) (Nat.pow 10 (-power).toNat)).getD .zero
  match t with
  | '"' :: c :: _ | '\'' :: c :: _ => ((false, size c.toNat 0), true)
  | _ =>
    let unsigned := t.dropWhile fun c => c = ' ' || c = '\t' || c = '\n'
    let negative := unsigned.head? = some '-'
    let body := if negative || unsigned.head? = some '+' then unsigned.drop 1 else unsigned
    let whole := body.takeWhile Char.isDigit
    let (places, rest) := match body.drop whole.length with
      | '.' :: rest => (rest.takeWhile Char.isDigit, rest.dropWhile Char.isDigit)
      | rest => ([], rest)
    match Text.natural? (whole ++ places) with
    | none => ((false, .zero), t.isEmpty)
    | some digits =>
      let (power, rest) := match rest with
        | 'e' :: more | 'E' :: more =>
          let below := more.head? = some '-'
          let spelled := if below || more.head? = some '+' then more.drop 1 else more
          match Text.natural? (spelled.takeWhile Char.isDigit) with
          | some n => (if below then -Int.ofNat n else Int.ofNat n, spelled.dropWhile Char.isDigit)
          | none => ((0 : Int), rest)
        | _ => ((0 : Int), rest)
      ((negative, size digits (power - Int.ofNat places.length)), rest.isEmpty)

/-- The text without zeros at the end of its fraction, and without a point there. -/
def dropFraction (t : Text) : Text :=
  if t.contains '.' then
    let shorter := (t.reverse.dropWhile (· = '0')).reverse
    if shorter.getLast? = some '.' then shorter.dropLast else shorter
  else t

/-- A number with a fraction as a directive lays it out; nothing if there is no such directive. -/
def Layout.convertReal? (l : Layout) (kind : Char) (negative : Bool) (m : Magnitude) :
    Option Text := do
  let places := l.precision.getD 6
  let body ← match kind.toLower with
    | 'f' => some (m.toPlaces places).positional
    | 'e' => some ((m.toDigits (places + 1)).scientific (places + 1))
    | 'g' =>
      let count := max places 1
      let d := m.toDigits count
      let leading := if d.digits = 0 then 0 else d.leading
      if -4 ≤ leading && leading < Int.ofNat count then
        some (dropFraction (m.toPlaces (Int.ofNat count - 1 - leading).toNat).positional)
      else
        let t := d.scientific count
        let mantissa := t.takeWhile (· ≠ 'e')
        some (dropFraction mantissa ++ t.drop mantissa.length)
    | _ => none
  let sign : Text := if negative then ['-'] else if l.flags.contains '+' then ['+']
    else if l.flags.contains ' ' then [' '] else []
  let t := { l with precision := none }.pad true (sign ++ body)
  some (if kind.isUpper then t.map Char.toUpper else t)

/-- What is printed so far, with the arguments that are left. -/
structure Filling where
  printed : Text := []
  arguments : List Text
  /-- An argument was asked for. -/
  asked : Bool := false
  complaints : List Text := []
  /-- The output ends here. -/
  stopped : Bool := false
  /-- The format is none. -/
  refused : Bool := false

namespace Filling

def put (f : Filling) (t : Text) : Filling := { f with printed := f.printed ++ t }

def next (f : Filling) : Text × Filling :=
  (f.arguments.headD [], { f with arguments := f.arguments.tail, asked := true })

def complain (f : Filling) (t : Text) : Filling := { f with complaints := f.complaints ++ [t] }

/-- A count in a directive: digits, or a star that takes an argument. -/
def count? (f : Filling) (t : Text) : Option Nat × Filling × Text :=
  match t with
  | '*' :: rest => let (a, f) := f.next; (some (numberArgument a).1.toNat, f, rest)
  | _ =>
    let digits := t.takeWhile Char.isDigit
    (Text.natural? digits, f, t.drop digits.length)

def direct (f : Filling) (l : Layout) (kind : Char) : Filling :=
  let cut (t : Text) : Text := match l.precision with
    | some p => t.take p
    | none => t
  match kind with
  | 's' => let (a, f) := f.next; f.put (l.pad false (cut a))
  | 'c' => let (a, f) := f.next; f.put (l.pad false (a.take 1))
  | 'b' =>
    let (a, f) := f.next
    let (t, ends) := unescape a
    { f.put (l.pad false (cut t)) with stopped := ends }
  | _ =>
    let (a, g) := f.next
    let (n, whole) := numberArgument a
    let ((negative, m), wholeReal) := realArgument a
    let judge (t : Text) (whole zero : Bool) : Filling :=
      let g := g.put t
      if whole then g
      else g.complain (a ++ if zero && !(a.head?.any Char.isDigit)
        then ": expected numeric value".toList else ": not completely converted".toList)
    match l.convert? kind n, l.convertReal? kind negative m with
    | some t, _ => judge t whole (n = 0)
    | none, some t => judge t wholeReal (m.mantissa = 0)
    | none, none =>
      { f.complain ('%' :: kind :: ": invalid directive".toList) with
        stopped := true, refused := true }

def pass (fuel : Nat) (f : Filling) (format : Text) : Filling :=
  match fuel, format with
  | 0, _ | _, [] => f
  | fuel + 1, '\\' :: rest =>
    let (t, rest) := escapeAt false rest
    (f.put t).pass fuel rest
  | fuel + 1, '%' :: '%' :: rest => (f.put ['%']).pass fuel rest
  | fuel + 1, '%' :: rest =>
    let flags := rest.takeWhile fun c => "-+ #0".toList.contains c
    let (width, f, rest) := f.count? (rest.drop flags.length)
    let (precision, f, rest) := match rest with
      | '.' :: rest => let (p, f, rest) := f.count? rest; (some (p.getD 0), f, rest)
      | _ => (none, f, rest)
    match rest with
    | [] => { f.complain "missing format character" with stopped := true, refused := true }
    | kind :: rest =>
      let f := f.direct ⟨flags, width.getD 0, precision⟩ kind
      if f.stopped then f else f.pass fuel rest
  | fuel + 1, c :: rest => (f.put [c]).pass fuel rest

/-- Passes over a format as long as it takes arguments of those that are left. -/
def passes (fuel : Nat) (f : Filling) (format : Text) : Filling :=
  match fuel with
  | 0 => f
  | fuel + 1 =>
    let f := { f with asked := false }.pass format.length format
    if f.stopped || !f.asked || f.arguments.isEmpty then f else f.passes fuel format

end Filling

def printf (arguments : List Text) : Step Nat := do
  match if arguments.head? = some "--".toList then arguments.tail else arguments with
  | [] => Step.complain (← Step.complaint "printf: usage: printf format [arg ...]") 2
  | format :: arguments =>
    let f := { arguments : Filling }.passes (arguments.length + 1) format
    for t in f.complaints do
      Step.write 2 ((← Step.complaint ("printf: ".toList ++ t)) ++ ['\n'])
    Step.print f.printed
    return if f.refused then 2 else if f.complaints.isEmpty then 0 else 1

end Curriculum.Script
