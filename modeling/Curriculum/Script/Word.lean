import Curriculum.Text.Basic

/-! # Words of scripts

A script is a text in the command language of the shell. Its words are made of segments: text, the
values of parameters and the output of other scripts. Quotes are gone from a word; what they leave
is the mark on each segment that stood in them, which keeps it from being split or matched. -/

namespace Curriculum.Script

/-- What happens to a parameter that has no value, or for `present` to one that has. -/
inductive Instead where
  | useWord
  | assignWord
  | failWith
  | present
  deriving DecidableEq, Repr

inductive Segment where
  | text (t : Text) (quoted : Bool)
  | parameter (name : Text) (quoted : Bool)
  /-- The length of a parameter's value. -/
  | size (name : Text) (quoted : Bool)
  /-- The value of a parameter without what a pattern matches at its start or end. -/
  | cut (name : Text) (atEnd longest : Bool) (pattern : List Segment) (quoted : Bool)
  /-- `empty` tells that an empty value counts as none. -/
  | instead (kind : Instead) (empty : Bool) (name : Text) (word : List Segment) (quoted : Bool)
  /-- What another script prints. -/
  | output (script : Text) (quoted : Bool)
  /-- The value of an expression on numbers. -/
  | arithmetic (body : List Segment) (quoted : Bool)
  /-- Braces that hold no parameter. -/
  | broken

abbrev Word := List Segment

/-- The text of a word in which nothing is quoted and nothing has a value. -/
def Word.plain? : Word → Option Text
  | [] => some []
  | .text t false :: rest => (Word.plain? rest).map (t ++ ·)
  | _ => none

def isNameStart (c : Char) : Bool := c.isAlpha || c = '_'

def isNamePart (c : Char) : Bool := c.isAlphanum || c = '_'

/-- Letters, digits and underscores that do not start with a digit. -/
def isName : Text → Bool
  | [] => false
  | c :: rest => isNameStart c && rest.all isNamePart

/-- Characters that end a word when they are not quoted. -/
def endsWord (c : Char) : Bool := " \t\n;&|<>()".toList.contains c

/-- The parameters whose names are not names of variables. -/
def isSpecial (c : Char) : Bool := "@*#?-$!".toList.contains c

/-! ## Reading words -/

/-- Where a part of a word stands, which tells how it is quoted and where it ends. -/
inductive Setting where
  /-- Outside of everything. -/
  | open
  | double
  /-- Between the braces of a parameter, which may be quoted themselves. -/
  | braces (quoted : Bool)
  /-- In a text that is given in place. It has no end of its own. -/
  | document
  /-- In an expression on numbers, within as many brackets. -/
  | arithmetic (brackets : Nat)
  deriving DecidableEq, Repr

def Setting.isQuoted : Setting → Bool
  | .open | .braces false => false
  | _ => true

def Setting.isEscapable (s : Setting) (c : Char) : Bool :=
  match s with
  | .open | .braces false => true
  | .double => "$`\"\\".toList.contains c
  | .braces true => "$`\"\\\x7d".toList.contains c
  | .document | .arithmetic _ => "$`\\".toList.contains c

/-- What is wrong with a text that ends too early. -/
def Setting.complaint : Setting → Text
  | .braces _ => "Missing '\x7d'"
  | .arithmetic _ => "Missing '))'"
  | _ => "Unterminated quoted string"

/-- The text up to the last of the closing characters that are due, and the text behind it. Quotes
and brackets opened on the way are closed first; `none` if one never is. -/
def enclosed : List Char → Text → Option (Text × Text)
  | [], rest => some ([], rest)
  | _ :: _, [] => none
  | due :: outer, c :: rest =>
    let ahead (taken : Text) (p : Text × Text) : Text × Text := (taken ++ p.1, p.2)
    if c = due then
      if outer.isEmpty then some ([], rest) else (enclosed outer rest).map (ahead [c])
    else if due = '\'' then (enclosed (due :: outer) rest).map (ahead [c])
    else match c, rest with
      | '\\', d :: rest => (enclosed (due :: outer) rest).map (ahead [c, d])
      | '$', '(' :: rest => (enclosed (')' :: due :: outer) rest).map (ahead [c, '('])
      | '"', rest => (enclosed ('"' :: due :: outer) rest).map (ahead [c])
      | '\'', rest =>
        (enclosed (if due = '"' then due :: outer else '\'' :: due :: outer) rest).map (ahead [c])
      | '(', rest =>
        (enclosed (if due = '"' then due :: outer else ')' :: due :: outer) rest).map (ahead [c])
      | _, rest => (enclosed (due :: outer) rest).map (ahead [c])

/-- The script between backquotes, up to the closing one, and what follows. -/
def backquoted (quoted : Bool) : Text → Option (Text × Text)
  | [] => none
  | '`' :: rest => some ([], rest)
  | '\\' :: c :: rest =>
    let taken := if "$`\\".toList.contains c || (quoted && c = '"') then [c] else ['\\', c]
    (backquoted quoted rest).map fun (script, rest) => (taken ++ script, rest)
  | c :: rest => (backquoted quoted rest).map fun (script, rest) => (c :: script, rest)

def parameterName? : Text → Option (Text × Text)
  | [] => none
  | c :: rest =>
    if isNameStart c then some (c :: rest.takeWhile isNamePart, rest.dropWhile isNamePart)
    else if c.isDigit then some (c :: rest.takeWhile Char.isDigit, rest.dropWhile Char.isDigit)
    else if isSpecial c then some ([c], rest)
    else none

def instead? : Char → Option Instead
  | '-' => some .useWord
  | '=' => some .assignWord
  | '?' => some .failWith
  | '+' => some .present
  | _ => none

mutual

/-- The segments up to the end of a setting, and what follows it. Each step takes a character or
leads to one that does, so `fuel` is twice the length of the text. -/
def readSegments (fuel : Nat) (s : Setting) (t : Text) : Except Text (Word × Text) :=
  match fuel with
  | 0 => .error s.complaint
  | fuel + 1 => do
    let quoted := s.isQuoted
    let onward (segments : Word) (rest : Text) : Except Text (Word × Text) := do
      let (word, rest) ← readSegments fuel s rest
      return (segments ++ word, rest)
    match t with
    | [] => if s = .open || s = .document then return ([], []) else throw s.complaint
    | '\\' :: '\n' :: rest => onward [] rest
    | ['\\'] => if quoted then onward [.text ['\\'] true] [] else return ([.text ['\\'] true], [])
    | '\\' :: c :: rest =>
      if s.isEscapable c then onward [.text [c] true] rest
      else onward [.text ['\\'] true] (c :: rest)
    | '$' :: rest =>
      let (segment, rest) ← readDollar fuel s rest
      onward [segment] rest
    | '`' :: rest =>
      match backquoted (s = .double) rest with
      | some (script, rest) => onward [.output script quoted] rest
      | none => throw "EOF in backquote substitution".toList
    | '\'' :: rest =>
      if quoted then onward [.text ['\''] true] rest
      else match enclosed ['\''] rest with
        | some (inner, rest) => onward [.text inner true] rest
        | none => throw Setting.double.complaint
    | '"' :: rest =>
      match s with
      | .double => return ([], rest)
      | .document | .arithmetic _ => onward [.text ['"'] true] rest
      | _ =>
        let (inner, rest) ← readSegments fuel .double rest
        onward (if inner.isEmpty then [.text [] true] else inner) rest
    | c :: rest =>
      match s, c with
      | .braces _, '\x7d' => return ([], rest)
      | .arithmetic 0, ')' =>
        match rest with
        | ')' :: rest => return ([], rest)
        | _ => throw s.complaint
      | .arithmetic n, '(' | .arithmetic (n + 2), ')' =>
        let (word, rest) ← readSegments fuel (.arithmetic (n + 1)) rest
        return (.text [c] true :: word, rest)
      | .arithmetic 1, ')' =>
        let (word, rest) ← readSegments fuel (.arithmetic 0) rest
        return (.text [c] true :: word, rest)
      | .open, _ => if endsWord c then return ([], t) else onward [.text [c] false] rest
      | _, _ => onward [.text [c] quoted] rest

/-- What a dollar sign stands for, by the text behind it, and what follows. -/
def readDollar (fuel : Nat) (s : Setting) (t : Text) : Except Text (Segment × Text) :=
  match fuel with
  | 0 => .error s.complaint
  | fuel + 1 => do
    let quoted := s.isQuoted
    let script (rest : Text) : Except Text (Segment × Text) :=
      match enclosed [')'] rest with
      | some (script, rest) => .ok (.output script quoted, rest)
      | none => .error "end of file unexpected (expecting \")\")".toList
    match t with
    | '\x7b' :: rest => readBraces fuel s rest
    | '(' :: '(' :: rest =>
      match readSegments fuel (.arithmetic 0) rest with
      | .ok (body, rest) => return (.arithmetic body quoted, rest)
      | .error _ => script ('(' :: rest)
    | '(' :: rest => script rest
    | c :: rest =>
      if c.isDigit then return (.parameter [c] quoted, rest)
      else match parameterName? t with
        | some (name, rest) => return (.parameter name quoted, rest)
        | none => return (.text ['$'] quoted, c :: rest)
    | [] => return (.text ['$'] quoted, [])

def readBraces (fuel : Nat) (s : Setting) (t : Text) : Except Text (Segment × Text) :=
  match fuel with
  | 0 => .error s.complaint
  | fuel + 1 => do
    let quoted := s.isQuoted
    let word (w : Text) : Except Text (Word × Text) := readSegments fuel (.braces quoted) w
    let pattern (p : Text) : Except Text (Word × Text) := readSegments fuel (.braces false) p
    let size? : Option (Text × Text) :=
      match t with
      | '#' :: rest => (parameterName? rest).filter fun (_, rest) => rest.head? = some '\x7d'
      | _ => none
    match size?, parameterName? t with
    | some (name, rest), _ => return (.size name quoted, rest.drop 1)
    | none, none =>
      let (_, rest) ← word t
      return (.broken, rest)
    | none, some (name, rest) =>
      match rest with
      | '\x7d' :: rest => return (.parameter name quoted, rest)
      | '%' :: '%' :: rest =>
        let (w, rest) ← pattern rest
        return (.cut name true true w quoted, rest)
      | '%' :: rest =>
        let (w, rest) ← pattern rest
        return (.cut name true false w quoted, rest)
      | '#' :: '#' :: rest =>
        let (w, rest) ← pattern rest
        return (.cut name false true w quoted, rest)
      | '#' :: rest =>
        let (w, rest) ← pattern rest
        return (.cut name false false w quoted, rest)
      | ':' :: c :: rest =>
        match instead? c with
        | some kind =>
          let (w, rest) ← word rest
          return (.instead kind true name w quoted, rest)
        | none =>
          let (_, rest) ← word rest
          return (.broken, rest)
      | c :: rest =>
        match instead? c with
        | some kind =>
          let (w, rest) ← word rest
          return (.instead kind false name w quoted, rest)
        | none =>
          let (_, rest) ← word (c :: rest)
          return (.broken, rest)
      | [] => throw (Setting.braces quoted).complaint

end

/-- The word at the start of a text, and what follows it. -/
def readWord (t : Text) : Except Text (Word × Text) := readSegments (2 * t.length + 2) .open t

/-- A text that is given in place, as a word. -/
def readDocument (t : Text) : Except Text Word :=
  (readSegments (2 * t.length + 2) .document t).map (·.1)

end Curriculum.Script
