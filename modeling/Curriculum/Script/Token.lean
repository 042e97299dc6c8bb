import Curriculum.Script.Word

/-! # Tokens of scripts

Each token knows the number of the line on which it starts. A text that is given in place stands on
the lines after the one that asks for it, and its token holds it. -/

namespace Curriculum.Script

inductive Token where
  | word (line : Nat) (w : Word)
  | operator (line : Nat) (symbol : Text)
  /-- The start of a redirection of a stream that may be given by its number. -/
  | redirect (line : Nat) (stream : Option Nat) (symbol : Text)
  /-- A redirection of a stream to a text that is given in place. -/
  | document (line : Nat) (stream : Option Nat) (body : Word)
  /-- From here on the script is not well formed. -/
  | broken (line : Nat) (complaint : Text)

namespace Token

def line : Token → Nat
  | word line _ | operator line _ | redirect line .. | document line .. | broken line _ => line

def isOperator (symbol : Text) : Token → Bool
  | operator _ s => s = symbol
  | _ => false

/-- The token as a word of the language, if it is one without quotes. -/
def plain? : Token → Option Text
  | word _ w => w.plain?
  | _ => none

end Token

/-- The operators, longer ones before those they start with. -/
def operators : List Text := ["&&", "||", ";;", "\n", ";", "&", "|", "(", ")"]

/-- The redirections, longer ones before those they start with. -/
def redirections : List Text := ["<<-", "<<", "<&", "<>", ">>", ">&", ">|", "<", ">"]

/-- The first of some symbols that the text starts with, and what follows it. -/
def symbol? (symbols : List Text) (t : Text) : Option (Text × Text) :=
  symbols.findSome? fun s => (s.isPrefixOf? t).map fun rest => (s, rest)

def redirection? (t : Text) : Option (Option Nat × Text × Text) :=
  let digits := t.takeWhile Char.isDigit
  (symbol? redirections (t.drop digits.length)).map fun (symbol, rest) =>
    (Text.natural? digits, symbol, rest)

/-! ## Texts in place -/

/-- A text that is still to come: the place of its token, and the word that ends it. -/
structure Pending where
  position : Nat
  stream : Option Nat
  delimiter : Word
  /-- Tabs at the starts of its lines do not count. -/
  indented : Bool

def Pending.last (p : Pending) : Text :=
  p.delimiter.flatMap fun
    | .text t _ => t
    | _ => []

/-- Nothing in the text has a value, because its end is quoted. -/
def Pending.isPlain (p : Pending) : Bool :=
  p.delimiter.any fun
    | .text _ quoted => quoted
    | _ => false

/-- The lines of a text up to its end, what follows them, and how many they are with the end. -/
def Pending.lines (p : Pending) (fuel : Nat) (t : Text) : Text × Text × Nat :=
  match fuel with
  | 0 => ([], t, 0)
  | fuel + 1 =>
    if t.isEmpty then ([], [], 0)
    else
      let whole := t.takeWhile (· ≠ '\n')
      let rest := t.drop (whole.length + 1)
      let line := if p.indented then whole.dropWhile (· = '\t') else whole
      if line = p.last then ([], rest, 1)
      else
        let (lines, rest, count) := p.lines fuel rest
        (line ++ '\n' :: lines, rest, count + 1)

/-- The texts that are given on the lines at the start of `t` go into their tokens. -/
def fillDocuments (line : Nat) (done : Array Token) (t : Text) :
    List Pending → Array Token × Text × Nat
  | [] => (done, t, line)
  | p :: rest =>
    let (lines, after, count) := p.lines (t.length + 1) t
    let body : Except Text Word :=
      if p.isPlain then .ok [.text lines true] else readDocument lines
    let token := match body with
      | .ok w => .document line p.stream w
      | .error complaint => .broken line complaint
    fillDocuments (line + count) (done.setIfInBounds p.position token) after rest

/-! ## Scanning -/

/-- Adds the tokens of a text to those before it. Each step takes a character at least, so `fuel` is
the length of the text. -/
def scan (fuel line : Nat) (pending : List Pending) (done : Array Token) (t : Text) : Array Token :=
  match fuel, t with
  | 0, _ => done
  | _, [] => (fillDocuments line done [] pending.reverse).1
  | fuel + 1, '\\' :: '\n' :: rest => scan fuel (line + 1) pending done rest
  | fuel + 1, c :: rest =>
    if c = ' ' || c = '\t' then scan fuel line pending done rest
    else if c = '#' then scan fuel line pending done (rest.dropWhile (· ≠ '\n'))
    else match redirection? t with
      | some (stream, symbol, rest) =>
        let rest := rest.dropWhile fun c => c = ' ' || c = '\t'
        if ("<<".toList.isPrefixOf symbol) && !(rest.head?.all endsWord) then
          match readWord rest with
          | .ok (w, after) =>
            let p := ⟨done.size, stream, w, symbol = "<<-".toList⟩
            scan fuel line (p :: pending) (done.push (.document line stream [])) after
          | .error complaint => done.push (.broken line complaint)
        else scan fuel line pending (done.push (.redirect line stream symbol)) rest
      | none =>
        match symbol? operators t with
        | some (['\n'], rest) =>
          let done := done.push (.operator line ['\n'])
          let (done, rest, line) := fillDocuments (line + 1) done rest pending.reverse
          scan fuel line [] done rest
        | some (symbol, rest) => scan fuel line pending (done.push (.operator line symbol)) rest
        | none =>
          match readWord t with
          | .ok (w, after) =>
            let passed := (t.take (t.length - after.length)).count '\n'
            scan fuel (line + passed) pending (done.push (.word line w)) after
          | .error complaint => done.push (.broken (line + t.count '\n') complaint)

def tokens (line : Nat) (t : Text) : List Token := (scan (t.length + 1) line [] #[] t).toList

def lastLine (line : Nat) (t : Text) : Nat := line + t.count '\n'

end Curriculum.Script
