import Curriculum.Script.Token

/-! # Commands of scripts

The commands of a script are read from its tokens: simple commands with redirections, and those that
are built with the words and operators of the shell. A script is read line by line, and what stands
before a line that is not well formed is run. -/

namespace Curriculum.Script

/-- What a redirection does to its stream. -/
inductive Direction where
  | input
  | output
  | append
  | inputOutput
  | copy
  deriving DecidableEq, Repr

inductive Redirection where
  | path (stream : Option Nat) (direction : Direction) (output : Bool) (target : Word)
  /-- A text that is given in place. -/
  | document (stream : Option Nat) (body : Word)

inductive Command where
  | skip
  | simple (line : Nat) (assignments : List (Text × Word)) (words : List Word)
      (redirections : List Redirection)
  | sequence (first second : Command)
  /-- The script does not wait for the command. -/
  | background (command : Command)
  /-- The second one runs when the first one succeeds. -/
  | both (first second : Command)
  /-- The second one runs when the first one fails. -/
  | either (first second : Command)
  | negated (command : Command)
  /-- What one prints is the input of the next one. -/
  | pipe (stages : List Command)
  /-- Without words the arguments are gone through. -/
  | forEach (name : Text) (words : Option (List Word)) (body : Command)
  /-- The first case with a pattern that matches runs. -/
  | choose (subject : Word) (cases : List (List Word × Command))
  | conditional (test yes no : Command)
  /-- The body is repeated as long as the test succeeds, or as long as it fails. -/
  | loop (success : Bool) (test body : Command)
  /-- The body runs in a shell of its own. -/
  | apart (body : Command)
  | redirected (line : Nat) (body : Command) (redirections : List Redirection)
  | define (name : Text) (body : Command)

structure SyntaxError where
  line : Nat
  complaint : Text
  deriving DecidableEq, Repr

/-- The tokens that are left, and the number of the last line. -/
structure Ahead where
  tokens : List Token
  lastLine : Nat

abbrev Reader := StateT Ahead (Except SyntaxError)

/-- The words of the language. -/
def reserved : List Text :=
  ["!", "case", "do", "done", "elif", "else", "esac", "fi", "for", "if", "in", "then", "until",
    "while", "\x7b", "\x7d"]

/-- The words that end a list of commands. -/
def closers : List Text := ["done", "do", "then", "else", "elif", "fi", "esac", "\x7d"]

/-- A word that assigns to a variable: the name and the word of the value. -/
def assignment? (w : Word) : Option (Text × Word) :=
  let isEqual : Segment → Bool
    | .text ['='] false => true
    | _ => false
  let front := w.takeWhile fun segment => !isEqual segment
  match Word.plain? front with
  | some name =>
    if front.length < w.length && isName name then some (name, w.drop (front.length + 1)) else none
  | none => none

namespace Reader

def peek? : Reader (Option Token) := do return (← get).tokens.head?

def advance : Reader Unit := modify fun a => { a with tokens := a.tokens.tail }

/-- How a token is called in a complaint. -/
def nameOf : Option Token → Text
  | none => "end of file"
  | some (.operator _ ['\n']) => "newline"
  | some (.operator _ symbol) => '"' :: symbol ++ ['"']
  | some (.redirect ..) | some (.document ..) => "redirection"
  | some (.word _ w) =>
    match w.plain? with
    | some t => if reserved.contains t then '"' :: t ++ ['"'] else "word"
    | none => "word"
  | some (.broken _ _) => []

/-- The next token does not belong where it stands. -/
def unexpected (expected : Option Text) : Reader α := do
  let a ← get
  match a.tokens.head? with
  | some (.broken line complaint) => throw ⟨line, complaint⟩
  | token =>
    let expecting : Text := match expected with
      | some t => " (expecting \"".toList ++ t ++ "\")".toList
      | none => []
    let line := match token with
      | none => a.lastLine
      | some (.operator line ['\n']) => line + 1
      | some t => t.line
    throw ⟨line, nameOf token ++ " unexpected".toList ++ expecting⟩

def atOperator (symbol : Text) : Reader Bool := do
  return (← peek?).any (Token.isOperator symbol)

/-- The next token as a word of the language, if it is one without quotes. -/
def plain? : Reader (Option Text) := do return (← peek?).bind Token.plain?

def expectPlain (word : Text) : Reader Unit := do
  if (← plain?) = some word then advance else unexpected (some word)

def expectOperator (symbol : Text) : Reader Unit := do
  if ← atOperator symbol then advance else unexpected (some symbol)

def skipLines : Reader Unit := modify fun a =>
  { a with tokens := a.tokens.dropWhile (Token.isOperator ['\n']) }

def atEnd : Reader Bool := do
  match ← peek? with
  | none => return true
  | some (.operator _ symbol) => return symbol = [')'] || symbol = [';', ';']
  | _ => return (← plain?).any closers.contains

def line : Reader Nat := do
  let a ← get
  return (a.tokens.head?.map Token.line).getD a.lastLine

/-- The direction of a redirection, and whether it is of the output unless a stream is given. -/
def directionOf (symbol : Text) : Direction × Bool :=
  match String.ofList symbol with
  | "<" => (.input, false)
  | "<>" => (.inputOutput, false)
  | "<&" => (.copy, false)
  | ">&" => (.copy, true)
  | ">>" => (.append, true)
  | _ => (.output, true)

def redirection? : Reader (Option Redirection) := do
  match ← peek? with
  | some (.document _ stream body) =>
    advance
    return some (.document stream body)
  | some (.redirect _ stream symbol) =>
    advance
    match ← peek? with
    | some (.word _ w) =>
      advance
      let (direction, output) := directionOf symbol
      return some (.path stream direction output w)
    | _ => unexpected none
  | _ => return none

def redirections : Nat → Reader (List Redirection)
  | 0 => return []
  | fuel + 1 => do
    match ← redirection? with
    | some r => return r :: (← redirections fuel)
    | none => return []

def words : Nat → Reader (List Word)
  | 0 => return []
  | fuel + 1 => do
    match ← peek? with
    | some (.word _ w) =>
      advance
      return w :: (← words fuel)
    | _ => return []

/-- The parts of a simple command, added to those before them. -/
def parts (fuel : Nat) (assignments : List (Text × Word)) (ws : List Word)
    (rs : List Redirection) : Reader (List (Text × Word) × List Word × List Redirection) :=
  match fuel with
  | 0 => return (assignments, ws, rs)
  | fuel + 1 => do
    match ← redirection? with
    | some r => parts fuel assignments ws (rs ++ [r])
    | none =>
      match ← peek? with
      | some (.word _ w) =>
        advance
        match assignment? w with
        | some a =>
          if ws.isEmpty then parts fuel (assignments ++ [a]) ws rs
          else parts fuel assignments (ws ++ [w]) rs
        | none => parts fuel assignments (ws ++ [w]) rs
      | _ => return (assignments, ws, rs)

mutual

/-- Commands one after the other, up to what cannot start another one. -/
def commands (fuel : Nat) : Reader Command :=
  match fuel with
  | 0 => unexpected none
  | fuel + 1 => do
    skipLines
    if (← peek?).isNone then return .skip
    let (command, more) ← entry fuel
    skipLines
    if more || !(← atEnd) then
      if ← atEnd then return command
      else return .sequence command (← commands fuel)
    else return command

/-- Commands up to one of the closing words, or none of them. -/
def commandsOrNone (fuel : Nat) : Reader Command :=
  match fuel with
  | 0 => unexpected none
  | fuel + 1 => do
    skipLines
    if ← atEnd then return .skip else commands fuel

/-- A command with what ends it, and whether another one may follow on the same line. -/
def entry (fuel : Nat) : Reader (Command × Bool) :=
  match fuel with
  | 0 => unexpected none
  | fuel + 1 => do
    let command ← chain fuel (← pipeline fuel)
    if ← atOperator ['&'] then
      advance
      return (.background command, true)
    else if ← atOperator [';'] then
      advance
      return (command, true)
    else if (← atOperator ['\n']) || (← atEnd) then return (command, false)
    else unexpected none

/-- What is linked to a command by its success or failure. -/
def chain (fuel : Nat) (first : Command) : Reader Command :=
  match fuel with
  | 0 => unexpected none
  | fuel + 1 => do
    if ← atOperator ['&', '&'] then
      advance
      skipLines
      chain fuel (.both first (← pipeline fuel))
    else if ← atOperator ['|', '|'] then
      advance
      skipLines
      chain fuel (.either first (← pipeline fuel))
    else return first

/-- Commands that feed each other, perhaps negated. -/
def pipeline (fuel : Nat) : Reader Command :=
  match fuel with
  | 0 => unexpected none
  | fuel + 1 => do
    if (← plain?) = some ['!'] then
      advance
      return .negated (← pipeline fuel)
    match ← stages fuel with
    | [stage] => return stage
    | several => return .pipe several

def stages (fuel : Nat) : Reader (List Command) :=
  match fuel with
  | 0 => unexpected none
  | fuel + 1 => do
    let first ← command fuel
    if ← atOperator ['|'] then
      advance
      skipLines
      return first :: (← stages fuel)
    else return [first]

/-- What follows the test of a conditional. -/
def branches (fuel : Nat) : Reader Command :=
  match fuel with
  | 0 => unexpected none
  | fuel + 1 => do
    let test ← commands fuel
    expectPlain "then"
    let yes ← commands fuel
    let next ← plain?
    if next = some "elif".toList then
      advance
      return .conditional test yes (← branches fuel)
    else if next = some "else".toList then
      advance
      let no ← commands fuel
      expectPlain "fi"
      return .conditional test yes no
    else
      expectPlain "fi"
      return .conditional test yes .skip

def patterns (fuel : Nat) : Reader (List Word) :=
  match fuel with
  | 0 => unexpected none
  | fuel + 1 => do
    match ← peek? with
    | some (.word _ w) =>
      advance
      if ← atOperator ['|'] then
        advance
        return w :: (← patterns fuel)
      else
        expectOperator [')']
        return [w]
    | _ => unexpected none

def cases (fuel : Nat) : Reader (List (List Word × Command)) :=
  match fuel with
  | 0 => unexpected none
  | fuel + 1 => do
    skipLines
    if (← plain?) = some "esac".toList then
      advance
      return []
    if ← atOperator ['('] then advance
    if (← peek?).isNone then unexpected (some [')'])
    let ps ← patterns fuel
    let body ← commandsOrNone fuel
    if ← atOperator [';', ';'] then
      advance
      return (ps, body) :: (← cases fuel)
    else if (← plain?) = some "esac".toList then
      advance
      return [(ps, body)]
    else unexpected (some ";;".toList)

/-- A body between the words of a loop. -/
def loopBody (fuel : Nat) : Reader Command :=
  match fuel with
  | 0 => unexpected none
  | fuel + 1 => do
    expectPlain "do"
    let body ← commands fuel
    expectPlain "done"
    return body

def simple (fuel : Nat) : Reader Command :=
  match fuel with
  | 0 => unexpected none
  | fuel + 1 => do
    let line ← line
    let (assignments, ws, rs) ← parts (fuel + 1) [] [] []
    if assignments.isEmpty && ws.isEmpty && rs.isEmpty then unexpected none
    if (← atOperator ['(']) && ws.length = 1 && assignments.isEmpty && rs.isEmpty then
      advance
      expectOperator [')']
      match (ws.headD []).plain? with
      | some name =>
        if !isName name then throw ⟨line, "Bad function name"⟩
        skipLines
        return .define name (← command fuel)
      | none => throw ⟨line, "Bad function name"⟩
    else return .simple line assignments ws rs

/-- A command that is built with the words of the language. -/
def built (fuel : Nat) (word : Text) : Reader Command :=
  match fuel with
  | 0 => unexpected none
  | fuel + 1 => do
    match String.ofList word with
    | "\x7b" =>
      advance
      let body ← commands fuel
      expectPlain ['\x7d']
      return body
    | "if" =>
      advance
      branches fuel
    | "while" | "until" =>
      advance
      let test ← commands fuel
      return .loop (word = "while".toList) test (← loopBody fuel)
    | "for" =>
      advance
      let name ← plain?
      let line ← line
      match name.filter isName with
      | none => throw ⟨line, "Bad for loop variable"⟩
      | some name =>
        advance
        skipLines
        if (← plain?) = some "in".toList then
          advance
          let ws ← words (← get).tokens.length
          if !((← atOperator [';']) || (← atOperator ['\n'])) then unexpected none
          advance
          skipLines
          return .forEach name (some ws) (← loopBody fuel)
        else
          if ← atOperator [';'] then advance
          skipLines
          return .forEach name none (← loopBody fuel)
    | "case" =>
      advance
      match ← peek? with
      | some (.word _ subject) =>
        advance
        skipLines
        expectPlain "in"
        return .choose subject (← cases fuel)
      | _ => unexpected none
    | _ => unexpected none

def command (fuel : Nat) : Reader Command :=
  match fuel with
  | 0 => unexpected none
  | fuel + 1 => do
    let line ← line
    let around (body : Command) : Reader Command := do
      match ← redirections (← get).tokens.length with
      | [] => return body
      | rs => return .redirected line body rs
    if ← atOperator ['('] then
      advance
      let body ← commands fuel
      expectOperator [')']
      around (.apart body)
    else match ← plain? with
      | some word => if reserved.contains word then around (← built fuel word) else simple fuel
      | none => simple fuel

end

/-- The commands of one line, on as many lines as they take, through its end. -/
def lineCommands (fuel : Nat) : Reader Command :=
  match fuel with
  | 0 => unexpected none
  | fuel + 1 => do
    let (first, more) ← entry (8 * (← get).tokens.length + 8)
    if ← atOperator ['\n'] then
      advance
      return first
    else if (← peek?).isNone then return first
    else if more then return .sequence first (← lineCommands fuel)
    else unexpected none

end Reader

/-- What the first line of some tokens holds, with the tokens behind it; nothing when no commands
are left. -/
def Ahead.next (a : Ahead) : Except SyntaxError (Option (Command × Ahead)) :=
  let a := { a with tokens := a.tokens.dropWhile (Token.isOperator ['\n']) }
  if a.tokens.isEmpty then .ok none
  else ((Reader.lineCommands (a.tokens.length + 1)).run a).map some

/-- The tokens of a script whose first line has the given number. -/
def Ahead.ofText (line : Nat) (t : Text) : Ahead := ⟨Script.tokens line t, Script.lastLine line t⟩

end Curriculum.Script
