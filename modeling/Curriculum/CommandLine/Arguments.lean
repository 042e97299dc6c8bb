import Curriculum.Text.Entries

/-! # Arguments

The arguments of a command line are read level by level: each command has its own options, and what
follows the name of a sub command belongs to that one. Options with a value take it from the same
argument or from the next one, which then must not look like an option.

Nothing is known here of requests for help, of shortened names, or of what is said about a command
line that is not understood. -/

namespace Curriculum.CommandLine

structure Switch where
  name : Text
  short : Option Char := none
  /-- It takes a value; otherwise it is a flag. -/
  valued : Bool := true

/-- What a command understands. -/
structure Level where
  switches : List Switch
  /-- The names of its sub commands. -/
  commands : List Text := []
  /-- How many operands it takes. -/
  operands : Nat := 0

inductive Piece where
  | flag (name : Text)
  | setting (name value : Text)
  | operand (t : Text)
  | command (name : Text) (rest : List Text)
  /-- What follows is not understood. -/
  | invalid
  deriving DecidableEq, Repr

/-- An argument that is no value: all that starts with a dash, but for the dash alone. -/
def looksLikeOption : Text → Bool
  | '-' :: _ :: _ => true
  | _ => false

/-- The short options in an argument behind its dash: what they are, and the option whose value is
still to come. -/
def shortPieces (level : Level) : Text → List Piece × Option Text
  | [] => ([], none)
  | c :: rest =>
    match level.switches.find? (·.short = some c) with
    | none => ([.invalid], none)
    | some switch =>
      if switch.valued then
        match rest with
        | [] => ([], some switch.name)
        | '=' :: value => ([.setting switch.name value], none)
        | value => ([.setting switch.name value], none)
      else
        let (pieces, due) := shortPieces level rest
        (.flag switch.name :: pieces, due)

/-- What the long option in an argument behind its dashes is, and the option whose value is still to
come. -/
def longPieces (level : Level) (t : Text) : List Piece × Option Text :=
  let name := t.takeWhile (· ≠ '=')
  match level.switches.find? (·.name = name), t.drop name.length with
  | none, _ => ([.invalid], none)
  | some switch, [] => if switch.valued then ([], some name) else ([.flag name], none)
  | some switch, _ :: value =>
    if switch.valued then ([.setting name value], none) else ([.invalid], none)

/-- What an argument is: its pieces, and the option whose value is still to come. -/
def argumentPieces (level : Level) : Text → List Piece × Option Text
  | '-' :: '-' :: t => longPieces level t
  | '-' :: c :: t => shortPieces level (c :: t)
  | t => ([.operand t], none)

/-- The parts of a command line at a level. Behind `--` are operands only. -/
def pieces (level : Level) : List Text → List Piece
  | [] => []
  | argument :: rest =>
    if argument = ['-', '-'] then rest.map .operand
    else if level.commands.contains argument then [.command argument rest]
    else match argumentPieces level argument with
      | (ps, none) => ps ++ pieces level rest
      | (ps, some name) =>
        match rest with
        | [] => ps ++ [.invalid]
        | value :: rest =>
          if looksLikeOption value then ps ++ [.invalid]
          else ps ++ .setting name value :: pieces level rest

structure Given where
  flags : List Text := []
  settings : List (Text × Text) := []
  operands : List Text := []

namespace Given

def value? (g : Given) (name : Text) : Option Text :=
  lookup name g.settings

def has (g : Given) (name : Text) : Bool := g.flags.contains name

end Given

/-- How the reading of a level ends. -/
inductive Outcome where
  | refused
  /-- The version is asked for, and nothing else counts. -/
  | version
  | read (given : Given) (next : Option (Text × List Text))

def versionFlag : Text := "version"

/-- Takes the parts in their order. No option is given twice, and every value is accepted. -/
def gather (level : Level) (accepts : Text → Text → Bool) : List Piece → Given → Outcome
  | [], g => .read g none
  | .invalid :: _, _ => .refused
  | .command name rest :: _, g => .read g (some (name, rest))
  | .flag name :: ps, g =>
    if name = versionFlag then .version
    else if g.has name then .refused
    else gather level accepts ps { g with flags := g.flags ++ [name] }
  | .setting name value :: ps, g =>
    if (g.value? name).isSome || !accepts name value then .refused
    else gather level accepts ps { g with settings := g.settings ++ [(name, value)] }
  | .operand t :: ps, g =>
    if g.operands.length < level.operands then
      gather level accepts ps { g with operands := g.operands ++ [t] }
    else .refused

end Curriculum.CommandLine
