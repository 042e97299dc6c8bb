import Curriculum.CommandLine.Arguments
import Curriculum.Files.Path

/-! # Requests

What a command line asks for. The options of all commands may stand at every level, and the deepest
one counts; where the command line leaves one out, a variable of the environment may give it. -/

namespace Curriculum

/-- The variables of the environment that are looked at. -/
structure Environment where
  home : Option Text := none
  templatesDir : Option Text := none
  compiler : Option Text := none
  timeoutSecs : Option Text := none
  /-- What is printed is to have colors, wherever it goes. -/
  colors : Bool := false

/-- What the bindings of variables say. A home directory without a name is none. -/
def Environment.ofBindings (bindings : List (Text × Text)) : Environment where
  home := (lookup "HOME" bindings).filter fun home => !home.isEmpty
  templatesDir := lookup "VITAE_TEMPLATES_DIR" bindings
  compiler := lookup "VITAE_COMPILER" bindings
  timeoutSecs := lookup "VITAE_COMPILE_TIMEOUT" bindings
  colors := ((lookup "CLICOLOR_FORCE" bindings).bind Path.text?).any fun value => value ≠ ['0']

/-- The variables that are set, by the names of the options they stand for. -/
def Environment.settings (e : Environment) : List (Text × Text) :=
  [("templates-dir".toList, e.templatesDir), ("compiler".toList, e.compiler),
    ("timeout-secs".toList, e.timeoutSecs)].filterMap fun (name, value) => value.map (name, ·)

namespace CommandLine

/-- Options that all commands share. -/
structure Shared where
  templatesDir : Option Text := none
  compiler : Option Text := none
  timeoutSecs : Option Nat := none
  deriving DecidableEq, Repr

inductive Destination where
  | directory (path : Text)
  | standardOutput
  deriving DecidableEq, Repr

inductive Request where
  | version
  | list (json : Bool)
  | describe (id : Text)
  | render (id : Text) (fields : Option Text) (format : Text) (destination : Destination)
  deriving DecidableEq, Repr

structure Invocation where
  shared : Shared := {}
  request : Request
  deriving DecidableEq, Repr

/-! ## Levels -/

def sharedSwitches : List Switch := [⟨"templates-dir", none, true⟩, ⟨"compiler", none, true⟩,
  ⟨"timeout-secs", none, true⟩]

def rootLevel : Level where
  switches := sharedSwitches ++ [⟨"version", some 'V', false⟩]
  commands := ["templates", "render"]

def templatesLevel : Level := ⟨sharedSwitches, ["list", "show"], 0⟩

def listLevel : Level := ⟨sharedSwitches ++ [⟨"json", none, false⟩], [], 0⟩

def showLevel : Level := ⟨sharedSwitches, [], 1⟩

def renderLevel : Level where
  switches := sharedSwitches ++ [⟨"fields", some 'f', true⟩, ⟨"format", none, true⟩,
    ⟨"out", some 'o', true⟩, ⟨"stdout", none, false⟩]
  operands := 1

/-- The values that an option may have. Paths are not empty, and what is no path is text. -/
def accepts (name value : Text) : Bool :=
  if name = "format".toList then (Path.text? value).isSome
  else if name = "timeout-secs".toList then (Text.word64? value).isSome
  else !value.isEmpty

def readLevel (level : Level) (arguments : List Text) : Outcome :=
  gather level accepts (pieces level arguments) {}

/-! ## Requests from levels -/

/-- Where a level sends an artifact; not both to a directory and to the standard output. -/
def destination? (g : Given) : Option Destination :=
  if g.has "stdout" then if (g.value? "out").isSome then none else some .standardOutput
  else some (.directory ((g.value? "out").getD ['.']))

/-- What the level of a command without sub commands asks for. -/
def request? (command : Text) (g : Given) : Option Request :=
  if command = "list".toList then some (.list (g.has "json"))
  else match g.operands.map Path.text? with
    | [some id] =>
      if command = "show".toList then some (.describe id)
      else (destination? g).map
        (.render id (g.value? "fields") (((g.value? "format").bind Path.text?).getD "pdf"))
    | _ => none

/-- The shared options: what the deepest level gives, or else the environment. -/
def sharedOf (e : Environment) (levels : List Given) : Shared :=
  let value? (name : Text) : Option Text :=
    (levels.reverse.findSome? fun g => g.value? name) <|> lookup name e.settings
  { templatesDir := value? "templates-dir"
    compiler := value? "compiler"
    timeoutSecs := (value? "timeout-secs").bind Text.word64? }

/-- Every variable is acceptable where a level does not give its option. -/
def variablesAccepted (e : Environment) (levels : List Given) : Bool :=
  levels.all fun g => e.settings.all fun (name, value) =>
    (g.value? name).isSome || accepts name value

/-- The invocation of a command, by the levels passed and the arguments at the last one. -/
def invocation? (e : Environment) (levels : List Given) (command : Text) (level : Level)
    (arguments : List Text) : Option Invocation := do
  let .read g none := readLevel level arguments | none
  let levels := levels ++ [g]
  if variablesAccepted e levels then
    some { shared := sharedOf e levels, request := ← request? command g }
  else none

/-- What a command line asks for, if it is well formed. -/
def parse? (e : Environment) (arguments : List Text) : Option Invocation :=
  match readLevel rootLevel arguments with
  | .refused | .read _ none => none
  | .version => some { request := .version }
  | .read root (some (command, rest)) =>
    if command = "render".toList then invocation? e [root] command renderLevel rest
    else match readLevel templatesLevel rest with
      | .read middle (some (command, rest)) =>
        invocation? e [root, middle] command
          (if command = "list".toList then listLevel else showLevel) rest
      | _ => none

end CommandLine

end Curriculum
