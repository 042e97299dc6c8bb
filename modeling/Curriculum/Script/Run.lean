import Curriculum.Script.Builtin
import Curriculum.Script.Redirect

/-! # Running commands

What commands do is defined in terms of a runner, which runs the commands that they are made of. A
subshell, a stage of a pipe and a program are processes of their own. -/

namespace Curriculum.Script

/-- Runs a command and gives its status. The flag tells that somebody looks at a failure, so that it
does not end the script. -/
abbrev Runner := Bool → Command → Step Nat

/-- How long a simple command takes, in nanoseconds. -/
def commandTime : Nat := 50000

/-- How long it takes to become a program. -/
def programTime : Nat := 1000000

/-! ## Scripts -/

/-- Runs commands one line after the other. -/
def runAhead (run : Runner) (tested : Bool) (fuel : Nat) (a : Ahead) (status : Nat) : Step Nat :=
  match fuel with
  | 0 => return status
  | fuel + 1 =>
    match a.next with
    | .ok none => return status
    | .ok (some (c, rest)) => do
      let skipped := (← get).has 'n'
      runAhead run tested fuel rest (← if skipped then pure 0 else run tested c)
    | .error e => do
      modify fun s => { s with line := e.line }
      Step.fail ("Syntax error: ".toList ++ e.complaint) 2

def runText (run : Runner) (tested : Bool) (line : Nat) (t : Text) : Step Nat :=
  let a := Ahead.ofText line t
  runAhead run tested (a.tokens.length + 1) a 0

/-- Runs what was said to be run for the signals that have come. -/
def handleSignals (run : Runner) : Step Unit := do
  let s ← get
  let w ← Step.world
  let pending := (w.process s.id).pending
  if pending.isEmpty then return
  Step.setWorld (w.alter s.id fun p => { p with pending := [] })
  for signal in pending do
    match s.traps.lookup signal with
    | some t =>
      let status := (← get).status
      discard <| runText run false 1 t
      modify fun s => { s with status }
    | none => pure ()

/-- A step that is all that a process does: however it halts it has a status, and at the end comes
what was said to be run then. -/
def wholly (run : Runner) (step : Step Nat) : Step Nat := do
  let status ← tryCatch step fun halt => pure halt.status
  match (← get).traps.lookup 0 with
  | none | some [] => return status
  | some t =>
    Builtin.setTrap none 0
    modify fun s => { s with status }
    tryCatch (do
      discard <| runText run false 1 t
      return status) fun
      | .exit code => pure code
      | _ => pure status

/-- What a new process keeps of the shell it comes from. -/
def Shell.apart (s : Shell) : Shell :=
  { s with traps := s.traps.filter fun t => t.1 ≠ 0 && t.2.isEmpty, jobs := [], loops := 0 }

def forkShell (run : Runner) (step : Step Nat) : Step Nat :=
  Step.fork do
    modify Shell.apart
    wholly run step

/-! ## Waiting for processes -/

def joinAloud (id : Nat) : Step Nat := do Builtin.tell (← Step.join id)

def joinAll : List Nat → Nat → Step Nat
  | [], status => return status
  | id :: rest, _ => do joinAll rest (← joinAloud id)

/-- What a script prints, without line ends at its end. -/
def substitute (run : Runner) (script : Text) : Step Text := do
  let s ← get
  let (outlet, inlet) := (110, 111)
  Step.changeWorld fun w => w.addPipe s.id outlet inlet
  let id ← forkShell run do
    let s ← get
    Step.changeWorld fun w =>
      match w.stream? s.id inlet with
      | some file => ((w.setStream s.id 1 file).closeStream s.id outlet).closeStream s.id inlet
      | none => w
    runText run false s.line script
  Step.changeWorld fun w => w.closeStream s.id inlet
  let t ← Step.readAll outlet
  Step.changeWorld fun w => w.closeStream s.id outlet
  let status ← joinAloud id
  modify fun s => { s with substituted := some status }
  return ((t.reverse.dropWhile (· = '\n')).reverse).filter (· ≠ '\x00')

/-! ## Functions -/

def depthLimit : Nat := 1000

def callFunction (run : Runner) (tested : Bool) (body : Command) (arguments : List Text) :
    Step Nat := do
  let s ← get
  if depthLimit ≤ s.depth then
    discard <| Builtin.refuse "Maximum function recursion depth (1000) reached"
  set { s with arguments, depth := s.depth + 1, hidden := [], loops := 0 }
  let restore : Step Unit := modify fun t =>
    { Builtin.uncover t with
      arguments := s.arguments, depth := s.depth, hidden := s.hidden, loops := s.loops }
  let status ← tryCatch (run tested body) fun
    | .giveBack code => pure code
    | halt => do
      restore
      throw halt
  restore
  return status

/-! ## Loops -/

def round (step : Step (Nat × Bool)) : Step (Nat × Bool) :=
  tryCatch step fun
    | .leave (n + 2) => throw (.leave (n + 1))
    | .again (n + 2) => throw (.again (n + 1))
    | .leave _ => pure (0, false)
    | .again _ => pure (0, true)
    | halt => throw halt

def inLoop (step : Step Nat) : Step Nat := do
  let loops := (← get).loops
  modify fun s => { s with loops := loops + 1 }
  let status ← tryCatch step fun halt => do
    modify fun s => { s with loops }
    throw halt
  modify fun s => { s with loops }
  return status

/-- Repeats a round, which is told the status of the last one, as long as another one may follow. -/
def rounds (step : Nat → Step (Nat × Bool)) (fuel status : Nat) : Step Nat :=
  match fuel with
  | 0 => return status
  | fuel + 1 => do
    match ← round (step status) with
    | (next, true) => rounds step fuel next
    | (last, false) => return last

def roundsFor (step : Text → Step (Nat × Bool)) (status : Nat) : List Text → Step Nat
  | [] => return status
  | value :: rest => do
    match ← round (step value) with
    | (next, true) => roundsFor step next rest
    | (last, false) => return last

/-- More rounds than there is time for. -/
def roundLimit : Nat := 1000000000000

/-! ## Pipes -/

/-- Starts the stages of a pipe; `source` is the stream that gives what the last one started
prints. -/
def startStages (run : Runner) (tested : Bool) (source : Option Nat) :
    List Command → Step (List Nat)
  | [] => return []
  | stage :: rest => do
    let s ← get
    let outlet := if source = some 100 then 102 else 100
    let inlet := outlet + 1
    let last := rest.isEmpty
    if !last then Step.changeWorld fun w => w.addPipe s.id outlet inlet
    let id ← forkShell run do
      let s ← get
      Step.changeWorld fun w =>
        let w := match source.bind (w.stream? s.id) with
          | some file => w.setStream s.id 0 file
          | none => w
        let w := match if last then none else w.stream? s.id inlet with
          | some file => w.setStream s.id 1 file
          | none => w
        [100, 101, 102, 103].foldl (fun w n => w.closeStream s.id n) w
      run tested stage
    Step.changeWorld fun w =>
      let w := match source with
        | some n => w.closeStream s.id n
        | none => w
      if last then w else w.closeStream s.id inlet
    return id :: (← startStages run tested (some outlet) rest)

/-! ## Calls -/

structure Caller where
  run : Runner
  /-- Becomes the program that a name has led to, at a path. -/
  become (name path : Text) (arguments : List Text) : Step Nat

/-- Complains that a program cannot be called, and gives the status. -/
def refusal (label name : Text) : Refusal → Step Nat
  | .missing => do
    Step.complain (← Step.complaint (label ++ name ++ ": not found".toList)) 127
  | _ => do
    Step.complain (← Step.complaint (label ++ name ++ ": Permission denied".toList)) 126

/-- Calls a program as a process of its own, with variables assigned for it. -/
def callProgram (c : Caller) (assigned : List (Text × Text)) (name : Text)
    (arguments : List Text) : Step Nat := do
  let s ← get
  let withPath := assigned.foldl (fun s (n, v) =>
    s.bind n fun _ => { value := some v, exported := true }) s
  match (← Step.world).findProgram withPath name with
  | .error r => refusal [] name r
  | .ok path =>
    let id ← Step.fork do
      modify fun s => { withPath.apart with id := s.id }
      c.become name path arguments
    joinAloud id

def describeName (short : Bool) (name : Text) : Step Nat := do
  let s ← get
  let say (long : Text) : Step Nat := do
    Step.printLine (if short then name else name ++ long)
    return 0
  if reserved.contains name then say " is a shell keyword"
  else if (lookup name s.functions).isSome then say " is a shell function"
  else if Builtin.isSpecial name then say " is a special shell builtin"
  else if Builtin.isBuiltin name then say " is a shell builtin"
  else match (← Step.world).findProgram s name with
    | .ok path =>
      Step.printLine (if short then path else name ++ " is ".toList ++ path)
      return 0
    | .error _ =>
      if short then return 127
      else
        Step.printLine (name ++ ": not found".toList)
        return 127

/-- Takes a step whose complaints name something. -/
def naming (within : Text) (step : Step Nat) : Step Nat := do
  let outer := (← get).within
  modify fun s => { s with within }
  let status ← tryCatch step fun halt => do
    modify fun s => { s with within := outer }
    throw halt
  modify fun s => { s with within := outer }
  return status

def runFile (c : Caller) (tested : Bool) (path : Text) : Step Nat := do
  let s ← get
  let w ← Step.world
  let isFile (path : Text) : Bool := match w.entryAt s.here path with
    | some (.file ..) => true
    | _ => false
  let found := if path.contains '/' then some path else (s.candidates path).find? isFile
  match found with
  | none => Builtin.refuse (".: ".toList ++ path ++ ": not found".toList)
  | some path =>
    match ← readPath path with
    | .error f => Builtin.refuse (".: ".toList ++ openingComplaint path .read f)
    | .ok t =>
      naming (path ++ ": ".toList) <| tryCatch (runText c.run tested 1 t) fun
        | .giveBack code => pure code
        | halt => throw halt

/-- Becomes a program for good. What was said to be run at the end is not. -/
def exec (c : Caller) (arguments : List Text) : Step Nat := do
  match arguments with
  | [] => return 0
  | name :: arguments =>
    match (← Step.world).findProgram (← get) name with
    | .error r =>
      let status ← refusal "exec: " name r
      throw (.exit status)
    | .ok path =>
      modify fun s => { s with traps := s.traps.filter fun t => t.1 ≠ 0 && t.2.isEmpty }
      throw (.exit (← c.become name path arguments))

/-- Calls a builtin. A failure ends the script if the builtin is special. -/
def callBuiltin (special : Bool) (step : Step Nat) : Step Nat :=
  if special then step
  else tryCatch step fun
    | .failure code => pure code
    | halt => throw halt

def assigning (assigned : List (Text × Text)) (step : Step Nat) : Step Nat := do
  let s ← get
  let restore : Step Unit := modify fun t =>
    Builtin.uncover { t with hidden := assigned.map fun (n, _) => (n, s.binding? n) }
      |> fun u => { u with hidden := t.hidden }
  for (name, value) in assigned do
    Step.setVariable name value
    modify fun s => s.bind name fun b => { b.getD { value := some value } with exported := true }
  let status ← tryCatch step fun halt => do
    restore
    throw halt
  restore
  return status

/-- Calls a name that stands for no function. -/
def callPlain (c : Caller) (tested special : Bool) (assigned : List (Text × Text)) (name : Text)
    (arguments : List Text) : Step Nat :=
  match String.ofList name with
  | "eval" => callBuiltin special <| naming "eval: " do
    runText c.run tested 1 (Text.join [' '] arguments)
  | "." => callBuiltin special <| naming [] do
    match arguments with
    | [] => return 0
    | path :: _ => runFile c tested path
  | "exec" => naming [] (exec c arguments)
  | "type" => eachOf (describeName false) arguments
  | _ =>
    match Builtin.simple? name with
    | some step => callBuiltin special (naming [] (step arguments))
    | none => callProgram c assigned name arguments

/-- The command behind words that only tell how to look for it. -/
def behindCommand : List Text → List Text
  | ['-', 'p'] :: rest | ['-', '-'] :: rest => behindCommand rest
  | word :: rest => if word = "command".toList then behindCommand rest else word :: rest
  | [] => []

def call (c : Caller) (tested : Bool) (assigned : List (Text × Text)) (name : Text)
    (arguments : List Text) : Step Nat := do
  let s ← get
  if name = "command".toList then
    match behindCommand arguments with
    | [] => return 0
    | ['-', 'v'] :: names => eachOf (describeName true) names
    | ['-', 'V'] :: names => eachOf (describeName false) names
    | name :: arguments => assigning assigned (callPlain c tested false assigned name arguments)
  else if Builtin.isSpecial name then
    for (name, value) in assigned do
      Step.setVariable name value
    callPlain c tested true assigned name arguments
  else match lookup name s.functions with
    | some body => assigning assigned (callFunction c.run tested body arguments)
    | none =>
      if Builtin.isBuiltin name then
        assigning assigned (callPlain c tested false assigned name arguments)
      else callPlain c tested false assigned name arguments

/-- Prints a command that is about to run, if that is wanted. -/
def trace (assigned : List (Text × Text)) (fields : List Text) : Step Unit := do
  if (← get).has 'x' then
    let words := (assigned.map fun (n, v) => n ++ '=' :: v) ++ fields
    let mark := ((← get).bound? "PS4").getD "+ "
    Step.write 2 (mark ++ Text.join [' '] words ++ ['\n'])

def assignedValues (inner : Text → Step Text) : List (Text × Word) → Step (List (Text × Text))
  | [] => return []
  | (name, w) :: rest => do
    let value ← wholeText inner w
    return (name, value) :: (← assignedValues inner rest)

/-- Assigns variables one after the other. `done` are those assigned already, the last one first. -/
def assignAll (inner : Text → Step Text) (done : List (Text × Text)) :
    List (Text × Word) → Step Unit
  | [] => do unless done.isEmpty do trace done.reverse []
  | (name, w) :: rest => do
    let value ← wholeText inner w
    Step.setVariable name value
    assignAll inner ((name, value) :: done) rest

def runSimple (c : Caller) (tested : Bool) (line : Nat) (assignments : List (Text × Word))
    (words : List Word) (rs : List Redirection) : Step Nat := do
  Step.pass commandTime
  modify fun s => { s with line, substituted := none }
  let inner := substitute c.run
  match ← fieldsOf inner words with
  | [] =>
    redirected inner rs (pure 2) do
      assignAll inner [] assignments
      return (← get).substituted.getD 0
  | name :: arguments =>
    if name = "exec".toList then
      let (_, complaint) ← applyAll inner false rs
      match complaint with
      | some t => Builtin.refuse t
      | none =>
        let assigned ← assignedValues inner assignments
        trace assigned (name :: arguments)
        call c tested assigned name arguments
    else
      let failed : Step Nat := if Builtin.isSpecial name then throw (.failure 2) else pure 2
      redirected inner rs failed do
        let assigned ← assignedValues inner assignments
        trace assigned (name :: arguments)
        call c tested assigned name arguments

/-! ## Commands -/

def Command.isChecked : Command → Bool
  | .simple .. | .pipe _ | .apart _ => true
  | _ => false

def chosenCase (inner : Text → Step Text) (subject : Text) :
    List (List Word × Command) → Step (Option Command)
  | [] => return none
  | (patterns, body) :: rest => do
    if ← patterns.anyM fun p => do return (← patternOf inner p).matchesText subject then
      return some body
    else chosenCase inner subject rest

/-- What a command does, given how the commands and programs that it is made of are run. -/
def perform (c : Caller) (tested : Bool) (command : Command) : Step Nat :=
  let run := c.run
  let inner := substitute run
  match command with
  | .skip => return 0
  | .simple line assignments words rs =>
    runSimple c tested line assignments words rs
  | .sequence first second => do
    discard <| run tested first
    run tested second
  | .background body => do
    let id ← forkShell run do
      let s ← get
      Step.changeWorld fun w => w.addStream s.id 0 { source := .nothing }
      run false body
    modify fun s => { s with jobs := s.jobs ++ [id], lastJob := some id }
    return 0
  | .both first second => do
    let status ← run true first
    if status = 0 then run tested second else return status
  | .either first second => do
    let status ← run true first
    if status = 0 then return 0 else run tested second
  | .negated body => do return if (← run true body) = 0 then 1 else 0
  | .pipe stages => do joinAll (← startStages run tested none stages) 0
  | .forEach name words body => do
    let values ← match words with
      | some ws => fieldsOf inner ws
      | none => pure (← get).arguments
    inLoop <| roundsFor (fun value => do
      Step.setVariable name value
      return (← run tested body, true)) 0 values
  | .choose subject cases => do
    let t ← wholeText inner subject
    match ← chosenCase inner t cases with
    | some body => run tested body
    | none => return 0
  | .conditional test yes no => do
    if (← run true test) = 0 then run tested yes else run tested no
  | .loop success test body =>
    inLoop <| rounds (fun status => do
      if decide ((← run true test) = 0) = success then return (← run tested body, true)
      else return (status, false)) roundLimit 0
  | .apart body => do
    let id ← forkShell run (run tested body)
    joinAloud id
  | .redirected line body rs => do
    modify fun s => { s with line }
    redirected inner rs (pure 2) (run tested body)
  | .define name body => do
    modify fun s => { s with functions := bindName name body s.functions }
    return 0

end Curriculum.Script
