import Curriculum.Script.Field
import Curriculum.Script.Image
import Curriculum.Script.Utility.Files
import Curriculum.Script.Utility.Print
import Curriculum.Script.Utility.Test

/-! # Builtins

What a shell does itself when it is called by name, because it changes what the shell knows. -/

namespace Curriculum.Script

namespace Builtin

/-- The shell complains about what a builtin was told, which it does not go on from. -/
def refuse (t : Text) : Step Nat := Step.fail t 2

/-! ## The working directory -/

def enter (place : Place) : Step Unit := do
  let old := (← get).bound? "PWD"
  modify fun s => { s with here := place }
  if let some old := old then Step.setVariable "OLDPWD" old
  Step.setVariable "PWD" (pathOf place)

def changeDirectory (arguments : List Text) : Step Nat := do
  let s ← get
  let operands := arguments.filter fun a => !(List.map String.toList ["-L", "-P", "--"]).contains a
  let path := match operands with
    | [] => (s.bound? "HOME").getD []
    | ['-'] :: _ => (s.bound? "OLDPWD").getD []
    | path :: _ => path
  if path.isEmpty then return 0
  let w ← Step.world
  let found := (w.locate s.here path).toOption.filter fun p => w.tree.get? p = some .directory
  match found with
  | some place =>
    enter place
    if operands.head? = some ['-'] then Step.printLine (pathOf place)
    return 0
  | none => refuse ("cd: can't cd to ".toList ++ path)

def printDirectory : Step Nat := do
  Step.printLine (pathOf (← get).here)
  return 0

/-! ## Variables -/

/-- A text in quotes that a shell would read back. -/
def quoted (t : Text) : Text := '\'' :: Text.substitute '\'' "'\"'\"'" t ++ ['\'']

/-- A text is a name, and perhaps a value that it is given behind an equal sign. -/
def nameAndValue (t : Text) : Text × Option Text :=
  let name := t.takeWhile (· ≠ '=')
  (name, if name.length < t.length then some (t.drop (name.length + 1)) else none)

def badName (what name : Text) : Step Nat :=
  refuse (what ++ ": ".toList ++ name ++ ": bad variable name".toList)

/-- Gives variables a property, and a value where one stands behind the name. -/
def mark (what : Text) (property : Binding → Binding) : List Text → Step Nat
  | [] => return 0
  | argument :: rest => do
    let (name, value) := nameAndValue argument
    if !isName name then return ← badName what name
    if let some value := value then Step.setVariable name value
    modify fun s => s.bind name fun b => property (b.getD { value := none })
    mark what property rest

/-- Prints the variables that have a property, behind a word. -/
def printMarked (what : Text) (p : Binding → Bool) : Step Unit := do
  let all := ((← get).bindings.filter fun e => p e.2).mergeSort fun a b => !Text.before b.1 a.1
  for (name, b) in all do
    let value : Text := match b.value with
      | some v => '=' :: quoted v
      | none => []
    Step.printLine (what ++ name ++ value)

def exportNames (arguments : List Text) : Step Nat := do
  if arguments.isEmpty || arguments.head? = some "-p".toList then
    printMarked "export " Binding.exported
    return 0
  mark "export" (fun b => { b with exported := true }) arguments

def protect (arguments : List Text) : Step Nat := do
  if arguments.isEmpty || arguments.head? = some "-p".toList then
    printMarked "readonly " Binding.readonly
    return 0
  mark "readonly" (fun b => { b with readonly := true }) arguments

def unset (arguments : List Text) : Step Nat := do
  let functions := arguments.head? = some "-f".toList
  for name in arguments.filter fun a => !(List.map String.toList ["-f", "-v"]).contains a do
    let s ← get
    if functions then
      set { s with functions := s.functions.filter fun f => f.1 ≠ name }
    else if (s.binding? name).any Binding.readonly then
      discard <| refuse ("unset: ".toList ++ name ++ ": is read only".toList)
    else Step.unsetVariable name
  return 0

/-- Makes variables local to the function that is being called. -/
def declareLocal : List Text → Step Nat
  | [] => return 0
  | argument :: rest => do
    let (name, value) := nameAndValue argument
    if (← get).depth = 0 then return ← refuse "local: not in a function"
    modify fun s => { s with hidden := (name, s.binding? name) :: s.hidden }
    if let some value := value then Step.setVariable name value
    declareLocal rest

/-- The local variables of a function give way to what they stood in front of. -/
def uncover (s : Shell) : Shell :=
  s.hidden.foldl (fun s (name, b) => match b with
    | some b => { s with bindings := bindName name b s.bindings }
    | none => { s with bindings := s.bindings.filter fun e => e.1 ≠ name }) s

def shift (arguments : List Text) : Step Nat := do
  let s ← get
  match Text.natural? (arguments.headD ['1']) with
  | none => refuse ("shift: Illegal number: ".toList ++ arguments.headD [])
  | some n =>
    if s.arguments.length < n then refuse "shift: can't shift that many"
    else
      set { s with arguments := s.arguments.drop n }
      return 0

/-! ## Options -/

def optionWords : List (Text × Char) :=
  [("errexit", 'e'), ("nounset", 'u'), ("xtrace", 'x'), ("noglob", 'f'), ("allexport", 'a'),
    ("noclobber", 'C'), ("verbose", 'v'), ("noexec", 'n'), ("monitor", 'm')].map
      fun (word, c) => (String.toList word, c)

def setOption (on : Bool) (c : Char) : Step Unit := modify fun s =>
  { s with options := (s.options.filter (· ≠ c)) ++ if on then [c] else [] }

/-- Takes the options at the start of some arguments, and gives the rest; nothing if no arguments
are meant by that. -/
def takeOptions (what : Text) (fuel : Nat) (arguments : List Text) : Step (Option (List Text)) := do
  match fuel, arguments with
  | 0, _ | _, [] => return none
  | fuel + 1, argument :: rest =>
    match argument with
    | ['-', '-'] => return some rest
    | ['-'] => return if rest.isEmpty then none else some rest
    | ['-', 'o'] | ['+', 'o'] =>
      match rest with
      | [] => return none
      | word :: rest =>
        match lookup word optionWords with
        | some c =>
          setOption (argument.head? = some '-') c
          takeOptions what fuel rest
        | none => Step.fail (what ++ "Illegal option -o ".toList ++ word) 2
    | '-' :: letters | '+' :: letters =>
      for c in letters do
        if "abCefhImnuvxV".toList.contains c then setOption (argument.head? = some '-') c
        else Step.fail (what ++ "Illegal option -".toList ++ [c]) 2
      takeOptions what fuel rest
    | _ => return some arguments

def setAll (arguments : List Text) : Step Nat := do
  if arguments.isEmpty then
    let all := (← get).bindings.mergeSort fun a b => !Text.before b.1 a.1
    for (name, b) in all do
      if let some v := b.value then Step.printLine (name ++ '=' :: quoted v)
    return 0
  if let some rest ← takeOptions "set: " (arguments.length + 1) arguments then
    modify fun s => { s with arguments := rest }
  return 0

/-! ## Input -/

/-- A line with a mark on the characters that a backslash quotes. A backslash at the end of a line
joins the next one to it. -/
def readMarked (plain : Bool) (fuel : Nat) : Step (List Marked × Bool) := do
  match fuel with
  | 0 => return ([], false)
  | fuel + 1 =>
    let (line, ended) ← Step.readLine 1000000 0
    if plain then return (line.map (·, false), ended)
    let (marked, joined) := marks line
    if joined && ended then
      let (rest, ended) ← readMarked plain fuel
      return (marked ++ rest, ended)
    return (marked, ended)
where
  marks : Text → List Marked × Bool
    | [] => ([], false)
    | ['\\'] => ([], true)
    | '\\' :: c :: rest => let (m, joined) := marks rest; ((c, true) :: m, joined)
    | c :: rest => let (m, joined) := marks rest; ((c, false) :: m, joined)

/-- Splits a line into so many fields. The last one takes all that is left. -/
def splitLine (separators : Text) (count : Nat) (line : List Marked) : List Text :=
  let isSeparator (m : Marked) : Bool := !m.2 && separators.contains m.1
  let isGap (m : Marked) : Bool := isSeparator m && " \t\n".toList.contains m.1
  let line := line.dropWhile isGap
  match count with
  | 0 | 1 =>
    let whole := (line.reverse.dropWhile isGap).reverse
    let inner := whole.dropLast
    let closed := whole.getLast?.any isSeparator && !inner.any isSeparator
    [(if closed then inner else whole).map (·.1)]
  | count + 1 =>
    let field := line.takeWhile fun m => !isSeparator m
    let rest := (line.drop field.length).dropWhile isGap
    let rest := if rest.head?.any isSeparator then rest.drop 1 else rest
    field.map (·.1) :: splitLine separators count rest

def read (arguments : List Text) : Step Nat := do
  let options := arguments.takeWhile fun a => a.head? = some '-'
  let plain := options.any fun o => o.contains 'r'
  let names := arguments.drop options.length
  let names := if options.any fun o => o.getLast? = some 'p' then names.drop 1 else names
  if names.isEmpty then return ← refuse "read: arg count"
  match names.find? fun n => !isName n with
  | some bad => badName "read" bad
  | none =>
    let (line, ended) ← readMarked plain 1000
    let fields := splitLine (← get).separators names.length line
    for (name, i) in names.zipIdx do
      Step.setVariable name (fields.getD i [])
    return if ended then 0 else 1

/-! ## Signals and processes -/

/-- The signals by their names. -/
def signalNames : List (Text × Nat) :=
  [("EXIT", 0), ("HUP", 1), ("INT", 2), ("QUIT", 3), ("ILL", 4), ("TRAP", 5), ("ABRT", 6), ("BUS", 7),
    ("FPE", 8), ("KILL", 9), ("USR1", 10), ("SEGV", 11), ("USR2", 12), ("PIPE", 13), ("ALRM", 14),
    ("TERM", 15), ("STKFLT", 16), ("CHLD", 17), ("CONT", 18), ("STOP", 19), ("TSTP", 20), ("TTIN", 21),
    ("TTOU", 22), ("URG", 23), ("XCPU", 24), ("XFSZ", 25), ("VTALRM", 26), ("PROF", 27),
    ("WINCH", 28), ("IO", 29), ("PWR", 30), ("SYS", 31)].map fun (name, n) => (String.toList name, n)

def signal? (t : Text) : Option Nat :=
  match Text.natural? t with
  | some n => if n ≤ 64 then some n else none
  | none =>
    let name := t.map Char.toUpper
    lookup (if "SIG".toList.isPrefixOf name then name.drop 3 else name) signalNames

/-- Sends a signal to processes. -/
def sendTo (signal : Nat) : List Text → Step Nat
  | [] => return 0
  | target :: rest => do
    let s ← get
    let w ← Step.world
    let digits := if target.head? = some '-' then target.drop 1 else target
    let id? := match digits with
      | '%' :: _ => s.lastJob
      | ['0'] => some s.main
      | _ => Text.natural? digits
    match id? with
    | none =>
      let _ ← refuse ("kill: Illegal number: ".toList ++ target)
      return 2
    | some id =>
      if w.processes.any fun p => p.id = id && p.outcome.isNone then
        if id = s.id then Step.receive signal
        else Step.setWorld (w.signal id signal)
        sendTo signal rest
      else if w.processes.any fun p => p.id = id then sendTo signal rest
      else
        Step.write 2 ((← Step.complaint "kill: No such process\n") ++ ['\n'])
        let _ ← sendTo signal rest
        return 1

def kill (arguments : List Text) : Step Nat := do
  let usage : Step Nat := refuse ("kill: Usage: kill [-s sigspec | -signum | -sigspec] [pid | job]... or\n" ++
    "kill -l [exitstatus]")
  let send (name : Text) (targets : List Text) : Step Nat :=
    match signal? name with
    | some n => if targets.isEmpty then usage else sendTo n targets
    | none => refuse ("kill: invalid signal number or name: ".toList ++ name)
  match arguments with
  | ['-', 'l'] :: rest =>
    match rest with
    | [] =>
      for (name, _) in signalNames.drop 1 do
        Step.printLine name
      return 0
    | code :: _ =>
      let n := (Text.natural? code).getD 0
      let n := if 128 < n then n - 128 else n
      Step.printLine (((signalNames.find? fun e => e.2 = n).map (·.1)).getD code)
      return 0
  | ['-', 's'] :: name :: targets => send name targets
  | ['-', '-'] :: targets => sendTo 15 targets
  | ('-' :: name) :: targets => if name.isEmpty then usage else send name targets
  | [] => usage
  | targets => sendTo 15 targets

/-- Says what to do about a signal, or at the end. -/
def setTrap (action : Option Text) (signal : Nat) : Step Unit := do
  let s ← get
  set { s with traps := match action with
    | none => without signal s.traps
    | some t => assign signal t s.traps }
  if signal ≠ 0 then
    Step.changeWorld fun w => w.alter s.id fun p =>
      { p with responses := match action with
        | none => without signal p.responses
        | some [] => assign signal .ignore p.responses
        | some _ => assign signal .handle p.responses }

def setTraps (action : Option Text) : List Text → Step Nat
  | [] => return 0
  | name :: rest => do
    match signal? name with
    | none => Step.complain ("trap: ".toList ++ name ++ ": bad trap".toList) 1
    | some n =>
      setTrap action n
      setTraps action rest

def trap (arguments : List Text) : Step Nat := do
  let arguments := if arguments.head? = some "--".toList then arguments.drop 1 else arguments
  match arguments with
  | [] =>
    for (n, t) in (← get).traps.mergeSort fun a b => a.1 ≤ b.1 do
      let name := ((signalNames.find? fun e => e.2 = n).map (·.1)).getD (Number.digits n)
      Step.printLine ("trap -- ".toList ++ quoted t ++ ' ' :: name)
    return 0
  | first :: rest =>
    let (action, names) := match rest with
      | [] => (none, [first])
      | _ => if (Text.natural? first).isSome then (none, arguments)
        else (if first = ['-'] then none else some first, rest)
    setTraps action names

/-- What is said of a process that a signal has ended. -/
def signalText? (signal : Nat) : Option Text :=
  ([(1, "Hangup"), (3, "Quit"), (4, "Illegal instruction"), (5, "Trace/breakpoint trap"),
    (6, "Aborted"), (7, "Bus error"), (8, "Floating point exception"), (9, "Killed"),
    (10, "User defined signal 1"), (11, "Segmentation fault"), (12, "User defined signal 2"),
    (14, "Alarm clock"), (15, "Terminated"), (24, "CPU time limit exceeded"),
    (25, "File size limit exceeded")].lookup signal).map String.toList

/-- The status of a process that a script has waited for; a signal that has ended it is told. -/
def tell (e : End) : Step Nat := do
  if let .signalled signal := e then
    if let some t := signalText? signal then Step.write 2 (t ++ ['\n'])
  return e.status

/-- Waits for a process that was started, unless a signal comes in between. -/
def waitFor (aloud : Bool) (id : Nat) : Step Nat := do
  let s ← get
  Step.await fun w => (w.outcome id).isSome || !(w.process s.id).pending.isEmpty
  let w ← Step.world
  match w.outcome id with
  | some e =>
    Step.setWorld (w.forget id)
    modify fun s => { s with jobs := s.jobs.filter (· ≠ id) }
    if aloud then tell e else return e.status
  | none => return 128 + (w.process s.id).pending.headD 0

def wait (arguments : List Text) : Step Nat := do
  let s ← get
  if arguments.isEmpty then
    for id in s.jobs do
      discard <| waitFor false id
    let pending := ((← Step.world).process s.id).pending
    return if pending.isEmpty then 0 else 128 + pending.headD 0
  let mut status := 0
  for t in arguments do
    let id? := if t.head? = some '%' then s.lastJob else Text.natural? t
    match id? with
    | some id => status := (← if s.jobs.contains id then waitFor true id else pure 127)
    | none => status := (← refuse ("wait: Illegal number: ".toList ++ t))
  return status

/-! ## Leaving -/

/-- The status that an argument gives, or else the last one. -/
def givenStatus (what : Text) (arguments : List Text) : Step Nat := do
  match arguments with
  | [] => return (← get).status
  | t :: _ =>
    match Text.natural? t with
    | some n => return n % 256
    | none => refuse (what ++ ": Illegal number: ".toList ++ t)

def exit (arguments : List Text) : Step Nat := do throw (.exit (← givenStatus "exit" arguments))

def giveBack (arguments : List Text) : Step Nat := do
  throw (.giveBack (← givenStatus "return" arguments))

/-- Ends loops, or rounds of them. Outside of loops there is nothing to end. -/
def leave (what : Text) (halt : Nat → Halt) (arguments : List Text) : Step Nat := do
  match Text.natural? (arguments.headD ['1']) with
  | some (n + 1) =>
    let loops := (← get).loops
    if loops = 0 then return 0 else throw (halt (min loops (n + 1)))
  | _ => refuse (what ++ ": Illegal number: ".toList ++ arguments.headD [])

def umask (arguments : List Text) : Step Nat := do
  if arguments.isEmpty then Step.printLine "0022"
  return 0

/-- The bytes of a block, in which the length of files is limited. -/
def blockLength : Nat := 512

/-- Limits what the process and those that come from it may use. Only the length of the files that
they make counts here. -/
def limitUse (arguments : List Text) : Step Nat := do
  let options := arguments.takeWhile fun a => a.head? = some '-'
  let letters := (options.map (·.drop 1)).flatten
  let isAboutFiles := letters.all "HSf".toList.contains
  -- the limit that may not be raised again is another one
  let counts := isAboutFiles && (letters.contains 'S' || !letters.contains 'H')
  let s ← get
  match arguments.drop options.length with
  | [] =>
    if isAboutFiles then
      Step.printLine (match ((← Step.world).process s.id).limit with
        | some limit => Number.digits (limit / blockLength)
        | none => "unlimited")
    return 0
  | value :: _ =>
    let limit ← match Text.natural? value with
      | some blocks => pure (some (blocks * blockLength))
      | none =>
        if value ≠ "unlimited".toList then discard <| refuse "ulimit: bad number"
        pure none
    if counts then Step.changeWorld fun w => w.alter s.id fun p => { p with limit }
    return 0

/-- Goes through the options of a script one at a time. -/
def nextOption (arguments : List Text) : Step Nat := do
  let s ← get
  match arguments with
  | letters :: name :: rest =>
    let words := if rest.isEmpty then s.arguments else rest
    let quiet := letters.head? = some ':'
    let number := ((s.bound? "OPTIND").bind Text.natural?).getD 1
    let offset := ((s.bound? "_OPTOFF").bind Text.natural?).getD 1
    let finish : Step Nat := do
      Step.setVariable name ['?']
      return 1
    match words[number - 1]? with
    | some ('-' :: c :: more) =>
      if c :: more = ['-'] then
        Step.setVariable "OPTIND" (Number.digits (number + 1))
        return ← finish
      let word := '-' :: c :: more
      let letter := word.getD offset '?'
      let isLast := word.length ≤ offset + 1
      let goOn (next offset : Nat) : Step Unit := do
        Step.setVariable "OPTIND" (Number.digits next)
        Step.setVariable "_OPTOFF" (Number.digits offset)
      match letters.dropWhile (· ≠ letter), decide (letter = ':') with
      | [], _ | _, true =>
        if isLast then goOn (number + 1) 1 else goOn number (offset + 1)
        if quiet then Step.setVariable "OPTARG" [letter]
        else
          Step.write 2 ("Illegal option -".toList ++ [letter, '\n'])
          Step.unsetVariable "OPTARG"
        Step.setVariable name ['?']
        return 0
      | _ :: ':' :: _, _ =>
        let value? := if isLast then words[number]? else some (word.drop (offset + 1))
        goOn (if isLast then number + 2 else number + 1) 1
        match value? with
        | some value =>
          Step.setVariable "OPTARG" value
          Step.setVariable name [letter]
        | none =>
          if quiet then
            Step.setVariable "OPTARG" [letter]
            Step.setVariable name [':']
          else
            Step.write 2 ("No arg for -".toList ++ [letter] ++ " option\n".toList)
            Step.unsetVariable "OPTARG"
            Step.setVariable name ['?']
        return 0
      | _, _ =>
        if isLast then goOn (number + 1) 1 else goOn number (offset + 1)
        Step.setVariable "OPTARG" []
        Step.setVariable name [letter]
        return 0
    | _ => finish
  | _ => refuse "getopts: Usage: getopts optstring var [arg]"

/-- The builtins that take no other commands. -/
def simple? (name : Text) : Option (List Text → Step Nat) :=
  match String.ofList name with
  | ":" | "true" | "hash" | "times" | "jobs" | "alias" | "unalias" => some fun _ => return 0
  | "false" => some fun _ => return 1
  | "echo" => some echo
  | "printf" => some printf
  | "test" | "[" => some (test name)
  | "cd" | "chdir" => some changeDirectory
  | "pwd" => some fun _ => printDirectory
  | "export" => some exportNames
  | "readonly" => some protect
  | "unset" => some unset
  | "local" => some declareLocal
  | "shift" => some shift
  | "set" => some setAll
  | "read" => some read
  | "kill" => some kill
  | "trap" => some trap
  | "wait" => some wait
  | "exit" => some exit
  | "return" => some giveBack
  | "break" => some (leave name .leave)
  | "continue" => some (leave name .again)
  | "umask" => some umask
  | "ulimit" => some limitUse
  | "getopts" => some nextOption
  | _ => none

/-- The builtins that take other commands. -/
def others : List Text := List.map String.toList ["command", "eval", "exec", ".", "type"]

def isBuiltin (name : Text) : Bool := (simple? name).isSome || others.contains name

/-- The builtins whose failures a shell does not go on from, and whose assignments stay. -/
def isSpecial (name : Text) : Bool :=
  [":", ".", "break", "continue", "eval", "exec", "exit", "export", "local", "readonly", "return",
    "set", "shift", "trap", "unset", "times"].contains (String.ofList name)

end Builtin

end Curriculum.Script
