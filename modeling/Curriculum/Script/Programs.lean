import Curriculum.Script.Own
import Curriculum.Script.Run
import Curriculum.Script.Utility.Dump
import Curriculum.Script.Utility.Edit
import Curriculum.Script.Utility.Expr
import Curriculum.Script.Utility.Search

/-! # Programs

The programs of the machine: utilities, the shell itself, and utilities that call other programs. -/

namespace Curriculum.Script

def printEnvironment : Step Nat := do
  for (name, value) in (← get).environment do
    Step.printLine (name ++ '=' :: value)
  return 0

def printVariables (names : List Text) : Step Nat := do
  if names.isEmpty then return ← printEnvironment
  let environment := (← get).environment
  eachOf (fun name => do
    match lookup name environment with
    | some value =>
      Step.printLine value
      return 0
    | none => return 1) names

def printPaths (names : List Text) : Step Nat := do
  let s ← get
  let w ← Step.world
  eachOf (fun name => do
    match w.findProgram s name with
    | .ok path =>
      Step.printLine path
      return 0
    | .error _ => return 1) names

/-- The utilities that call no other programs. -/
def utility? (name : Text) : Option (List Text → Step Nat) :=
  match String.ofList name with
  | "true" | "sync" => some fun _ => return 0
  | "false" => some fun _ => return 1
  | "basename" => some basename
  | "cat" => some cat
  | "chmod" => some changeMode
  | "cmp" => some compareFiles
  | "cp" => some copy
  | "cut" => some cut
  | "date" => some fun _ => do
    Step.printLine "Thu Jan  1 00:00:00 UTC 1970"
    return 0
  | "dd" => some copyBlocks
  | "dirname" => some dirname
  | "echo" => some echo
  | "expr" => some Expr.run
  | "grep" => some (searchWith none)
  | "egrep" => some (searchWith (some 'E'))
  | "fgrep" => some (searchWith (some 'F'))
  | "head" => some (headOrTail false)
  | "kill" => some Builtin.kill
  | "ln" => some link
  | "ls" => some list
  | "mkdir" => some makeDirectory
  | "mktemp" => some makeTemporary
  | "mv" => some move
  | "od" => some dump
  | "nl" => some numbered
  | "printenv" => some printVariables
  | "printf" => some printf
  | "pwd" => some fun _ => Builtin.printDirectory
  | "readlink" => some fun arguments =>
    if arguments.any fun a => a.head? = some '-' then realPath "readlink" true arguments
    else return 1
  | "realpath" => some (realPath "realpath" false)
  | "rev" => some reverseEach
  | "rm" => some remove
  | "rmdir" => some removeDirectory
  | "sed" => some Edit.run
  | "seq" => some sequenceOf
  | "sleep" => some sleep
  | "sort" => some sort
  | "stat" => some describe
  | "tac" => some reverseAll
  | "tail" => some (headOrTail true)
  | "tee" => some tee
  | "test" | "[" => some (test name)
  | "touch" => some touch
  | "tr" => some translate
  | "truncate" => some truncate
  | "uname" => some fun _ => do
    Step.printLine "Linux"
    return 0
  | "uniq" => some unique
  | "wc" => some wordCount
  | "which" => some printPaths
  | "yes" => some yes
  | _ => none

/-! ## Calling others -/

def callAndWait (c : Caller) (label name : Text) (arguments : List Text) : Step Nat := do
  let s ← get
  match (← Step.world).findProgram s name with
  | .error .missing => Step.complain (label ++ name ++ ": No such file or directory".toList) 127
  | .error _ => Step.complain (label ++ name ++ ": Permission denied".toList) 126
  | .ok path =>
    let id ← Step.fork (c.become name path arguments)
    return (← Step.join id).status

/-- Calls a program with some variables in its environment. Each step takes a character of the
arguments at least. -/
def withEnvironment (c : Caller) (fuel : Nat) (arguments : List Text) : Step Nat := do
  match fuel, arguments with
  | 0, _ | _, [] => printEnvironment
  | fuel + 1, argument :: rest =>
    if argument = "-i".toList || argument = ['-'] then
      modify fun s => { s with bindings := s.bindings.map fun (n, b) =>
        (n, { b with exported := false }) }
      withEnvironment c fuel rest
    else if argument = "-u".toList then
      modify fun s => { s with bindings := s.bindings.filter fun b => some b.1 ≠ rest.head? }
      withEnvironment c fuel (rest.drop 1)
    else if argument = "--".toList then withEnvironment c fuel rest
    else if "-S".toList.isPrefixOf argument then
      let words := if argument.length = 2 then rest.headD [] else argument.drop 2
      let rest := if argument.length = 2 then rest.drop 1 else rest
      withEnvironment c fuel ((words.splitOnP isBlank).filter (!·.isEmpty) ++ rest)
    else
      let (name, value) := Builtin.nameAndValue argument
      match value with
      | some value =>
        modify fun s => s.bind name fun _ => { value := some value, exported := true }
        withEnvironment c fuel rest
      | none =>
        match (← Step.world).findProgram (← get) argument with
        | .error .missing =>
          complainAs "env" ("'".toList ++ argument ++ "': No such file or directory".toList) 127
        | .error _ => complainAs "env" ("'".toList ++ argument ++ "': Permission denied".toList) 126
        | .ok path => c.become argument path rest

/-- Ends a program after some time, if it does not end before. -/
def timeLimited (c : Caller) (arguments : List Text) : Step Nat := do
  let rec options (signal : Nat) : List Text → Nat × List Text
    | ['-', 's'] :: name :: rest => options ((Builtin.signal? name).getD 15) rest
    | ['-', 'k'] :: _ :: rest => options signal rest
    | word :: rest =>
      if word = "--foreground".toList || word = "--preserve-status".toList then options signal rest
      else (signal, word :: rest)
    | [] => (signal, [])
  let (signal, rest) := options 15 arguments
  match rest with
  | duration :: name :: arguments =>
    match nanoseconds? duration with
    | none => complainAs "timeout" ("invalid time interval '".toList ++ duration ++ ['\'']) 125
    | some time =>
      let s ← get
      match (← Step.world).findProgram s name with
      | .error .missing =>
        complainAs "timeout" ("failed to run command '".toList ++ name ++
          "': No such file or directory".toList) 127
      | .error _ =>
        complainAs "timeout" ("failed to run command '".toList ++ name ++
          "': Permission denied".toList) 126
      | .ok path =>
        let id ← Step.fork (c.become name path arguments)
        let watcher ← Step.fork do
          Step.pass time
          Step.changeWorld fun w => w.signal id signal
          return 0
        let e ← Step.join id
        let fired := ((← Step.world).outcome watcher).isSome
        Step.changeWorld fun w => (w.signal watcher 9).forget watcher
        return if fired then (if signal = 9 then 137 else 124) else e.status
  | _ => complainOfCall "timeout" "missing operand" 125

/-- The words of a text, where quotes and backslashes keep blanks in them. -/
def quotedWords (fuel : Nat) (word : Option Text) : Text → List Text
  | t =>
    match fuel, t with
    | 0, _ | _, [] => word.toList
    | fuel + 1, c :: rest =>
      let on (more : Text) : Option Text := some (word.getD [] ++ more)
      if c = ' ' || c = '\t' || c = '\n' then word.toList ++ quotedWords fuel none rest
      else if c = '\'' || c = '"' then
        let inner := rest.takeWhile (· ≠ c)
        quotedWords fuel (on inner) (rest.drop (inner.length + 1))
      else if c = '\\' then quotedWords fuel (on (rest.take 1)) (rest.drop 1)
      else quotedWords fuel (on [c]) rest

/-- The first argument that is no option or value of one, with those behind it. -/
def behindOptions (valued : Text) : List Text → List Text × List Text
  | ['-', '-'] :: rest => ([], rest)
  | ('-' :: c :: letters) :: rest =>
    if valued.contains c && letters.isEmpty then
      match rest with
      | value :: rest =>
        let (options, rest) := behindOptions valued rest
        (('-' :: c :: value) :: options, rest)
      | [] => (['-' :: c :: letters], [])
    else
      let (options, rest) := behindOptions valued rest
      (('-' :: c :: letters) :: options, rest)
  | rest => ([], rest)

def callWithInput (c : Caller) (arguments : List Text) : Step Nat := do
  let (options, words) := behindOptions "nILPsEd" arguments
  let value? (letter : Char) : Option Text :=
    options.findSome? fun o => (['-', letter].isPrefixOf? o)
  let flag (letter : Char) : Bool := options.any fun o => !"nILPsEd".toList.contains (o.getD 1 ' ') &&
    o.contains letter
  let name := words.headD "echo"
  let given := words.drop 1
  let t ← Step.readAll 0
  let inputs := if flag '0' then linesOf (t.map fun ch => if ch = '\x00' then '\n' else ch)
    else if (value? 'I').isSome then (linesOf t).map trimBlanks |>.filter (!·.isEmpty)
    else quotedWords (t.length + 1) none t
  let calls := match value? 'I' with
    | some mark => inputs.map fun i => given.map fun (word : Text) => replaceText mark i word.length word
    | none =>
      let size := ((value? 'n' <|> value? 'L').bind Text.natural?).getD (inputs.length + 1)
      if inputs.isEmpty then if flag 'r' then [] else [given]
      else (chunks inputs.length (max size 1) inputs).map (given ++ ·)
  let mut status := 0
  for call in calls do
    let code ← callAndWait c "xargs: " name call
    if code = 126 || code = 127 then return code
    if code ≠ 0 then status := 123
  return status
where
  replaceText (mark image : Text) (fuel : Nat) (t : Text) : Text :=
    match fuel, t with
    | 0, _ => t
    | _, [] => []
    | fuel + 1, c :: rest =>
      match mark.isPrefixOf? t with
      | some after => image ++ replaceText mark image fuel after
      | none => c :: replaceText mark image fuel rest

/-! ## Finding files -/

/-- A file that is looked at: its path, its entry and how deep it lies. -/
structure Finding where
  path : Text
  entry : Entry
  depth : Nat

inductive Query where
  | test (p : Finding → Bool)
  | negated (q : Query)
  | both (a b : Query)
  | either (a b : Query)
  | print (ending : Text)
  | delete
  | call (words : List Text)

/-- The query does something with the files it finds. -/
def Query.acts : Query → Bool
  | test _ => false
  | negated q => q.acts
  | both a b | either a b => a.acts || b.acts
  | print _ | delete | call _ => true

/-- The parts of a query that come before anything that it is joined to. -/
def query? (fuel : Nat) (words : List Text) : Option (Option Query × List Text) :=
  match fuel with
  | 0 => none
  | fuel + 1 => do
    let conjunction (first : Query) (rest : List Text) : Option (Option Query × List Text) := do
      let (next, rest) ← query? fuel rest
      return (some (match next with
        | some (.either a b) => .either (.both first a) b
        | some q => .both first q
        | none => first), rest)
    match words with
    | [] => return (none, [])
    | word :: rest =>
      match String.ofList word, rest with
      | ")", _ => return (none, words)
      | "(", rest =>
        let (q, rest) ← query? fuel rest
        match q, rest with
        | some q, [')'] :: rest => conjunction q rest
        | _, _ => none
      | "-o", rest | "-or", rest =>
        let (q, rest) ← query? fuel rest
        return (some (.either (.test fun _ => true) (← q)), rest)
      | "-a", rest | "-and", rest => query? fuel rest
      | "!", word :: rest | "-not", word :: rest =>
        let (q, rest) ← single? word rest
        conjunction (.negated q) rest
      | _, rest =>
        let (q, rest) ← single? word rest
        conjunction q rest
where
  single? (word : Text) (rest : List Text) : Option (Query × List Text) :=
    let pattern (p : Text) : Pattern := Pattern.ofMarked (p.map fun c => (c, false))
    match String.ofList word, rest with
    | "-name", p :: rest => some (.test fun f => (pattern p).matchesText (baseName f.path), rest)
    | "-iname", p :: rest =>
      some (.test fun f => (pattern (Text.lowerAscii p)).matchesText
        (Text.lowerAscii (baseName f.path)), rest)
    | "-path", p :: rest => some (.test fun f => (pattern p).matchesText f.path, rest)
    | "-type", kind :: rest =>
      some (.test fun f => kind = (if f.entry = .directory then ['d'] else ['f']), rest)
    | "-empty", rest =>
      some (.test fun f => f.entry = .file [] true || f.entry = .file [] false, rest)
    | "-maxdepth", n :: rest =>
      (Text.natural? n).map fun n => (.test fun f => f.depth ≤ n, rest)
    | "-mindepth", n :: rest =>
      (Text.natural? n).map fun n => (.test fun f => n ≤ f.depth, rest)
    | "-print", rest => some (.print ['\n'], rest)
    | "-print0", rest => some (.print ['\x00'], rest)
    | "-delete", rest => some (.delete, rest)
    | "-exec", rest =>
      let words := rest.takeWhile fun t => t ≠ [';'] && t ≠ ['+']
      some (.call words, rest.drop (words.length + 1))
    | _, _ => none

def Query.ask (c : Caller) (f : Finding) : Query → Step Bool
  | test p => return p f
  | negated q => do return !(← q.ask c f)
  | both a b => do if ← a.ask c f then b.ask c f else return false
  | either a b => do if ← a.ask c f then return true else b.ask c f
  | print ending => do
    Step.print (f.path ++ ending)
    return true
  | delete => do return (← remove ["-r".toList, "--".toList, f.path]) = 0
  | call words => do
    match words.map fun w => if w = "\x7b\x7d".toList then f.path else w with
    | [] => return false
    | name :: arguments => return (← callAndWait c "find: " name arguments) = 0

def findFiles (c : Caller) (arguments : List Text) : Step Nat := do
  let paths := arguments.takeWhile fun a =>
    !(a.head? = some '-' || a.head? = some '!' || a.head? = some '(')
  let words := arguments.drop paths.length
  match query? (words.length + 1) words with
  | some (q, []) =>
    let q : Query := match q with
      | none => .print ['\n']
      | some q => if q.acts then q else .both q (.print ['\n'])
    let s ← get
    eachOf (fun path => do
      match pathsBelow (← Step.world) s.here path with
      | [] => complainAbout "find" (quote path) .missing 1
      | found =>
        let depthOf (p : Text) : Nat := (p.drop path.length).count '/'
        for (p, entry) in found do
          discard <| q.ask c ⟨p, entry, depthOf p⟩
        return 0) (if paths.isEmpty then [['.']] else paths)
  | _ => complainAs "find" "unknown predicate" 1

/-! ## The shell -/

structure ShellCall where
  /-- A script is given as an argument. -/
  isCommand : Bool := false
  /-- The script is read from the input. -/
  readsInput : Bool := false
  options : List (Bool × Char) := []
  unknown : Option Text := none
  words : List Text := []

def ShellCall.read (fuel : Nat) (call : ShellCall) (arguments : List Text) : ShellCall :=
  match fuel, arguments with
  | 0, _ | _, [] => { call with words := arguments }
  | fuel + 1, argument :: rest =>
    match argument with
    | ['-'] | ['-', '-'] => { call with words := rest }
    | ['-', 'o'] | ['+', 'o'] =>
      let c := lookup (rest.headD []) Builtin.optionWords
      let option := c.map fun c => (decide (argument.head? = some '-'), c)
      { call with options := call.options ++ option.toList }.read fuel (rest.drop 1)
    | sign :: letters =>
      if sign = '-' || sign = '+' then
        (letters.foldl (fun call c =>
          if c = 'c' then { call with isCommand := true }
          else if c = 's' then { call with readsInput := true }
          else if "aCefIilmnuvx".toList.contains c then
            { call with options := call.options ++ [(decide (sign = '-'), c)] }
          else { call with unknown := call.unknown <|> some [sign, c] }) call).read fuel rest
      else { call with words := arguments }
    | [] => { call with words := arguments }

/-- Becomes a shell that runs a script; `called` is the name that it is called by. -/
def shell (c : Caller) (called : Text) (arguments : List Text) : Step Nat := do
  let s ← get
  let call := ({} : ShellCall).read (arguments.length + 1) arguments
  let exported := s.bindings.filter fun b => b.2.exported
  let options := call.options.foldl (fun options (on, c) =>
    (options.filter (· ≠ c)) ++ if on then [c] else []) []
  let fresh : Shell := {
    id := s.id, main := s.id, here := s.here, name := called, bindings := exported, options
    traps := s.traps.filter fun t => t.1 ≠ 0 && t.2.isEmpty }
  let named (name : Text) (value : Text) (s : Shell) : Shell :=
    s.bind name fun b => { b.getD { value := none } with value := some value }
  let parent := ((← Step.world).process s.id).parent
  let fresh := named "PPID" (Number.digits parent) <| named "PWD" (pathOf s.here) <|
    named "OPTIND" ['1'] <| named "IFS" " \t\n" fresh
  let start (name : Text) (arguments : List Text) (t : Text) : Step Nat := do
    set { fresh with name, arguments }
    wholly c.run (runText c.run false 1 t)
  match call.unknown, call.words with
  | some option, _ => Step.complain (called ++ ": 0: Illegal option ".toList ++ option) 2
  | none, [] =>
    if call.isCommand then Step.complain (called ++ ": 0: -c requires an argument".toList) 2
    else start called [] (← Step.readAll 0)
  | none, word :: words =>
    if call.isCommand then start (words.headD called) (words.drop 1) word
    else if call.readsInput then start called (word :: words) (← Step.readAll 0)
    else match ← readPath word with
      | .ok t => start word words t
      | .error f =>
        Step.complain (called ++ ": 0: ".toList ++ openingComplaint word .read f) 2

/-! ## All of them -/

def becomeImage (c : Caller) (image : Image) : Step Nat := do
  modify fun s => { s with called := if image.name.contains '/' then image.name else [] }
  match String.ofList image.program with
  | "sh" | "dash" | "bash" => shell c image.name image.arguments
  | "env" | "nohup" =>
    withEnvironment c (image.arguments.flatten.length + image.arguments.length + 1) image.arguments
  | "timeout" => timeLimited c image.arguments
  | "xargs" => callWithInput c image.arguments
  | "find" => findFiles c image.arguments
  | _ =>
    if image.program = World.ownName then Own.run c image.arguments
    else match utility? image.program with
      | some step => step image.arguments
      | none => return 0

/-- Becomes the program that a name has led to, at a path. A file that names no program is a script. -/
def becomePath (c : Caller) (name path : Text) (arguments : List Text) : Step Nat := do
  Step.pass programTime
  match (← Step.world).image (← get).here name path arguments with
  | .ok image => becomeImage c image
  | .error .unknownFormat => shell c name (path :: arguments)
  | .error r => refusal [] path r

/-- Runs commands that are nested up to a depth. The status is kept, signals are handled behind each
command, and a failure ends the script if that is wanted and nobody looks at it. -/
def runTo (depth : Nat) (tested : Bool) (command : Command) : Step Nat :=
  match depth with
  | 0 => do
    Step.await fun _ => false
    return 0
  | depth + 1 => do
    let run := runTo depth
    let become (name path : Text) (arguments : List Text) : Step Nat :=
      becomeAt depth run name path arguments
    let status ← perform ⟨run, become⟩ tested command
    modify fun s => { s with status }
    handleSignals run
    if status ≠ 0 && !tested && command.isChecked && (← get).has 'e' then throw (.exit status)
    return status
where
  /-- Becomes a program that may itself become others, so many times. -/
  becomeAt (depth : Nat) (run : Runner) (name path : Text) (arguments : List Text) : Step Nat :=
    match depth with
    | 0 => do
      Step.await fun _ => false
      return 0
    | depth + 1 => becomePath ⟨run, becomeAt depth run⟩ name path arguments

/-- How deep commands may be nested. -/
def depth : Nat := 100000

/-- All that a process does that starts as a program of the machine. -/
def start (image : Image) : Step Nat :=
  becomeImage ⟨runTo depth, runTo.becomeAt depth (runTo depth)⟩ image

end Curriculum.Script
