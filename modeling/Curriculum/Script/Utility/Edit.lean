import Curriculum.Script.Regex
import Curriculum.Script.Utility.Lines

/-! # Editing lines

An editing script is run once for each line, on a space that holds the line at first. Its commands
are numbered; a block ends where its closing brace is, and a branch goes on behind a label. -/

namespace Curriculum.Script.Edit

inductive Address where
  | line (n : Nat)
  | last
  /-- A line with a match. Without an expression the last one that was used counts. -/
  | found (r : Option Regex)
  /-- Every so many lines from a first one on. -/
  | each (first step : Nat)
  /-- So many lines behind the start of a range. -/
  | behind (count : Nat)

/-- A part of what is put in the place of a match. -/
inductive Image where
  | text (t : Text)
  | group (n : Nat)

structure Substitution where
  expression : Option Regex
  image : List Image
  /-- The first match that is replaced. -/
  first : Nat
  every : Bool
  shown : Bool

inductive Action where
  | substitute (s : Substitution)
  | translate (table : List (Char × Char))
  | delete
  | deleteLine
  | show
  | showLine
  | quit (code : Nat) (shown : Bool)
  | lineNumber
  | append (t : Text)
  | insert (t : Text)
  | change (t : Text)
  | next
  | nextAppended
  | keep (added : Bool)
  | restore (added : Bool)
  | exchange
  /-- A block that the command of a number ends. -/
  | opening (closing : Nat)
  | closing
  | label (name : Text)
  /-- Goes on behind a label, or at the end without one; perhaps only after a replacement. -/
  | branch (name : Text) (replaced : Option Bool)

structure Command where
  from? : Option Address
  to? : Option Address
  /-- It applies to all other lines. -/
  others : Bool
  action : Action

/-! ## Reading -/

/-- The text up to a delimiter, and what follows it. A backslash takes the delimiter with it; it is
dropped then, and stays before all else. -/
def delimited (delimiter : Char) : Text → Option (Text × Text)
  | [] => none
  | '\\' :: c :: rest =>
    (delimited delimiter rest).map fun (t, after) =>
      (if c = delimiter then c :: t else '\\' :: c :: t, after)
  | c :: rest =>
    if c = delimiter then some ([], rest)
    else (delimited delimiter rest).map fun (t, after) => (c :: t, after)

def images (fuel : Nat) (t : Text) : List Image :=
  match fuel, t with
  | 0, _ | _, [] => []
  | fuel + 1, '&' :: rest => .group 0 :: images fuel rest
  | fuel + 1, '\\' :: c :: rest =>
    if c.isDigit then .group (c.toNat - '0'.toNat) :: images fuel rest
    else if c = 'n' then .text ['\n'] :: images fuel rest
    else if c = 't' then .text ['\t'] :: images fuel rest
    else .text [c] :: images fuel rest
  | fuel + 1, c :: rest => .text [c] :: images fuel rest

def skipBlanks (t : Text) : Text := t.dropWhile fun c => c = ' ' || c = '\t'

/-- An expression, where an empty one stands for the last one used. -/
def expression? (extended fold : Bool) (t : Text) : Option (Option Regex) :=
  if t.isEmpty then some none else (Regex.parse? extended fold t).map some

/-- The address at the start of a text, and what follows it. -/
def address? (extended : Bool) (t : Text) : Option (Address × Text) := do
  match t with
  | '$' :: rest => return (.last, rest)
  | '/' :: rest =>
    let (r, rest) ← delimited '/' rest
    let fold := rest.head? = some 'I'
    return (.found (← expression? extended fold r), if fold then rest.drop 1 else rest)
  | '\\' :: c :: rest =>
    let (r, rest) ← delimited c rest
    return (.found (← expression? extended false r), rest)
  | '+' :: rest =>
    let digits := rest.takeWhile Char.isDigit
    return (.behind (← Text.natural? digits), rest.drop digits.length)
  | _ =>
    let digits := t.takeWhile Char.isDigit
    let n ← Text.natural? digits
    match t.drop digits.length with
    | '~' :: rest =>
      let step := rest.takeWhile Char.isDigit
      return (.each n (← Text.natural? step), rest.drop step.length)
    | rest => return (.line n, rest)

/-- The text of an insertion: up to the end of the line, and further behind a backslash. -/
def insertion : Text → Text × Text
  | [] => ([], [])
  | '\\' :: '\n' :: rest => let (t, after) := insertion rest; ('\n' :: t, after)
  | '\\' :: c :: rest => let (t, after) := insertion rest; (c :: t, after)
  | '\n' :: rest => ([], rest)
  | c :: rest => let (t, after) := insertion rest; (c :: t, after)

/-- The text behind the letter of an insertion. -/
def insertionText (t : Text) : Text × Text :=
  match skipBlanks t with
  | '\\' :: rest =>
    match skipBlanks rest with
    | '\n' :: rest => insertion rest
    | rest => insertion rest
  | rest => insertion rest

def substitution? (extended : Bool) : Text → Option (Action × Text)
  | [] => none
  | delimiter :: rest => do
    let (r, rest) ← delimited delimiter rest
    let (image, rest) ← delimited delimiter rest
    let flags := rest.takeWhile fun c => c.isDigit || "gpiIm".toList.contains c
    let digits := flags.filter Char.isDigit
    let fold := flags.contains 'i' || flags.contains 'I'
    return (.substitute {
      expression := ← expression? extended fold r
      image := images image.length image
      first := (Text.natural? digits).getD 1
      every := flags.contains 'g'
      shown := flags.contains 'p' }, rest.drop flags.length)

def translation? : Text → Option (Action × Text)
  | [] => none
  | delimiter :: rest => do
    let (from_, rest) ← delimited delimiter rest
    let (to_, rest) ← delimited delimiter rest
    let plain (t : Text) : Text := (images t.length t).flatMap fun
      | .text t => t
      | .group _ => ['&']
    if (plain from_).length = (plain to_).length then
      return (.translate ((plain from_).zip (plain to_)), rest)
    else none

/-- The word behind a letter: up to a semicolon or the end of the line. -/
def nameBehind (t : Text) : Text × Text :=
  let t := skipBlanks t
  let name := t.takeWhile fun c => c ≠ ';' && c ≠ '\n' && c ≠ '\x7d'
  ((name.reverse.dropWhile (· = ' ')).reverse, t.drop name.length)

def action? (extended : Bool) : Text → Option (Action × Text)
  | [] => none
  | c :: rest =>
    let code := (skipBlanks rest).takeWhile Char.isDigit
    let behindCode := (skipBlanks rest).drop code.length
    match c with
    | 's' => substitution? extended rest
    | 'y' => translation? rest
    | 'd' => some (.delete, rest)
    | 'D' => some (.deleteLine, rest)
    | 'p' => some (.show, rest)
    | 'P' => some (.showLine, rest)
    | 'q' => some (.quit ((Text.natural? code).getD 0) true, behindCode)
    | 'Q' => some (.quit ((Text.natural? code).getD 0) false, behindCode)
    | '=' => some (.lineNumber, rest)
    | 'a' => let (t, rest) := insertionText rest; some (.append t, '\n' :: rest)
    | 'i' => let (t, rest) := insertionText rest; some (.insert t, '\n' :: rest)
    | 'c' => let (t, rest) := insertionText rest; some (.change t, '\n' :: rest)
    | 'n' => some (.next, rest)
    | 'N' => some (.nextAppended, rest)
    | 'h' => some (.keep false, rest)
    | 'H' => some (.keep true, rest)
    | 'g' => some (.restore false, rest)
    | 'G' => some (.restore true, rest)
    | 'x' => some (.exchange, rest)
    | '\x7b' => some (.opening 0, rest)
    | '\x7d' => some (.closing, rest)
    | ':' => let (name, rest) := nameBehind rest; some (.label name, rest)
    | 'b' => let (name, rest) := nameBehind rest; some (.branch name none, rest)
    | 't' => let (name, rest) := nameBehind rest; some (.branch name (some true), rest)
    | 'T' => let (name, rest) := nameBehind rest; some (.branch name (some false), rest)
    | _ => none

/-- The commands of a script. Each takes a character at least. -/
def commands? (extended : Bool) (fuel : Nat) (t : Text) : Option (List Command) :=
  match fuel with
  | 0 => none
  | fuel + 1 => do
    let t := t.dropWhile fun c => " \t\n;".toList.contains c
    if t.isEmpty then return []
    if t.head? = some '#' then return ← commands? extended fuel (t.dropWhile (· ≠ '\n'))
    let (from?, t) := match address? extended t with
      | some (a, t) => (some a, skipBlanks t)
      | none => (none, t)
    let (to?, t) ← match from?, t with
      | some _, ',' :: t => (address? extended (skipBlanks t)).map fun (a, t) =>
        (some a, skipBlanks t)
      | _, _ => some (none, t)
    let others := t.head? = some '!'
    let (action, t) ← action? extended (if others then skipBlanks (t.drop 1) else t)
    let t := skipBlanks t
    let separate := match action, t.head? with
      | .opening _, _ | .closing, _ | _, none => true
      | _, some c => ";\n#\x7d".toList.contains c
    if separate then return ⟨from?, to?, others, action⟩ :: (← commands? extended fuel t)
    else none

/-- Tells each opening brace where its block ends; `outer` are the numbers of those that are still
open. -/
def matchBraces (commands : Array Command) (number : Nat) (outer : List Nat) :
    List Command → Option (Array Command)
  | [] => if outer.isEmpty then some commands else none
  | c :: rest =>
    match c.action, outer with
    | .opening _, _ => matchBraces commands (number + 1) (number :: outer) rest
    | .closing, [] => none
    | .closing, start :: outer =>
      let opened := commands.modify start fun c => { c with action := .opening number }
      matchBraces opened (number + 1) outer rest
    | _, _ => matchBraces commands (number + 1) outer rest

def parse? (extended : Bool) (t : Text) : Option (Array Command) := do
  let commands ← commands? extended (t.length + 1) t
  matchBraces commands.toArray 0 [] commands

/-! ## Running -/

structure Editor where
  space : Text := []
  kept : Text := []
  /-- The lines that are still to come, with a mark on those that have an end. -/
  ahead : List (Text × Bool)
  number : Nat := 0
  /-- The line in the space had an end. -/
  ended : Bool := true
  /-- The numbers of the commands whose range has started, with the line on which it did. -/
  ranges : List (Nat × Nat) := []
  /-- What is printed behind the line. -/
  queue : Text := []
  /-- What has been printed, the last part first. -/
  printed : List Text := []
  /-- What was printed last has no line end yet. -/
  unended : Bool := false
  lastExpression : Option Regex := none
  replaced : Bool := false
  exit : Option Nat := none

namespace Editor

def isLast (e : Editor) : Bool := e.ahead.isEmpty

/-- Prints a text, and a line end that is still due before it. -/
def put (e : Editor) (t : Text) : Editor :=
  { e with
    printed := t :: (if e.unended then ['\n'] :: e.printed else e.printed)
    unended := false }

def putLine (e : Editor) (t : Text) : Editor := e.put (t ++ ['\n'])

/-- Prints the space, which ends as its line did. -/
def putSpace (e : Editor) : Editor :=
  if e.ended then e.putLine e.space else { e.put e.space with unended := true }

/-- Prints what is to come behind the line. -/
def flush (e : Editor) : Editor :=
  if e.queue.isEmpty then e else { e.put e.queue with queue := [] }

def matchesAddress (e : Editor) : Address → Bool
  | .line n => e.number = n
  | .last => e.isLast
  | .found r => ((r <|> e.lastExpression).bind fun r => r.find? e.space).isSome
  | .each first step =>
    if step = 0 then e.number = first else first ≤ e.number && (e.number - first) % step = 0
  | .behind _ => false

/-- A command with a number applies to the line; a range that starts or ends here is noted. -/
def applies (e : Editor) (number : Nat) (c : Command) : Bool × Editor :=
  match c.from?, c.to? with
  | none, _ => (true, e)
  | some a, none => (e.matchesAddress a, e)
  | some a, some b =>
    let leave (e : Editor) : Editor := { e with ranges := without number e.ranges }
    match e.ranges.lookup number with
    | some start =>
      match b with
      | .line n => if e.number < n then (true, e) else (e.number = n, leave e)
      | .behind n => (true, if e.number < start + n then e else leave e)
      | b => (true, if e.matchesAddress b then leave e else e)
    | none =>
      if e.matchesAddress a then
        let single : Bool := match b with
          | .line n => n ≤ e.number
          | .behind n => n = 0
          | .last => e.isLast
          | _ => false
        (true, if single then e else { e with ranges := assign number e.number e.ranges })
      else (false, e)

/-- The text with matches replaced, from a number of them on; `before` is reversed. -/
def replace (s : Substitution) (r : Regex) (fuel count : Nat) (before t : Text) (behind : Bool) :
    Text × Bool :=
  match fuel with
  | 0 => (t, false)
  | fuel + 1 =>
    match r.findFrom before [] t with
    | none => (t, false)
    | some f =>
      let passed := f.matched.reverse ++ (f.skipped.reverse ++ before)
      let skip := f.matched.isEmpty && f.skipped.isEmpty && behind
      let count := if skip then count else count + 1
      let chosen := !skip && s.first ≤ count
      let image := if chosen then s.image.flatMap fun
          | .text t => t
          | .group 0 => f.matched
          | .group n => (f.groups.lookup n).getD []
        else f.matched
      let (next, more) : Text × (Text × Bool) :=
        if chosen && !s.every then ([], (f.rest, false))
        else if f.matched.isEmpty then
          match f.rest with
          | [] => ([], ([], false))
          | c :: rest => ([c], replace s r fuel count (c :: passed) rest false)
        else ([], replace s r fuel count passed f.rest true)
      (f.skipped ++ image ++ next ++ more.1, chosen || more.2)

def advance (e : Editor) : Editor :=
  match e.ahead with
  | (line, ended) :: rest => { e with space := line, ended, ahead := rest, number := e.number + 1 }
  | [] => e

/-- Where the script goes on. -/
inductive Onward where
  | next
  | goto (number : Nat)
  /-- The script ends for this line, which is printed or not. -/
  | finish (shown : Bool)
  /-- The script starts again with what is in the space. -/
  | restart

def firstLine (t : Text) : Text := t.takeWhile (· ≠ '\n')

/-- Carries out an action of a script that prints each line at its end unless it is `quiet`. -/
def perform (quiet : Bool) (commands : Array Command) (number : Nat) (c : Command) (e : Editor) :
    Onward × Editor :=
  match c.action with
  | .substitute s =>
    match s.expression <|> e.lastExpression with
    | none => (.next, e)
    | some r =>
      let (t, replaced) := replace s r (e.space.length + 2) 0 [] e.space false
      let e := { e with lastExpression := some r }
      if replaced then
        let e := { e with space := t, replaced := true }
        (.next, if s.shown then e.putSpace else e)
      else (.next, e)
  | .translate table =>
    (.next, { e with space := e.space.map fun c => (table.lookup c).getD c })
  | .delete => (.finish false, e)
  | .deleteLine =>
    if e.space.contains '\n' then
      (.restart, { e with space := e.space.drop ((firstLine e.space).length + 1) })
    else (.finish false, e)
  | .show => (.next, e.putSpace)
  | .showLine => (.next, e.putLine (firstLine e.space))
  | .quit code shown => (.finish shown, { e with exit := some code })
  | .lineNumber => (.next, e.putLine (Number.digits e.number))
  | .append t => (.next, { e with queue := e.queue ++ t ++ ['\n'] })
  | .insert t => (.next, e.putLine t)
  | .change t =>
    let ranged := c.to?.isSome && (e.ranges.lookup number).isSome && !c.others
    (.finish false, if ranged then e else e.putLine t)
  | .next =>
    if e.isLast then (.finish true, { e with exit := some 0 })
    else (.next, ((if quiet then e else e.putSpace).flush).advance)
  | .nextAppended =>
    if e.isLast then (.finish true, { e with exit := some 0 })
    else
      let space := e.space
      let e := e.flush.advance
      (.next, { e with space := space ++ '\n' :: e.space })
  | .keep added => (.next, { e with kept := if added then e.kept ++ '\n' :: e.space else e.space })
  | .restore added =>
    (.next, { e with space := if added then e.space ++ '\n' :: e.kept else e.kept })
  | .exchange => (.next, { e with space := e.kept, kept := e.space })
  | .opening _ | .closing | .label _ => (.next, e)
  | .branch name wanted =>
    let target := if name.isEmpty then commands.size else (commands.findIdx? fun c =>
      match c.action with
      | .label l => l = name
      | _ => false).getD commands.size
    match wanted with
    | none => (.goto target, e)
    | some wanted =>
      (if e.replaced = wanted then .goto target else .next, { e with replaced := false })

/-- Runs a script on the line in the space, from the command of a number on. -/
def runFrom (quiet : Bool) (commands : Array Command) (fuel number : Nat) (e : Editor) : Editor :=
  let finish (shown : Bool) (e : Editor) : Editor :=
    (if shown && !quiet then e.putSpace else e).flush
  match fuel with
  | 0 => finish true e
  | fuel + 1 =>
    match commands[number]? with
    | none => finish true e
    | some c =>
      let (applied, e) := e.applies number c
      if applied != c.others then
        match perform quiet commands number c e with
        | (.next, e) => runFrom quiet commands fuel (number + 1) e
        | (.goto target, e) => runFrom quiet commands fuel target e
        | (.finish shown, e) => finish shown e
        | (.restart, e) => runFrom quiet commands fuel 0 e.flush
      else
        match c.action with
        | .opening closing => runFrom quiet commands fuel closing e
        | _ => runFrom quiet commands fuel (number + 1) e

/-- Runs a script on all lines that are to come, `fuel` at most. -/
def runAll (quiet : Bool) (commands : Array Command) (fuel : Nat) (e : Editor) : Editor :=
  match fuel with
  | 0 => e
  | fuel + 1 =>
    if e.isLast || e.exit.isSome then e
    else
      let e := { e.advance with replaced := false }
      runAll quiet commands fuel (runFrom quiet commands 1000000 0 e)

end Editor

/-- What a script makes of a text, and the code that it ends with. -/
def edit (quiet : Bool) (commands : Array Command) (t : Text) : Text × Nat :=
  let parts := t.splitOnP (· = '\n')
  let lines := parts.dropLast.map (·, true) ++
    ((parts.getLast?.toList.filter fun l => !l.isEmpty).map (·, false))
  let e := ({ ahead := lines } : Editor).runAll quiet commands (lines.length + 1)
  (e.printed.reverse.flatten, e.exit.getD 0)

def run (arguments : List Text) : Step Nat :=
  withOptions "sed" "nErsuz" "ef" 1 (arguments.filter fun a => !"-i".toList.isPrefixOf a) fun o => do
    let inPlace := arguments.any fun a => "-i".toList.isPrefixOf a
    let isScript (g : Text × Text) : Bool :=
      [['e'], ['f'], "expression".toList, "file".toList].contains g.1
    let mut scripts : List Text := []
    for g in o.given.filter isScript do
      if g.1 = ['e'] || g.1 = "expression".toList then scripts := scripts ++ [g.2]
      else match ← readPath g.2 with
        | .ok t => scripts := scripts ++ [t]
        | .error _ => pure ()
    let files := if scripts.isEmpty then o.operands.drop 1 else o.operands
    let script := if scripts.isEmpty then o.operands.head? else some (Text.join ['\n'] scripts)
    let extended := o.has 'E' "regexp-extended" || o.has 'r' []
    let quiet := o.has 'n' "quiet" || o.has 'n' "silent"
    match script with
    | none => Step.complain "Usage: sed [OPTION]... \x7bscript-only-if-no-other-script\x7d [input-file]..." 1
    | some script =>
      match parse? extended script with
      | none => complainAs "sed" "-e expression #1, char 1: unknown command" 1
      | some commands =>
        if inPlace || o.has 's' "separate" then
          eachOf (fun path => do
            match ← readPath path with
            | .error f => cannotRead path f
            | .ok t =>
              let (t, code) := edit quiet commands t
              if inPlace then
                match ← replaceFile path t with
                | some f => cannotRead path f
                | none => return code
              else
                Step.print t
                return code) files
        else
          let mut all : List Text := []
          let mut status := 0
          for path in if files.isEmpty then [['-']] else files do
            match ← readPath path with
            | .ok t => all := all ++ [t]
            | .error f => status := (← cannotRead path f)
          let (t, code) := edit quiet commands all.flatten
          Step.print t
          return if code = 0 then status else code
where
  cannotRead (path : Text) (f : Fault) : Step Nat := do
    if f = .isDirectory then
      complainAs "sed" ("couldn't edit ".toList ++ path ++ ": not a regular file".toList) 4
    else complainAs "sed" ("can't read ".toList ++ path ++ ": ".toList ++ World.wording f) 2
  /-- A new file comes into the place of the old one. -/
  replaceFile (path t : Text) : Step (Option Fault) := do
    let w ← Step.world
    match w.locate (← get).here path with
    | .error f => return some f
    | .ok place =>
      let runnable := match w.tree.get? place with
        | some (.file _ runnable) => runnable
        | _ => false
      let w := w.remove place
      Step.setWorld (w.withTree (w.tree.put place (.file (Latin1.encode t) runnable)))
      return none

end Curriculum.Script.Edit
