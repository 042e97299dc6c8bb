import Curriculum.Decimal.Number
import Curriculum.Files.Tree
import Curriculum.Text.Latin1

/-! # What scripts share

Scripts stand for the compilers that a host can start. They run as processes on one file tree. A
process has numbered streams, and each of them is an open file. Processes share open files with those
they come from, so that what one of them writes follows what another has written. Text of scripts has
one character for each byte. -/

namespace Curriculum.Script

inductive End where
  | exited (code : Nat)
  | signalled (signal : Nat)
  deriving DecidableEq, Repr

def End.status : End → Nat
  | exited code => code % 256
  | signalled signal => 128 + signal

/-- Where the bytes of an open file are. -/
inductive Source where
  | file (place : Place)
  /-- A file that has been removed: only who has it open still sees the content. -/
  | removed (content : Bytes)
  /-- The end of a pipe that gives what the other end takes. -/
  | outlet (pipe : Nat)
  | inlet (pipe : Nat)
  | directory
  /-- It gives nothing and takes everything. -/
  | nothing
  /-- It gives zeros without end and takes everything. -/
  | zeros
  deriving DecidableEq, Repr

structure OpenFile where
  source : Source
  /-- How many bytes lie before the next one. -/
  offset : Nat := 0
  /-- Every byte goes to the end. -/
  appends : Bool := false
  deriving DecidableEq, Repr

/-- What a process does about a signal instead of what all processes do. -/
inductive Response where
  | ignore
  | handle
  deriving DecidableEq, Repr

structure Process where
  id : Nat
  /-- The process that it comes from. -/
  parent : Nat
  /-- How long it may make a file, in bytes. -/
  limit : Option Nat := none
  /-- The number of the open file of each stream. -/
  streams : List (Nat × Nat) := []
  responses : List (Nat × Response) := []
  /-- The signals that are still to be handled. -/
  pending : List Nat := []
  stopped : Bool := false
  outcome : Option End := none

/-- Bytes that have been written behind the end of a file. -/
structure Tail where
  place : Place
  /-- How long the file is with them. -/
  length : Nat
  /-- The bytes, the last one first. -/
  bytes : Bytes

structure World where
  /-- The files, but for the tail of one of them. -/
  stored : FileTree
  tail : Option Tail := none
  clock : Nat
  opened : List (Nat × OpenFile) := []
  pipes : List (Nat × Bytes) := []
  processes : List Process := []
  /-- A number that nothing has yet. -/
  fresh : Nat := 1

def assign (key : Nat) (value : α) (entries : List (Nat × α)) : List (Nat × α) :=
  (key, value) :: entries.filter fun e => e.1 ≠ key

def without (key : Nat) (entries : List (Nat × α)) : List (Nat × α) :=
  entries.filter fun e => e.1 ≠ key

def Tail.addTo (t : Tail) (tree : FileTree) : FileTree :=
  match tree.get? t.place with
  | some (.file content runnable) =>
    tree.put t.place (.file (content ++ t.bytes.reverse) runnable)
  | _ => tree

namespace World

def tree (w : World) : FileTree :=
  match w.tail with
  | some t => t.addTo w.stored
  | none => w.stored

def withTree (w : World) (tree : FileTree) : World := { w with stored := tree, tail := none }

/-! ## Processes -/

/-- The process of a number. What is not there has ended. -/
def process (w : World) (id : Nat) : Process :=
  (w.processes.find? fun p => p.id = id).getD { id, parent := id, outcome := some (.exited 0) }

def outcome (w : World) (id : Nat) : Option End := (w.process id).outcome

def alter (w : World) (id : Nat) (f : Process → Process) : World :=
  { w with processes := w.processes.map fun p => if p.id = id then f p else p }

/-- Forgets the open files that are no stream of any process. -/
def tidy (w : World) : World :=
  { w with opened := w.opened.filter fun e =>
      w.processes.any fun p => p.streams.any fun s => s.2 = e.1 }

/-- Adds a process with the streams and the limit of another one. It handles no signals, but goes on
to ignore those that the other one ignores. -/
def fork (w : World) (parent : Nat) : World :=
  let p := w.process parent
  { w with
    fresh := w.fresh + 1
    processes := w.processes ++ [{
      id := w.fresh, parent, limit := p.limit, streams := p.streams
      responses := p.responses.filter fun r => r.2 = .ignore }] }

def finish (w : World) (id : Nat) (e : End) : World :=
  (w.alter id fun p => { p with outcome := some e, streams := [] }).tidy

def forget (w : World) (id : Nat) : World :=
  { w with processes := w.processes.filter fun p => !(p.id = id && p.outcome.isSome) }

/-- The signals that stop a process without ending it. -/
def stopSignals : List Nat := [19, 20, 21, 22]

/-- The signals that a process does not notice. -/
def idleSignals : List Nat := [0, 17, 18, 23, 28]

/-- Sends a signal to a process. The signals 9 and 19 leave it no choice. -/
def signal (w : World) (id signal : Nat) : World :=
  let response := if signal = 9 || signal = 19 then none else (w.process id).responses.lookup signal
  let w := if signal = 18 || signal = 9 then w.alter id fun p => { p with stopped := false } else w
  match response with
  | some .ignore => w
  | some .handle => w.alter id fun p => { p with pending := p.pending ++ [signal] }
  | none =>
    if stopSignals.contains signal then w.alter id fun p => { p with stopped := true }
    else if idleSignals.contains signal then w
    else w.finish id (.signalled signal)

/-! ## Streams -/

def stream? (w : World) (id stream : Nat) : Option Nat := (w.process id).streams.lookup stream

def setStream (w : World) (id stream file : Nat) : World :=
  (w.alter id fun p => { p with streams := assign stream file p.streams }).tidy

def closeStream (w : World) (id stream : Nat) : World :=
  (w.alter id fun p => { p with streams := without stream p.streams }).tidy

/-- Makes a new open file a stream of a process. -/
def addStream (w : World) (id stream : Nat) (file : OpenFile) : World :=
  { w with fresh := w.fresh + 1, opened := (w.fresh, file) :: w.opened }.setStream id stream w.fresh

/-- A process has an open file with the source. -/
def holds (w : World) (source : Source) : Bool := w.opened.any fun e => e.2.source = source

/-- Makes a new pipe, whose ends become two streams of a process. -/
def addPipe (w : World) (id outlet inlet : Nat) : World :=
  let pipe := w.fresh
  let used := w.pipes.filter fun p => w.holds (.outlet p.1) || w.holds (.inlet p.1)
  let w := { w with fresh := pipe + 1, pipes := (pipe, []) :: used }
  (w.addStream id outlet { source := .outlet pipe }).addStream id inlet { source := .inlet pipe }

def content (w : World) (place : Place) : Bytes :=
  match w.tree.get? place with
  | some (.file content _) => content
  | _ => []

/-- What can be read from an open file by now. -/
def available (w : World) (file : Nat) : Bytes :=
  match w.opened.lookup file with
  | some o =>
    match o.source with
    | .file place => (w.content place).drop o.offset
    | .removed content => content.drop o.offset
    | .outlet pipe => (w.pipes.lookup pipe).getD []
    | .zeros => List.replicate 4096 0
    | _ => []
  | none => []

/-- Nothing is to be waited for before an open file is read: there are bytes, or there never will
be. -/
def readable (w : World) (file : Nat) : Bool :=
  match (w.opened.lookup file).map OpenFile.source with
  | some (.outlet pipe) => !(w.available file).isEmpty || !w.holds (.inlet pipe)
  | _ => true

/-- Goes on in an open file by some bytes that have been read. -/
def consume (w : World) (file count : Nat) : World :=
  match w.opened.lookup file with
  | some o =>
    match o.source with
    | .outlet pipe => { w with pipes := assign pipe ((w.available file).drop count) w.pipes }
    | .file _ | .removed _ =>
      { w with opened := assign file { o with offset := o.offset + count } w.opened }
    | _ => w
  | none => w

/-- The content with some bytes put in at an offset. A gap before them is filled with zeros. -/
def overlay (content : Bytes) (offset : Nat) (bytes : Bytes) : Bytes :=
  content.take offset ++ List.replicate (offset - content.length) 0 ++ bytes ++
    content.drop (offset + bytes.length)

def write (w : World) (file : Nat) (bytes : Bytes) : World :=
  match w.opened.lookup file with
  | none => w
  | some o =>
    let offsetIn (content : Bytes) : Nat := if o.appends then content.length else o.offset
    match o.source with
    | .file place =>
      match w.tail.filter fun t => t.place = place && (o.appends || o.offset = t.length) with
      | some t =>
        let length := t.length + bytes.length
        { w with
          tail := some { t with length, bytes := bytes.reverseAux t.bytes }
          opened := assign file { o with offset := length } w.opened }
      | none =>
        let tree := w.tree
        match tree.get? place with
        | some (.file content runnable) =>
          let offset := offsetIn content
          let w := if offset = content.length
            then { w with
              stored := tree
              tail := some ⟨place, offset + bytes.length, bytes.reverse⟩ }
            else w.withTree (tree.put place (.file (overlay content offset bytes) runnable))
          { w with opened := assign file { o with offset := offset + bytes.length } w.opened }
        | _ => w
    | .removed content =>
      let offset := offsetIn content
      let source := .removed (overlay content offset bytes)
      { w with opened := assign file { o with source, offset := offset + bytes.length } w.opened }
    | .inlet pipe =>
      { w with pipes := assign pipe ((w.pipes.lookup pipe).getD [] ++ bytes) w.pipes }
    | _ => w

/-- How many more bytes of a file a process may write behind `length` others, if that is limited. -/
def room? (w : World) (id length : Nat) : Option Nat :=
  (w.process id).limit.map fun limit => limit - length

/-- How many more bytes a process may write to an open file, if that is limited. -/
def roomIn? (w : World) (id file : Nat) : Option Nat :=
  match w.opened.lookup file with
  | some { source := .file place, offset, appends } =>
    w.room? id (if appends then (w.content place).length else offset)
  | _ => none

/-- Nobody will ever read what is written to an open file. -/
def isBroken (w : World) (file : Nat) : Bool :=
  match (w.opened.lookup file).map OpenFile.source with
  | some (.inlet pipe) => !w.holds (.outlet pipe)
  | _ => false

/-- How many bytes a pipe takes before they are read. -/
def pipeLimit : Nat := 65536

/-- Nothing is to be waited for before more bytes are written to an open file. -/
def writable (w : World) (file : Nat) : Bool :=
  match (w.opened.lookup file).map OpenFile.source with
  | some (.inlet pipe) =>
    ((w.pipes.lookup pipe).getD []).length < pipeLimit || !w.holds (.outlet pipe)
  | _ => true

/-! ## Files -/

def wording : Fault → Text
  | .missing => "No such file or directory"
  | .occupied => "File exists"
  | .notDirectory => "Not a directory"
  | .isDirectory => "Is a directory"
  | .badName => "File name too long"
  | .denied => "Permission denied"
  | .full => "No space left on device"

def resource (w : World) (f : Source → Source) : World :=
  { w with opened := w.opened.map fun e => (e.1, { e.2 with source := f e.2.source }) }

/-- Removes a place and all that lies below it. Open files keep their content. -/
def remove (w : World) (place : Place) : World :=
  let w' := w.resource fun
    | .file p => if place.isPrefixOf p then .removed (w.content p) else .file p
    | source => source
  w'.withTree (w.tree.prune place)

/-- Moves what lies at and below a place to another one, where it replaces everything. -/
def move (w : World) (old new : Place) : World :=
  let moved := w.tree.subtree old
  let w := (w.remove new).resource fun
    | .file p => if old.isPrefixOf p then .file (new ++ p.drop old.length) else .file p
    | source => source
  w.withTree ((w.tree.prune old).change (fun _ => moved) new)

def locate (w : World) (here : Place) (path : Text) : Except Fault Place :=
  w.stored.locate here (Latin1.toPath path)

/-- The programs that every machine has. -/
def programs : List Text := List.map String.toList
  ["basename", "bash", "cat", "chmod", "cmp", "cp", "cut", "dash", "date", "dd",
    "dirname", "echo",
    "egrep", "env", "expr", "false", "fgrep", "find", "grep", "head", "kill", "ln", "ls", "mkdir",
    "mktemp", "mv", "nl", "nohup", "od", "printenv", "printf", "pwd", "readlink", "realpath", "rev", "rm", "rmdir",
    "sed", "seq", "sh", "sleep", "sort", "stat", "sync", "tac", "tail", "tee", "test", "timeout",
    "touch", "tr", "true", "truncate", "uname", "uniq", "wc", "which", "xargs", "yes", "["]

/-- The number of the process that has started the first one. -/
def starter : Nat := 4241

/-- The name of the program that scripts are started by. -/
def ownName : Text := "vitae"

/-- The program of the machine at a path. That of the process that has started the first one can be
reached through its number. -/
def program? (path : Text) : Option Text :=
  if !Path.isAbsolute path then none
  else
    match Path.steps path with
    | [['b', 'i', 'n'], name] | [['u', 's', 'r'], ['b', 'i', 'n'], name] =>
      if programs.contains name then some name else none
    | [['p', 'r', 'o', 'c'], id, ['e', 'x', 'e']] =>
      if id = Number.digits starter then some ownName else none
    | _ => none

/-- A path that leads to no file, but can be read or written. -/
def isDevice (path : Text) : Bool :=
  (List.map String.toList ["/dev/null", "/dev/zero", "/dev/stdin", "/dev/stdout",
    "/dev/stderr"]).contains path

def entryAt (w : World) (here : Place) (path : Text) : Option Entry :=
  if (program? path).isSome then some (.file [0x7F] true)
  else w.tree.entryAt here (Latin1.toPath path)

end World

inductive Opening where
  | read
  /-- A file is made, or emptied. -/
  | write
  | append
  /-- To read and write; a file is made if there is none. -/
  | both
  deriving DecidableEq, Repr

/-- The stream of a process that a path stands for. -/
def streamPath? (path : Text) : Option Nat :=
  match String.ofList path with
  | "/dev/stdin" => some 0
  | "/dev/stdout" => some 1
  | "/dev/stderr" => some 2
  | _ => ["/dev/fd/", "/proc/self/fd/"].findSome? fun dir =>
    ((dir : String).toList.isPrefixOf? path).bind Text.natural?

namespace World

def openPlace (w : World) (place : Place) (how : Opening) : Except Fault (OpenFile × World) :=
  let o : OpenFile := { source := .file place, appends := how = .append }
  match w.stored.get? place, how with
  | none, .read => .error .missing
  | none, _ => .ok (o, w.withTree (w.tree.put place (.file [] false)))
  | some .directory, .read => .ok ({ source := .directory }, w)
  | some .directory, _ => .error .isDirectory
  | some .sealedFile, _ => .error .denied
  | some (.file _ runnable), .write =>
    .ok (o, w.withTree (w.tree.put place (.file [] runnable)))
  | some (.file ..), _ => .ok (o, w)

def openPath (w : World) (id : Nat) (here : Place) (path : Text) (how : Opening) :
    Except Fault (OpenFile × World) := do
  if path = "/dev/null".toList then return ({ source := .nothing }, w)
  if path = "/dev/zero".toList then return ({ source := .zeros }, w)
  match streamPath? path with
  | some stream =>
    match (w.stream? id stream).bind fun file => w.opened.lookup file with
    | some { source := .file place, .. } => w.openPlace place how
    | some o => return (o, w)
    | none => .error .missing
  | none => w.openPlace (← w.locate here path) how

end World

end Curriculum.Script
