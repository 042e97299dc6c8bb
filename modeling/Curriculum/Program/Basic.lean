import Curriculum.Files.Tree
import Curriculum.Warning

/-! # Programs

What touches the world is written as a program: a tree that asks for one call at a time and goes on
according to the reply. A machine replies, and whatever holds of every machine holds in every
world. -/

namespace Curriculum

structure Command where
  program : Text
  arguments : List Text
  /-- The directory to run in. -/
  directory : Text
  /-- The file that takes all that is printed. -/
  log : Text
  deriving DecidableEq, Repr

/-- How the started compiler is doing. -/
inductive Poll where
  | running
  /-- It has ended by itself with a code, or without one when a signal ended it. -/
  | exited (code : Option Nat)
  /-- It cannot be told. -/
  | lost
  deriving DecidableEq, Repr

/-- What a program can ask for. At most one compiler is started at a time. Times are nanoseconds of
a clock that never goes back. -/
inductive Call where
  /-- All that is to be seen at and below a path. -/
  | survey (path : Text)
  | read (path : Text)
  | readInput
  | isFile (path : Text)
  | isDirectory (path : Text)
  | makeDirectory (path : Text)
  /-- A fresh directory whose name starts with `stem`, among those for temporary files. -/
  | makeTemporary (stem : Text)
  /-- An empty file, new or emptied. -/
  | create (path : Text)
  /-- One more handle on the file that has just been created. -/
  | share (path : Text)
  /-- More bytes at the end of a file. Only some first ones may be taken. -/
  | append (path : Text) (bytes : Bytes)
  | rename (source target : Text)
  | removeFile (path : Text)
  /-- A directory goes with all that lies below it. -/
  | removeAll (path : Text)
  | spawn (command : Command)
  | poll
  /-- That the compiler cannot be killed, or not be reaped, is logged and changes nothing else. -/
  | kill
  | reap
  /-- The time, which is known to be `earliest` at least. -/
  | clock (earliest : Nat)
  | sleep (time : Nat)
  | warn (warning : Warning)

abbrev Call.Reply : Call → Type
  | survey _ => FileView
  | read _ => Except Fault Bytes
  | readInput => Bytes
  | isFile _ | isDirectory _ => Bool
  | makeTemporary _ => Except Fault Text
  | append .. => Except Fault Nat
  | makeDirectory _ | create _ | share _ | rename .. | removeFile _ | removeAll _ | spawn _ =>
    Except Fault Unit
  | poll => Poll
  | clock earliest => { time : Nat // earliest ≤ time }
  | kill | reap | sleep _ | warn _ => Unit

inductive Program (α : Type) where
  | done (result : α)
  | ask (call : Call) (next : call.Reply → Program α)

namespace Program

variable {α β γ : Type}

/-- The program that goes on with `f` once the first one is done. -/
def bind : Program α → (α → Program β) → Program β
  | done a, f => f a
  | ask call next, f => ask call fun reply => (next reply).bind f

instance : Monad Program where
  pure := done
  bind := bind

def call (c : Call) : Program c.Reply := ask c done

@[simp] theorem done_bind (a : α) (f : α → Program β) : (done a).bind f = f a := rfl

@[simp] theorem ask_bind (c : Call) (next : c.Reply → Program α) (f : α → Program β) :
    (ask c next).bind f = ask c fun reply => (next reply).bind f := rfl

@[simp] theorem pure_eq_done (a : α) : (pure a : Program α) = done a := rfl

@[simp] theorem bind_eq_bind (p : Program α) (f : α → Program β) : (p >>= f) = p.bind f := rfl

theorem bind_done (p : Program α) : p.bind done = p := by
  induction p with
  | done a => rfl
  | ask c next ih => simp only [ask_bind, ih]

theorem bind_bind (p : Program α) (f : α → Program β) (g : β → Program γ) :
    (p.bind f).bind g = p.bind fun a => (f a).bind g := by
  induction p with
  | done a => rfl
  | ask c next ih => simp only [ask_bind, ih]

end Program

/-- What replies to calls, keeping a state. -/
structure Machine (σ : Type) where
  reply : (call : Call) → σ → call.Reply × σ

/-- The result of a program on a machine, and the state it leaves. -/
def Program.run {α σ : Type} (m : Machine σ) : Program α → σ → α × σ
  | .done a, s => (a, s)
  | .ask call next, s =>
    let (reply, s) := m.reply call s
    (next reply).run m s

namespace Program

variable {α β σ : Type}

@[simp] theorem run_done (m : Machine σ) (a : α) (s : σ) : (done a).run m s = (a, s) := rfl

@[simp] theorem run_ask (m : Machine σ) (c : Call) (next : c.Reply → Program α) (s : σ) :
    (ask c next).run m s = (next (m.reply c s).1).run m (m.reply c s).2 := rfl

theorem run_bind (m : Machine σ) (p : Program α) (f : α → Program β) (s : σ) :
    (p.bind f).run m s = (f (p.run m s).1).run m (p.run m s).2 := by
  induction p generalizing s with
  | done a => rfl
  | ask c next ih => simp only [ask_bind, run_ask, ih]

end Program

end Curriculum
