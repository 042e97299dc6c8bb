import Curriculum.Host
import Curriculum.Proofs.Program.History

/-! # Runs on a file tree

A program on files can be watched call by call: each call fails or does to the tree what it is for
(`Event.Touches`), and the run may be cut off behind any of them (`Program.Reaches`). What is so at
every point of every run is proved along the program (`Program.Safe`), one part of it after the other
(`Program.Safe.bind`). Machines that have their files in a tree make only such runs
(`FileMachine.reaches_run`), and the machine in memory is one of them. -/

namespace Curriculum

variable {α β : Type} {here : Place}

/-! ## Operations -/

theorem exists_ok_of_bind {x : Except Fault α} {f : α → Except Fault β} (h : (x >>= f) = .ok b) :
    ∃ a, x = .ok a ∧ f a = .ok b := by
  cases x with
  | error fault => cases h
  | ok a => exact ⟨a, rfl, h⟩

namespace FileTree

variable {t t' : FileTree} {path : Text}

/-- The root is always a directory. -/
theorem ne_nil_of_get? (h : t.get? place ≠ some .directory) : place ≠ [] := by
  rintro rfl
  exact h rfl

theorem of_read (h : t.read here path = .ok bytes) :
    ∃ place runnable, t.locate here path = .ok place ∧
      t.get? place = some (.file bytes runnable) := by
  obtain ⟨place, hplace, h⟩ := exists_ok_of_bind h
  split at h
  · next content runnable hfile =>
    cases h
    exact ⟨place, runnable, hplace, hfile⟩
  · cases h
  · cases h
  · cases h

theorem of_makeDirectory (h : t.makeDirectory here path = .ok t') :
    ∃ place, t.locate here path = .ok place ∧ t.get? place = none ∧ t' = t.put place .directory := by
  obtain ⟨place, hplace, h⟩ := exists_ok_of_bind h
  split at h
  · next hnone => exact ⟨place, hplace, hnone, (Except.ok.inj h).symm⟩
  · cases h

/-- A file is created where there is none, or emptied. -/
theorem of_create (h : t.create here path = .ok t') :
    ∃ place runnable, t.locate here path = .ok place ∧
      (∀ entry, t.get? place = some entry → ∃ content, entry = .file content runnable) ∧
      t' = t.put place (.file [] runnable) := by
  obtain ⟨place, hplace, h⟩ := exists_ok_of_bind h
  split at h
  · next hnone => exact ⟨place, false, hplace, by simp [hnone], (Except.ok.inj h).symm⟩
  · next content runnable hfile =>
    refine ⟨place, runnable, hplace, fun entry hentry => ⟨content, ?_⟩, (Except.ok.inj h).symm⟩
    exact Option.some.inj (hentry.symm.trans hfile)
  · cases h
  · cases h

theorem of_append (h : t.append here path bytes = .ok t') :
    ∃ place content runnable, t.locate here path = .ok place ∧
      t.get? place = some (.file content runnable) ∧
      t' = t.put place (.file (content ++ bytes) runnable) := by
  obtain ⟨place, hplace, h⟩ := exists_ok_of_bind h
  split at h
  · next content runnable hfile =>
    exact ⟨place, content, runnable, hplace, hfile, (Except.ok.inj h).symm⟩
  · cases h
  · cases h
  · cases h

/-- What is moved takes the place of a file, or of nothing. -/
theorem of_rename (h : t.rename here source target = .ok t') :
    ∃ old new entry, t.locate here source = .ok old ∧ t.locate here target = .ok new ∧
      t.get? old = some entry ∧ entry ≠ .directory ∧ t.get? new ≠ some .directory ∧
      t' = if old = new then t else (t.erase old).put new entry := by
  obtain ⟨old, hold, h⟩ := exists_ok_of_bind h
  obtain ⟨new, hnew, h⟩ := exists_ok_of_bind h
  split at h
  · cases h
  · cases h
  · cases h
  · next entry hdirectory hfree hentry =>
    refine ⟨old, new, entry, hold, hnew, hfree, hdirectory, hentry, ?_⟩
    split at h
    · next heq => exact (Except.ok.inj h).symm.trans (if_pos heq).symm
    · next hne => exact (Except.ok.inj h).symm.trans (if_neg hne).symm

theorem of_removeFile (h : t.removeFile here path = .ok t') :
    ∃ place entry, t.locate here path = .ok place ∧ t.get? place = some entry ∧
      entry ≠ .directory ∧ t' = t.erase place := by
  obtain ⟨place, hplace, h⟩ := exists_ok_of_bind h
  split at h
  · cases h
  · cases h
  · next entry hdirectory hentry =>
    exact ⟨place, entry, hplace, hentry, hdirectory, (Except.ok.inj h).symm⟩

end FileTree

/-! ## Runs -/

/-- What a call with its reply may do to the files, seen from the directory `here`. A call that fails
changes nothing, but some of the bytes that it was given may be written. The calls that no writer
makes may do anything. -/
def Event.Touches (here : Place) (event : Event) (t t' : FileTree) : Prop :=
  match event with
  | ⟨.read path, .ok bytes⟩ => t.read here path = .ok bytes ∧ t' = t
  | ⟨.isDirectory path, present⟩ =>
    (present = true → t.entryAt here path = some .directory) ∧ t' = t
  | ⟨.makeDirectory path, .ok ()⟩ => t.makeDirectory here path = .ok t'
  | ⟨.create path, .ok ()⟩ => t.create here path = .ok t'
  | ⟨.append path bytes, .ok taken⟩ =>
    taken ≤ bytes.length ∧ t.append here path (bytes.take taken) = .ok t'
  | ⟨.append path bytes, .error _⟩ =>
    t' = t ∨ ∃ taken, t.append here path (bytes.take taken) = .ok t'
  | ⟨.rename source target, .ok ()⟩ => t.rename here source target = .ok t'
  | ⟨.removeFile path, .ok ()⟩ => t.removeFile here path = .ok t'
  | ⟨.read _, .error _⟩ | ⟨.makeDirectory _, .error _⟩ | ⟨.create _, .error _⟩
  | ⟨.rename .., .error _⟩ | ⟨.removeFile _, .error _⟩ => t' = t
  | _ => True

namespace Program

/-- A run of a program comes to a point where another program is left to run and the tree is another
one. Every point counts, that before the first call too. -/
inductive Reaches (here : Place) : Program α → FileTree → Program α → FileTree → Prop
  | start {p : Program α} {t : FileTree} : Reaches here p t p t
  | step {call : Call} {next : call.Reply → Program α} {t t₁ t' : FileTree} {q : Program α}
      (reply : call.Reply) (hcall : Event.Touches here ⟨call, reply⟩ t t₁)
      (h : Reaches here (next reply) t₁ q t') : Reaches here (ask call next) t q t'

/-- At every point of every run the tree is as it should be at all times, and at the end it is as
the result says. -/
def Safe (here : Place) (always : FileTree → Prop) (after : α → FileTree → Prop) :
    Program α → FileTree → Prop
  | done a, t => always t ∧ after a t
  | ask call next, t => always t ∧ ∀ reply t', Event.Touches here ⟨call, reply⟩ t t' →
    (next reply).Safe here always after t'

section
variable {p q r : Program α} {t t₁ t' : FileTree} {always always' : FileTree → Prop}
  {after : α → FileTree → Prop}

theorem Reaches.trans (h : p.Reaches here t q t₁) (h' : q.Reaches here t₁ r t') :
    p.Reaches here t r t' := by
  induction h with
  | start => exact h'
  | step reply hcall _ ih => exact .step reply hcall (ih h')

theorem reaches_done {a : α} : (done a).Reaches here t q t' ↔ q = done a ∧ t' = t := by
  constructor
  · rintro ⟨⟩
    exact ⟨rfl, rfl⟩
  · rintro ⟨rfl, rfl⟩
    exact .start

theorem Safe.now (h : p.Safe here always after t) : always t := by
  cases p with
  | done a => exact h.1
  | ask call next => exact h.1

theorem Safe.of_reaches (h : p.Safe here always after t) (hreach : p.Reaches here t q t') :
    q.Safe here always after t' := by
  induction hreach with
  | start => exact h
  | step reply hcall _ ih => exact ih (h.2 reply _ hcall)

theorem Safe.mono {after' : α → FileTree → Prop} (h : p.Safe here always after t)
    (hweak : ∀ t, always t → always' t) (hafter : ∀ a t, always t → after a t → after' a t) :
    p.Safe here always' after' t := by
  induction p generalizing t with
  | done a => exact ⟨hweak t h.1, hafter a t h.1 h.2⟩
  | ask call next ih =>
    exact ⟨hweak t h.1, fun reply t' hcall => ih reply (h.2 reply t' hcall)⟩

/-- A program is safe with another one behind it that takes over from its result. -/
theorem Safe.bind {f : α → Program β} {after' : β → FileTree → Prop}
    (h : p.Safe here always after t) (hweak : ∀ t, always t → always' t)
    (hnext : ∀ a t, always t → after a t → (f a).Safe here always' after' t) :
    (p.bind f).Safe here always' after' t := by
  induction p generalizing t with
  | done a => exact hnext a t h.1 h.2
  | ask call next ih =>
    exact ⟨hweak t h.1, fun reply t' hcall => ih reply (h.2 reply t' hcall)⟩

end

end Program

/-! ## Histories -/

/-- The calls of a history lead from one tree to another. -/
inductive Follows (here : Place) : List Event → FileTree → FileTree → Prop
  | nil {t : FileTree} : Follows here [] t t
  | cons {event : Event} {t t₁ t' : FileTree} (hcall : event.Touches here t t₁)
      (h : Follows here events t₁ t') : Follows here (event :: events) t t'

section
variable {t t' : FileTree} {events before after : List Event}

theorem follows_nil : Follows here [] t t' ↔ t' = t := by
  constructor
  · rintro ⟨⟩
    rfl
  · rintro rfl
    exact .nil

theorem follows_cons {event : Event} : Follows here (event :: events) t t' ↔
    ∃ t₁, event.Touches here t t₁ ∧ Follows here events t₁ t' := by
  constructor
  · rintro ⟨⟩
    exact ⟨_, ‹_›, ‹_›⟩
  · rintro ⟨t₁, hcall, h⟩
    exact .cons hcall h

theorem follows_append : Follows here (before ++ after) t t' ↔
    ∃ t₁, Follows here before t t₁ ∧ Follows here after t₁ t' := by
  induction before generalizing t with
  | nil => simp [follows_nil]
  | cons event before ih =>
    simp only [List.cons_append, follows_cons, ih]
    constructor
    · rintro ⟨t₁, hcall, t₂, hbefore, hafter⟩
      exact ⟨t₂, ⟨t₁, hcall, hbefore⟩, hafter⟩
    · rintro ⟨t₂, ⟨t₁, hcall, hbefore⟩, hafter⟩
      exact ⟨t₁, hcall, t₂, hbefore, hafter⟩

theorem Program.reaches_of_replays {p : Program α} (h : p.Replays events a)
    (hfollows : Follows here events t t') : p.Reaches here t (.done a) t' := by
  induction h generalizing t with
  | done =>
    obtain rfl := follows_nil.1 hfollows
    exact .start
  | ask reply _ ih =>
    obtain ⟨t₁, hcall, hrest⟩ := follows_cons.1 hfollows
    exact .step reply hcall (ih hrest)

end

/-! ## Machines with files -/

/-- A machine whose calls do to a file tree what they are for, as far as they do not fail, and which
reads what is there. -/
structure FileMachine (σ : Type) extends Machine σ where
  tree : σ → FileTree
  /-- The working directory. -/
  here : σ → Place
  here_reply : ∀ call s, here (reply call s).2 = here s
  touches : ∀ call s,
    Event.Touches (here s) ⟨call, (reply call s).1⟩ (tree s) (tree (reply call s).2)
  reads : ∀ path s, (reply (.read path) s).1 = (tree s).read (here s) path

namespace FileMachine

variable {σ : Type}

theorem here_run (m : FileMachine σ) (p : Program α) (s : σ) :
    m.here (p.run m.toMachine s).2 = m.here s := by
  induction p generalizing s with
  | done a => rfl
  | ask call next ih => exact (ih ..).trans (m.here_reply call s)

/-- What is replied to a machine's calls has led its tree to where it is. -/
theorem follows_history (m : FileMachine σ) (p : Program α) (s : σ) :
    Follows (m.here s) (p.history m.toMachine s) (m.tree s)
      (m.tree (p.run m.toMachine s).2) := by
  induction p generalizing s with
  | done a => exact .nil
  | ask call next ih =>
    have hnext := ih (m.reply call s).1 (m.reply call s).2
    rw [m.here_reply] at hnext
    exact .cons (m.touches call s) hnext

/-- What a machine does is a run on its tree. -/
theorem reaches_run (m : FileMachine σ) (p : Program α) (s : σ) :
    p.Reaches (m.here s) (m.tree s) (.done (p.run m.toMachine s).1)
      (m.tree (p.run m.toMachine s).2) :=
  Program.reaches_of_replays (Program.replays_run m.toMachine p s) (m.follows_history p s)

theorem tree_read (m : FileMachine σ) (path : Text) (s : σ) :
    m.tree (m.reply (.read path) s).2 = m.tree s := by
  have htouches := m.touches (.read path) s
  generalize (m.reply (.read path) s).1 = reply at htouches
  cases reply with
  | error fault => exact htouches
  | ok bytes => exact htouches.2

end FileMachine

/-! ## The machine in memory -/

namespace Host

theorem reply_here (call : Call) (h : Host) : (reply call h).2.here = h.here := by
  cases call <;> simp only [reply, change] <;> (try split) <;> rfl

theorem touches_reply (call : Call) (h : Host) :
    Event.Touches h.here ⟨call, (reply call h).1⟩ h.tree (reply call h).2.tree := by
  cases call with
  | read path =>
    simp only [reply]
    generalize hread : h.tree.read h.here path = result
    cases result with
    | ok bytes => exact ⟨hread, rfl⟩
    | error fault => exact rfl
  | isDirectory path => exact ⟨fun hpresent => of_decide_eq_true hpresent, rfl⟩
  | append path bytes =>
    simp only [reply]
    split
    · next htree => exact ⟨Nat.le_refl _, by rwa [List.take_length]⟩
    · exact .inl rfl
  | makeDirectory | create | rename | removeFile =>
    simp only [reply, change]
    split
    · assumption
    · exact rfl
  | survey | readInput | isFile | makeTemporary | share | removeAll | spawn | poll | kill | reap
  | clock | sleep | warn => exact trivial

/-- Hosts are machines with files. -/
def fileMachine : FileMachine Host where
  reply := reply
  tree := Host.tree
  here := Host.here
  here_reply := reply_here
  touches := touches_reply
  reads _ _ := rfl

end Host

end Curriculum
