import Curriculum.Compiler.Pdf
import Curriculum.Proofs.Program.History

/-! # Ways out of a compilation

Every way in which a compilation can go is listed once, with the calls and replies that lead there:
how a file is written (`Writes`), how the compiler is waited for (`Waits`) and how the whole comes
to an end (`Compiles`). What holds of all compilations is then a matter of going through the
lists. -/

namespace Curriculum.Compiler

open Program

/-! ## Writing -/

/-- The rest of a file is written, up to the end or to a fault. -/
inductive Writes (path : Text) : List Event → Except Fault Unit → Prop
  | done : Writes path [] (.ok ())
  | failed : Writes path [⟨.append path bytes, .error fault⟩] (.error fault)
  | full : Writes path [⟨.append path bytes, .ok 0⟩] (.error .full)
  | more (h : Writes path events result) :
      Writes path (⟨.append path bytes, .ok (taken + 1)⟩ :: events) result

theorem writes_of_replays (h : (writeAll path bytes).Replays events result) :
    Writes path events result := by
  fun_induction writeAll path bytes generalizing events with
  | case1 =>
    obtain ⟨rfl, rfl⟩ := replays_done.1 h
    exact .done
  | case2 byte bytes ih =>
    obtain ⟨reply, rest, rfl, hrest⟩ := replays_ask.1 h
    match reply, hrest with
    | .error fault, hrest =>
      obtain ⟨rfl, rfl⟩ := replays_done.1 hrest
      exact .failed
    | .ok 0, hrest =>
      obtain ⟨rfl, rfl⟩ := replays_done.1 hrest
      exact .full
    | .ok (taken + 1), hrest => exact .more (ih taken hrest)

inductive Stores (path : Text) : List Event → Except Fault Unit → Prop
  | notCreated : Stores path [⟨.create path, .error fault⟩] (.error fault)
  | created (h : Writes path events result) :
      Stores path (⟨.create path, .ok ()⟩ :: events) result

theorem stores_of_replays (h : (writeFile path bytes).Replays events result) :
    Stores path events result := by
  obtain ⟨reply, rest, rfl, hrest⟩ := replays_ask.1 h
  match reply, hrest with
  | .error fault, hrest =>
    obtain ⟨rfl, rfl⟩ := replays_done.1 hrest
    exact .notCreated
  | .ok (), hrest => exact .created (writes_of_replays hrest)

/-! ## Waiting -/

/-- The compiler is polled until it ends, or until it is given up. -/
inductive Waits (deadline : Nat) (late : CompileError) :
    Nat → List Event → Except CompileError (Option Nat) → Prop
  | exited : Waits deadline late earliest [⟨.poll, .exited code⟩] (.ok code)
  | lost : Waits deadline late earliest [⟨.poll, .lost⟩, ⟨.kill, ()⟩, ⟨.reap, ()⟩] (.error .wait)
  | late (now : { time // earliest ≤ time }) (h : deadline ≤ now.1) :
      Waits deadline late earliest
        [⟨.poll, .running⟩, ⟨.clock earliest, now⟩, ⟨.kill, ()⟩, ⟨.reap, ()⟩] (.error late)
  | early (now : { time // earliest ≤ time }) (h : now.1 < deadline)
      (hrest : Waits deadline late (now.1 + pollInterval) events result) :
      Waits deadline late earliest
        (⟨.poll, .running⟩ :: ⟨.clock earliest, now⟩ :: ⟨.sleep pollInterval, ()⟩ :: events) result

theorem replays_abandon (h : (abandon e).Replays events result) :
    events = [⟨.kill, ()⟩, ⟨.reap, ()⟩] ∧ result = .error e := by
  obtain ⟨⟨⟩, _, rfl, hrest⟩ := replays_ask.1 h
  obtain ⟨⟨⟩, _, rfl, hlast⟩ := replays_ask.1 hrest
  obtain ⟨rfl, rfl⟩ := replays_done.1 hlast
  exact ⟨rfl, rfl⟩

theorem waits_of_replays (h : (waitUntil deadline late earliest).Replays events result) :
    Waits deadline late earliest events result := by
  fun_induction waitUntil deadline late earliest generalizing events with
  | case1 earliest ih =>
    obtain ⟨reply, rest, rfl, hrest⟩ := replays_ask.1 h
    match reply, hrest with
    | .exited code, hrest =>
      obtain ⟨rfl, rfl⟩ := replays_done.1 hrest
      exact .exited
    | .lost, hrest =>
      obtain ⟨rfl, rfl⟩ := replays_abandon hrest
      exact .lost
    | .running, hrest =>
      obtain ⟨now, rest, rfl, hnow⟩ := replays_ask.1 hrest
      split at hnow
      · next hlate =>
        obtain ⟨rfl, rfl⟩ := replays_abandon hnow
        exact .late now hlate
      · next hearly =>
        obtain ⟨⟨⟩, rest, rfl, hlater⟩ := replays_ask.1 hnow
        exact .early now (Nat.lt_of_not_le hearly) (ih now hearly hlater)

inductive Awaits (limit : Nat) : List Event → Except CompileError (Option Nat) → Prop
  | noDeadline (now : { time // 0 ≤ time }) (h : ¬representable (now.1 + limit)) :
      Awaits limit [⟨.clock 0, now⟩] (.error .noDeadline)
  | deadline (now : { time // 0 ≤ time }) (h : representable (now.1 + limit))
      (hwait : Waits (now.1 + limit) (.timeout (limit / second)) now.1 events result) :
      Awaits limit (⟨.clock 0, now⟩ :: events) result

theorem awaits_of_replays (h : (wait limit).Replays events result) :
    Awaits limit events result := by
  obtain ⟨now, rest, rfl, hrest⟩ := replays_ask.1 h
  simp only at hrest
  split at hrest
  · next hdeadline => exact .deadline now hdeadline (waits_of_replays hrest)
  · next hdeadline =>
    obtain ⟨rfl, rfl⟩ := replays_done.1 hrest
    exact .noDeadline now hdeadline

/-! ## Compiling -/

section
variable (c : Compiler) (directory stem : Text)

/-- The source is written, the log is made, and the compiler is started and waited for. -/
inductive Launches : List Event → Except CompileError (Option Nat) → Prop
  | intro (hstore : Stores (sourcePath directory stem) storing (.ok ()))
      (hawait : Awaits c.timeout waiting result) :
      Launches (storing ++ ⟨.create (logPath directory), .ok ()⟩ ::
        ⟨.share (logPath directory), .ok ()⟩ ::
        ⟨.spawn (c.command directory stem), .ok ()⟩ :: waiting) result

/-- The ways out of a compilation. -/
inductive Compiles : List Event → Except CompileError Bytes → Prop
  | notStored (hstore : Stores (sourcePath directory stem) storing (.error fault)) :
      Compiles storing (.error (.source (sourcePath directory stem)))
  | noLog (hstore : Stores (sourcePath directory stem) storing (.ok ())) :
      Compiles (storing ++ [⟨.create (logPath directory), .error fault⟩])
        (.error (.source (logPath directory)))
  | notShared (hstore : Stores (sourcePath directory stem) storing (.ok ())) :
      Compiles (storing ++ [⟨.create (logPath directory), .ok ()⟩,
        ⟨.share (logPath directory), .error fault⟩]) (.error (.source (logPath directory)))
  | notStarted (hstore : Stores (sourcePath directory stem) storing (.ok ())) :
      Compiles (storing ++ [⟨.create (logPath directory), .ok ()⟩,
        ⟨.share (logPath directory), .ok ()⟩,
        ⟨.spawn (c.command directory stem), .error fault⟩]) (.error (.spawn c.program))
  | notAwaited (hlaunch : Launches c directory stem running (.error e)) :
      Compiles running (.error e)
  | failed (hlaunch : Launches c directory stem running (.ok code)) (hcode : code ≠ some 0) :
      Compiles running (.error (.exit code))
  | noPdf (hlaunch : Launches c directory stem running (.ok (some 0))) :
      Compiles (running ++ [⟨.isFile (pdfPath directory stem), false⟩])
        (.error (.missingOutput (pdfPath directory stem)))
  | unreadable (hlaunch : Launches c directory stem running (.ok (some 0))) :
      Compiles (running ++ [⟨.isFile (pdfPath directory stem), true⟩,
        ⟨.read (pdfPath directory stem), .error fault⟩])
        (.error (.unreadable (pdfPath directory stem)))
  | pdf (hlaunch : Launches c directory stem running (.ok (some 0))) :
      Compiles (running ++ [⟨.isFile (pdfPath directory stem), true⟩,
        ⟨.read (pdfPath directory stem), .ok bytes⟩]) (.ok bytes)

end

section
variable {c : Compiler} {directory stem : Text}

theorem compiles_of_replays_collect (hlaunch : Launches c directory stem running (.ok (some 0)))
    (h : (collect (pdfPath directory stem)).Replays events result) :
    Compiles c directory stem (running ++ events) result := by
  obtain ⟨reply, rest, rfl, hrest⟩ := replays_ask.1 h
  match reply, hrest with
  | false, hrest =>
    obtain ⟨rfl, rfl⟩ := replays_done.1 hrest
    exact .noPdf hlaunch
  | true, hrest =>
    obtain ⟨reply, rest, rfl, hlast⟩ := replays_ask.1 hrest
    match reply, hlast with
    | .error fault, hlast =>
      obtain ⟨rfl, rfl⟩ := replays_done.1 hlast
      exact .unreadable hlaunch
    | .ok bytes, hlast =>
      obtain ⟨rfl, rfl⟩ := replays_done.1 hlast
      exact .pdf hlaunch

/-- From the start of the compiler on. -/
theorem compiles_of_replays_launch (hstore : Stores (sourcePath directory stem) storing (.ok ()))
    (hlaunch : (c.launch directory stem).Replays running launched)
    (hcollect : Replays
      (match launched with
        | .error e => done (.error e)
        | .ok () => collect (pdfPath directory stem)) collecting result) :
    Compiles c directory stem (storing ++ ⟨.create (logPath directory), .ok ()⟩ ::
      ⟨.share (logPath directory), .ok ()⟩ :: (running ++ collecting)) result := by
  obtain ⟨reply, rest, rfl, hstarted⟩ := replays_ask.1 hlaunch
  match reply, hstarted with
  | .error fault, hstarted =>
    obtain ⟨rfl, rfl⟩ := replays_done.1 hstarted
    obtain ⟨rfl, rfl⟩ := replays_done.1 hcollect
    exact .notStarted hstore
  | .ok (), hstarted =>
    obtain ⟨waiting, ending, waited, rfl, hwait, hend⟩ := replays_bind.1 hstarted
    have hlaunches : Launches c directory stem _ waited :=
      .intro hstore (awaits_of_replays hwait)
    match waited, hend with
    | .error e, hend =>
      obtain ⟨rfl, rfl⟩ := replays_done.1 hend
      obtain ⟨rfl, rfl⟩ := replays_done.1 hcollect
      simpa using Compiles.notAwaited hlaunches
    | .ok code, hend =>
      obtain ⟨rfl, rfl⟩ := replays_done.1 hend
      by_cases hcode : code = some 0
      · subst hcode
        simpa using compiles_of_replays_collect hlaunches hcollect
      · rw [if_neg hcode] at hcollect
        obtain ⟨rfl, rfl⟩ := replays_done.1 hcollect
        simpa using Compiles.failed hlaunches hcode

theorem compiles_of_replays (h : (c.compileIn directory stem source).Replays events result) :
    Compiles c directory stem events result := by
  obtain ⟨storing, rest, stored, rfl, hstore, hrest⟩ := replays_bind.1 h
  have hstores := stores_of_replays hstore
  match stored, hrest with
  | .error fault, hrest =>
    obtain ⟨rfl, rfl⟩ := replays_done.1 hrest
    exact (List.append_nil storing).symm ▸ .notStored hstores
  | .ok (), hrest =>
    obtain ⟨reply, rest, rfl, hlog⟩ := replays_ask.1 hrest
    match reply, hlog with
    | .error fault, hlog =>
      obtain ⟨rfl, rfl⟩ := replays_done.1 hlog
      exact .noLog hstores
    | .ok (), hlog =>
      obtain ⟨reply, rest, rfl, hshared⟩ := replays_ask.1 hlog
      match reply, hshared with
      | .error fault, hshared =>
        obtain ⟨rfl, rfl⟩ := replays_done.1 hshared
        exact .notShared hstores
      | .ok (), hshared =>
        obtain ⟨running, collecting, launched, rfl, hlaunch, hcollect⟩ := replays_bind.1 hshared
        simpa using compiles_of_replays_launch hstores hlaunch hcollect

/-! ## Around the compilation -/

theorem replays_report (h : (report directory result).Replays events ()) :
    events = [] ∨ ∃ log, events =
      [⟨.read (logPath directory), log⟩, ⟨.warn (.compilerFailed (logEnd log)), ()⟩] := by
  unfold report at h
  split at h
  · exact .inl (replays_done.1 h).1
  · split at h
    · obtain ⟨log, rest, rfl, hrest⟩ := replays_ask.1 h
      obtain ⟨⟨⟩, rest, rfl, hlast⟩ := replays_ask.1 hrest
      obtain ⟨rfl, -⟩ := replays_done.1 hlast
      exact .inr ⟨log, rfl⟩
    · exact .inl (replays_done.1 h).1

theorem replays_closeDirectory (h : (closeDirectory directory).Replays events ()) :
    events = [⟨.removeAll directory, .ok ()⟩] ∨ ∃ fault, events =
      [⟨.removeAll directory, .error fault⟩, ⟨.warn .directoryLeft, ()⟩] := by
  obtain ⟨reply, rest, rfl, hrest⟩ := replays_ask.1 h
  match reply, hrest with
  | .ok (), hrest =>
    obtain ⟨rfl, -⟩ := replays_done.1 hrest
    exact .inl rfl
  | .error fault, hrest =>
    obtain ⟨⟨⟩, rest, rfl, hlast⟩ := replays_ask.1 hrest
    obtain ⟨rfl, -⟩ := replays_done.1 hlast
    exact .inr ⟨fault, rfl⟩

/-- A pdf fails for want of a directory, or it is what the compilation in a fresh directory comes
to. -/
theorem replays_pdf (h : (c.pdf stem source).Replays events result) :
    (∃ fault, events = [⟨.makeTemporary directoryStem, .error fault⟩] ∧
      result = .error .noDirectory) ∨
    ∃ directory inside reporting closing,
      events = ⟨.makeTemporary directoryStem, .ok directory⟩ :: (inside ++ reporting ++ closing) ∧
      Compiles c directory stem inside result ∧
      (report directory result).Replays reporting () ∧
      (closeDirectory directory).Replays closing () := by
  obtain ⟨opening, rest, opened, rfl, hopen, hrest⟩ := replays_bind.1 h
  obtain ⟨reply, _, rfl, hopened⟩ := replays_ask.1 hopen
  match reply, hopened with
  | .error fault, hopened =>
    obtain ⟨rfl, rfl⟩ := replays_done.1 hopened
    obtain ⟨rfl, rfl⟩ := replays_done.1 hrest
    exact .inl ⟨fault, rfl, rfl⟩
  | .ok directory, hopened =>
    obtain ⟨rfl, rfl⟩ := replays_done.1 hopened
    obtain ⟨inside, after, compiled, rfl, hinside, hafter⟩ := replays_bind.1 hrest
    obtain ⟨reporting, rest, ⟨⟩, rfl, hreport, hclose⟩ := replays_bind.1 hafter
    obtain ⟨closing, rest, ⟨⟩, rfl, hclosing, hdone⟩ := replays_bind.1 hclose
    obtain ⟨rfl, rfl⟩ := replays_done.1 hdone
    exact .inr ⟨directory, inside, reporting, closing, by simp, compiles_of_replays hinside,
      hreport, hclosing⟩

end

end Curriculum.Compiler
