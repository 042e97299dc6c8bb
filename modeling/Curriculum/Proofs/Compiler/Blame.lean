import Curriculum.Proofs.Compiler.Verdict

/-! # Who is to blame

The verdict on a compilation, read off its history: a pdf is delivered, or there is none and the
compiler, the files around it or the clock are to blame (`outcome_of_verdicts`). -/

namespace Curriculum

open Program
open Compiler

/-- The directory that an event has made. -/
def Event.made? : Event → Option Text
  | ⟨.makeTemporary _, .ok directory⟩ => some directory
  | _ => none

/-- The compile directory of a history, which starts with making it. -/
def directory? (events : List Event) : Option Text := events.head?.bind Event.made?

/-- Where the pdf of a history is expected. -/
def expected? (stem : Text) (events : List Event) : Option Text :=
  (directory? events).map (pdfPath · stem)

section
variable (c : Compiler) (stem : Text) (events : List Event)

/-- The compiler has ended well, and these bytes are in the pdf that it has left. -/
inductive Delivers (bytes : Bytes) : Prop
  | intro (made : directory? events = some directory)
      (ended : ⟨.poll, .exited (some 0)⟩ ∈ events)
      (present : ⟨.isFile (pdfPath directory stem), true⟩ ∈ events)
      (read : ⟨.read (pdfPath directory stem), .ok bytes⟩ ∈ events)

/-- The compiler cannot be started or waited for, fails, is late or leaves no pdf. -/
inductive BlamesCompiler : Prop
  | notStarted {command : Command} (h : ⟨.spawn command, .error fault⟩ ∈ events)
  | lost (h : ⟨.poll, .lost⟩ ∈ events)
  | failed (h : ⟨.poll, .exited code⟩ ∈ events) (hcode : code ≠ some 0)
  | late (h : readings events = start :: later) (hnow : now ∈ later)
      (hlate : start + c.timeout ≤ now)
  | noPdf (made : directory? events = some directory)
      (h : ⟨.isFile (pdfPath directory stem), false⟩ ∈ events)

/-- The compile directory, the source, the log or the pdf cannot be handled. -/
inductive BlamesFiles : Prop
  | noDirectory (h : ⟨.makeTemporary start, .error fault⟩ ∈ events)
  | notCreated (h : ⟨.create path, .error fault⟩ ∈ events)
  | notWritten (h : ⟨.append path bytes, .error fault⟩ ∈ events)
  | noRoom (h : ⟨.append path bytes, .ok 0⟩ ∈ events)
  | notShared (h : ⟨.share path, .error fault⟩ ∈ events)
  | unreadable (made : directory? events = some directory)
      (h : ⟨.read (pdfPath directory stem), .error fault⟩ ∈ events)

/-- The clock cannot show the deadline. -/
def HasNoDeadline : Prop :=
  ∃ start later, readings events = start :: later ∧ ¬representable (start + c.timeout)

end

section
variable {c : Compiler} {stem : Text} {events : List Event}

theorem mem_verdicts {pdf? : Option Text} : v ∈ verdicts limit pdf? events ↔
    (∃ event ∈ events, v ∈ event.verdicts pdf?) ∨ v ∈ clockVerdicts limit (readings events) := by
  rw [verdicts, List.mem_append, Compiler.said, List.mem_flatMap]

theorem blame_of_mem_event (hevent : event ∈ events)
    (h : .error e ∈ event.verdicts (expected? stem events)) :
    e.isCompilerFailure = true ∧ BlamesCompiler c stem events ∨
      e.isCompilerFailure = false ∧ e ≠ .noDeadline ∧ BlamesFiles stem events := by
  unfold Event.verdicts at h
  split at h
  · cases List.mem_singleton.1 h
    exact .inr ⟨rfl, nofun, .noDirectory hevent⟩
  · cases List.mem_singleton.1 h
    exact .inr ⟨rfl, nofun, .notCreated hevent⟩
  · cases List.mem_singleton.1 h
    exact .inr ⟨rfl, nofun, .notWritten hevent⟩
  · cases List.mem_singleton.1 h
    exact .inr ⟨rfl, nofun, .noRoom hevent⟩
  · cases List.mem_singleton.1 h
    exact .inr ⟨rfl, nofun, .notShared hevent⟩
  · cases List.mem_singleton.1 h
    exact .inl ⟨rfl, .notStarted hevent⟩
  · cases List.mem_singleton.1 h
    exact .inl ⟨rfl, .lost hevent⟩
  · obtain ⟨hcode, h⟩ := List.mem_ite_nil_left.1 h
    cases List.mem_singleton.1 h
    exact .inl ⟨rfl, .failed hevent hcode⟩
  · obtain ⟨hpath, h⟩ := List.mem_ite_nil_right.1 h
    obtain ⟨directory, hmade, rfl⟩ := Option.map_eq_some_iff.1 hpath
    cases List.mem_singleton.1 h
    exact .inl ⟨rfl, .noPdf hmade hevent⟩
  · obtain ⟨-, h⟩ := List.mem_ite_nil_right.1 h
    cases List.mem_singleton.1 h
  · obtain ⟨hpath, h⟩ := List.mem_ite_nil_right.1 h
    obtain ⟨directory, hmade, rfl⟩ := Option.map_eq_some_iff.1 hpath
    cases List.mem_singleton.1 h
    exact .inr ⟨rfl, nofun, .unreadable hmade hevent⟩
  · cases h

theorem blame_of_mem_clock (h : .error e ∈ clockVerdicts c.timeout (readings events)) :
    e.isCompilerFailure = true ∧ BlamesCompiler c stem events ∨
      e = .noDeadline ∧ HasNoDeadline c events := by
  cases hclock : readings events with
  | nil => cases hclock ▸ h
  | cons start later =>
    rw [hclock, clockVerdicts, List.mem_append, List.mem_ite_nil_left, List.mem_ite_nil_right] at h
    rcases h with ⟨hdeadline, h⟩ | ⟨hlate, h⟩
    · cases List.mem_singleton.1 h
      exact .inr ⟨rfl, start, later, hclock, hdeadline⟩
    · cases List.mem_singleton.1 h
      obtain ⟨now, hnow, hlate⟩ := List.any_eq_true.1 hlate
      exact .inl ⟨rfl, .late hclock hnow (of_decide_eq_true hlate)⟩

/-- Whose fault an error is, where it is a verdict of the history. -/
theorem blame_of_mem_verdicts (h : .error e ∈ verdicts c.timeout (expected? stem events) events) :
    e.isCompilerFailure = true ∧ BlamesCompiler c stem events ∨
      e.isCompilerFailure = false ∧ e ≠ .noDeadline ∧ BlamesFiles stem events ∨
      e = .noDeadline ∧ HasNoDeadline c events := by
  rcases mem_verdicts.1 h with ⟨event, hevent, h⟩ | h
  · rcases blame_of_mem_event hevent h with h | h
    · exact .inl h
    · exact .inr (.inl h)
  · rcases blame_of_mem_clock h with h | h
    · exact .inl h
    · exact .inr (.inr h)

theorem mem_verdicts_of_event {pdf? : Option Text} (hevent : event ∈ events)
    (h : v ∈ event.verdicts pdf?) : v ∈ verdicts limit pdf? events :=
  mem_verdicts.2 (.inl ⟨event, hevent, h⟩)

theorem expected?_eq (h : directory? events = some directory) :
    expected? stem events = some (pdfPath directory stem) := by
  rw [expected?, h, Option.map_some]

theorem Delivers.mem_verdicts (h : Delivers stem events bytes) :
    .ok bytes ∈ verdicts c.timeout (expected? stem events) events := by
  obtain ⟨made, -, -, read⟩ := h
  exact mem_verdicts_of_event read (by simp [Event.verdicts, expected?_eq made])

theorem BlamesCompiler.mem_verdicts (h : BlamesCompiler c stem events) :
    ∃ e, .error e ∈ verdicts c.timeout (expected? stem events) events ∧
      e.isCompilerFailure = true := by
  cases h with
  | notStarted h => exact ⟨_, mem_verdicts_of_event h (List.mem_singleton_self _), rfl⟩
  | lost h => exact ⟨_, mem_verdicts_of_event h (List.mem_singleton_self _), rfl⟩
  | @failed code h hcode =>
    exact ⟨.exit code, mem_verdicts_of_event h (by simp [Event.verdicts, hcode]), rfl⟩
  | @late start later now h hnow hlate =>
    have hany : later.any (start + c.timeout ≤ ·) :=
      List.any_eq_true.2 ⟨now, hnow, decide_eq_true hlate⟩
    refine ⟨.timeout (c.timeout / second), Curriculum.mem_verdicts.2 (.inr ?_), rfl⟩
    simp [h, clockVerdicts, hany]
  | @noPdf directory made h =>
    exact ⟨.missingOutput (pdfPath directory stem),
      mem_verdicts_of_event h (by simp [Event.verdicts, expected?_eq made]), rfl⟩

theorem BlamesFiles.mem_verdicts (h : BlamesFiles stem events) :
    ∃ e, .error e ∈ verdicts c.timeout (expected? stem events) events ∧
      e.isCompilerFailure = false ∧ e ≠ .noDeadline := by
  cases h with
  | noDirectory h => exact ⟨_, mem_verdicts_of_event h (List.mem_singleton_self _), rfl, nofun⟩
  | notCreated h => exact ⟨_, mem_verdicts_of_event h (List.mem_singleton_self _), rfl, nofun⟩
  | notWritten h => exact ⟨_, mem_verdicts_of_event h (List.mem_singleton_self _), rfl, nofun⟩
  | noRoom h => exact ⟨_, mem_verdicts_of_event h (List.mem_singleton_self _), rfl, nofun⟩
  | notShared h => exact ⟨_, mem_verdicts_of_event h (List.mem_singleton_self _), rfl, nofun⟩
  | @unreadable directory fault made h =>
    exact ⟨.unreadable (pdfPath directory stem),
      mem_verdicts_of_event h (by simp [Event.verdicts, expected?_eq made]), rfl, nofun⟩

theorem HasNoDeadline.mem_verdicts (h : HasNoDeadline c events) :
    .error .noDeadline ∈ verdicts c.timeout (expected? stem events) events := by
  obtain ⟨start, later, h, hdeadline⟩ := h
  refine Curriculum.mem_verdicts.2 (.inr ?_)
  simp [h, clockVerdicts, hdeadline]

/-- The one verdict of a history tells whether a pdf is delivered and who is to blame if not. -/
theorem outcome_of_verdicts (h : verdicts c.timeout (expected? stem events) events = [v])
    (hdelivers : ∀ bytes, v = .ok bytes → Delivers stem events bytes) :
    (∀ bytes, v = .ok bytes ↔ Delivers stem events bytes) ∧
      ((∃ e, v = .error e ∧ e.isCompilerFailure = true) ↔ BlamesCompiler c stem events) ∧
      ((∃ e, v = .error e ∧ e.isCompilerFailure = false ∧ e ≠ .noDeadline) ↔
        BlamesFiles stem events) ∧
      (v = .error .noDeadline ↔ HasNoDeadline c events) := by
  have hmem {w : Verdict} : w ∈ verdicts c.timeout (expected? stem events) events ↔ w = v := by
    rw [h, List.mem_singleton]
  refine ⟨fun bytes => ?_, ⟨?_, ?_⟩, ⟨?_, ?_⟩, ⟨?_, ?_⟩⟩
  · exact ⟨hdelivers bytes, fun h => (hmem.1 h.mem_verdicts).symm⟩
  · rintro ⟨e, rfl, he⟩
    rcases blame_of_mem_verdicts (hmem.2 rfl) with h | h | h
    · exact h.2
    · simp [he] at h
    · simp [h.1, CompileError.isCompilerFailure] at he
  · intro h
    obtain ⟨e, hmem', he⟩ := h.mem_verdicts
    exact ⟨e, (hmem.1 hmem').symm, he⟩
  · rintro ⟨e, rfl, he, hne⟩
    rcases blame_of_mem_verdicts (hmem.2 rfl) with h | h | h
    · simp [he] at h
    · exact h.2.2
    · exact absurd h.1 hne
  · intro h
    obtain ⟨e, hmem', he⟩ := h.mem_verdicts
    exact ⟨e, (hmem.1 hmem').symm, he⟩
  · rintro rfl
    rcases blame_of_mem_verdicts (hmem.2 rfl) with h | h | h
    · cases h.1
    · exact absurd rfl h.2.1
    · exact h.2
  · exact fun h => (hmem.1 h.mem_verdicts).symm

/-- What a pdf comes to is the one verdict of its history, and stays it where nothing more is
said. -/
theorem verdicts_pdf (h : (c.pdf stem source).Replays events v)
    (hsaid : ∀ pdf?, said pdf? after = []) (hclock : readings after = []) :
    verdicts c.timeout (expected? stem (events ++ after)) (events ++ after) = [v] ∧
      ∀ bytes, v = .ok bytes → Delivers stem (events ++ after) bytes := by
  rcases replays_pdf h with
    ⟨fault, rfl, rfl⟩ | ⟨directory, inside, reporting, closing, rfl, hinside, hreport, hclose⟩
  · refine ⟨?_, nofun⟩
    rw [verdicts_of_readings_eq_nil (by simp [Event.times, hclock])]
    simp [Event.verdicts, hsaid]
  · have hmade : directory? (⟨.makeTemporary directoryStem, .ok directory⟩ ::
        (inside ++ reporting ++ closing) ++ after) = some directory := rfl
    obtain ⟨hverdicts, hfound⟩ := hinside.verdicts_eq
    refine ⟨?_, fun bytes hbytes => ?_⟩
    · have hreported := said_report stem hreport
      have hclosed := said_closeDirectory (some (pdfPath directory stem)) hclose
      rw [expected?_eq hmade, ← hverdicts]
      simp [verdicts, Event.verdicts, Event.times, hreported, hclosed, hsaid, hclock]
    · obtain ⟨hended, hpresent, hread⟩ := hfound bytes hbytes
      exact .intro hmade (by simp [hended]) (by simp [hpresent]) (by simp [hread])

theorem pdf_eq_noDeadline_iff (h : (c.pdf stem source).Replays events v) :
    v = .error .noDeadline ↔ HasNoDeadline c events := by
  obtain ⟨hverdicts, hdelivers⟩ := verdicts_pdf h (fun _ => said_nil) readings_nil
  rw [List.append_nil] at hverdicts hdelivers
  exact (outcome_of_verdicts hverdicts hdelivers).2.2.2

end

end Curriculum
