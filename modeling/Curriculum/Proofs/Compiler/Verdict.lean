import Curriculum.Proofs.Compiler.Exits
import Curriculum.Proofs.Files.Shown

/-! # Verdicts on a compilation

Whether there is a pdf is for the environment to say: single replies and the clock give verdicts.
In every history of a compilation there is exactly one verdict, and it is the result
(`Compiles.verdicts_eq`). -/

namespace Curriculum

/-- What a pdf comes to. -/
abbrev Verdict := Except CompileError Bytes

namespace Event

/-- What a reply says in itself, when the pdf is expected at a path. -/
def verdicts (pdf? : Option Text) : Event → List Verdict
  | ⟨.makeTemporary _, .error _⟩ => [.error .noDirectory]
  | ⟨.create path, .error _⟩ => [.error (.source path)]
  | ⟨.append path _, .error _⟩ => [.error (.source path)]
  | ⟨.append path _, .ok 0⟩ => [.error (.source path)]
  | ⟨.share path, .error _⟩ => [.error (.source path)]
  | ⟨.spawn command, .error _⟩ => [.error (.spawn command.program)]
  | ⟨.poll, .lost⟩ => [.error .wait]
  | ⟨.poll, .exited code⟩ => if code = some 0 then [] else [.error (.exit code)]
  | ⟨.isFile path, false⟩ => if pdf? = some path then [.error (.missingOutput path)] else []
  | ⟨.read path, .ok bytes⟩ => if pdf? = some path then [.ok bytes] else []
  | ⟨.read path, .error _⟩ => if pdf? = some path then [.error (.unreadable path)] else []
  | _ => []

/-- The time that a reply shows. -/
def times : Event → List Nat
  | ⟨.clock _, now⟩ => [now.1]
  | _ => []

end Event

namespace Compiler

open Program

/-- What the replies say in themselves. -/
def said (pdf? : Option Text) (events : List Event) : List Verdict :=
  events.flatMap (Event.verdicts pdf?)

/-- The times that the clock has shown. -/
def readings (events : List Event) : List Nat := events.flatMap Event.times

/-- What the clock says. Its first time sets the deadline for the later ones. -/
def clockVerdicts (limit : Nat) : List Nat → List Verdict
  | [] => []
  | start :: later =>
    (if representable (start + limit) then [] else [.error .noDeadline]) ++
      if later.any (start + limit ≤ ·) then [.error (.timeout (limit / second))] else []

def verdicts (limit : Nat) (pdf? : Option Text) (events : List Event) : List Verdict :=
  said pdf? events ++ clockVerdicts limit (readings events)

section
variable {limit : Nat} {pdf? : Option Text} {event : Event} {events before after : List Event}

@[simp] theorem said_nil : said pdf? [] = [] := rfl

@[simp] theorem said_cons : said pdf? (event :: events) = event.verdicts pdf? ++ said pdf? events := rfl

@[simp] theorem said_append : said pdf? (before ++ after) = said pdf? before ++ said pdf? after :=
  List.flatMap_append

@[simp] theorem readings_nil : readings [] = [] := rfl

@[simp] theorem readings_cons : readings (event :: events) = event.times ++ readings events := rfl

@[simp] theorem readings_append : readings (before ++ after) = readings before ++ readings after :=
  List.flatMap_append

theorem verdicts_of_readings_eq_nil (h : readings events = []) :
    verdicts limit pdf? events = said pdf? events := by
  rw [verdicts, h, clockVerdicts, List.append_nil]

theorem verdicts_append (hsaid : said pdf? before = []) (hclock : readings before = []) :
    verdicts limit pdf? (before ++ after) = verdicts limit pdf? after := by
  simp [verdicts, hsaid, hclock]

/-- Once the compiler has ended without a verdict, the clock is no longer asked. -/
theorem verdicts_append_of_nil (hbefore : verdicts limit pdf? before = [])
    (hafter : readings after = []) :
    verdicts limit pdf? (before ++ after) = said pdf? after := by
  obtain ⟨hsaid, hclock⟩ := List.append_eq_nil_iff.1 hbefore
  simp [verdicts, hsaid, hafter, hclock]

end

/-! ## The steps of a compilation -/

def storeVerdicts (path : Text) : Except Fault Unit → List Verdict
  | .ok () => []
  | .error _ => [.error (.source path)]

/-- What the end of the compiler says. The code 0 leaves the result open. -/
def endVerdicts : Except CompileError (Option Nat) → List Verdict
  | .ok code => if code = some 0 then [] else [.error (.exit code)]
  | .error e => [.error e]

section
variable (pdf? : Option Text)

theorem Writes.said_eq (h : Writes path events result) :
    said pdf? events = storeVerdicts path result ∧ readings events = [] := by
  induction h with
  | done | failed | full => exact ⟨rfl, rfl⟩
  | more _ ih => exact ih

theorem Stores.said_eq (h : Stores path events result) :
    said pdf? events = storeVerdicts path result ∧ readings events = [] := by
  cases h with
  | notCreated => exact ⟨rfl, rfl⟩
  | created h => exact h.said_eq pdf?

theorem Waits.said_eq (h : Waits deadline e earliest events result) :
    said pdf? events ++ (if (readings events).any (deadline ≤ ·) then [.error e] else []) =
        endVerdicts result ∧
      ∀ code, result = .ok code → ⟨.poll, .exited code⟩ ∈ events := by
  induction h with
  | exited => simp [Event.verdicts, Event.times, endVerdicts]
  | lost => simp [Event.verdicts, Event.times, endVerdicts]
  | late now h => simp [Event.verdicts, Event.times, endVerdicts, h]
  | early now h _ ih =>
    obtain ⟨hverdicts, hended⟩ := ih
    rw [← hverdicts]
    refine ⟨?_, fun code hcode => ?_⟩
    · simp [Event.verdicts, Event.times, Nat.not_le.2 h]
    · simp [hended code hcode]

theorem Awaits.verdicts_eq (h : Awaits limit events result) :
    verdicts limit pdf? events = endVerdicts result ∧
      ∀ code, result = .ok code → ⟨.poll, .exited code⟩ ∈ events := by
  cases h with
  | noDeadline now h =>
    simp [verdicts, clockVerdicts, Event.verdicts, Event.times, endVerdicts, h]
  | deadline now h hwait =>
    obtain ⟨hverdicts, hended⟩ := hwait.said_eq pdf?
    rw [← hverdicts]
    refine ⟨?_, fun code hcode => List.mem_cons_of_mem _ (hended code hcode)⟩
    simp [verdicts, clockVerdicts, Event.verdicts, Event.times, h]

theorem Launches.verdicts_eq (h : Launches c directory stem events result) :
    verdicts c.timeout pdf? events = endVerdicts result ∧
      ∀ code, result = .ok code → ⟨.poll, .exited code⟩ ∈ events := by
  obtain ⟨hstore, hawait⟩ := h
  obtain ⟨hsaid, hclock⟩ := hstore.said_eq pdf?
  obtain ⟨hverdicts, hended⟩ := hawait.verdicts_eq pdf?
  rw [verdicts_append hsaid hclock]
  exact ⟨hverdicts, fun code hcode => by simp [hended code hcode]⟩

end

/-- What a compilation comes to is the one verdict of its history. It comes to a pdf only after the
compiler has ended well, and the pdf is what the expected file holds. -/
theorem Compiles.verdicts_eq (h : Compiles c directory stem events result) :
    verdicts c.timeout (some (pdfPath directory stem)) events = [result] ∧
      ∀ bytes, result = .ok bytes →
        ⟨.poll, .exited (some 0)⟩ ∈ events ∧ ⟨.isFile (pdfPath directory stem), true⟩ ∈ events ∧
          ⟨.read (pdfPath directory stem), .ok bytes⟩ ∈ events := by
  cases h with
  | notStored hstore =>
    obtain ⟨hsaid, hclock⟩ := hstore.said_eq (some (pdfPath directory stem))
    rw [verdicts_of_readings_eq_nil hclock, hsaid]
    exact ⟨rfl, nofun⟩
  | noLog hstore | notShared hstore | notStarted hstore =>
    obtain ⟨hsaid, hclock⟩ := hstore.said_eq (some (pdfPath directory stem))
    rw [verdicts_append hsaid hclock]
    exact ⟨rfl, nofun⟩
  | notAwaited hlaunch => exact ⟨(hlaunch.verdicts_eq _).1, nofun⟩
  | failed hlaunch hcode =>
    refine ⟨(hlaunch.verdicts_eq _).1.trans ?_, nofun⟩
    rw [endVerdicts, if_neg hcode]
  | noPdf hlaunch | unreadable hlaunch =>
    rw [verdicts_append_of_nil (hlaunch.verdicts_eq _).1 rfl]
    exact ⟨by simp [Event.verdicts], nofun⟩
  | pdf hlaunch =>
    obtain ⟨hverdicts, hended⟩ := hlaunch.verdicts_eq (some (pdfPath directory stem))
    rw [verdicts_append_of_nil hverdicts rfl]
    refine ⟨by simp [Event.verdicts], fun bytes hbytes => ?_⟩
    cases hbytes
    simp [hended _ rfl]

/-! ## Around the compilation -/

theorem getLast?_join {name : Text} (h : name ≠ []) (directory : Text) :
    (Path.join directory name).getLast? = name.getLast? := by
  obtain ⟨front, c, rfl⟩ : ∃ front c, name = front ++ [c] :=
    ⟨_, _, (List.dropLast_concat_getLast h).symm⟩
  unfold Path.join
  split
  · rfl
  · split
    · rw [← List.append_assoc, List.getLast?_concat, List.getLast?_concat]
    · rw [← List.cons_append, ← List.append_assoc, List.getLast?_concat, List.getLast?_concat]

theorem logPath_ne_pdfPath (directory stem : Text) : logPath directory ≠ pdfPath directory stem := by
  intro h
  have hlast := congrArg List.getLast? h
  have hpdf : Path.ofText (stem ++ ".pdf") = Path.ofText stem ++ ".pdf".toList :=
    Path.ofText_append stem ".pdf"
  rw [logPath, pdfPath, hpdf, getLast?_join (by decide), getLast?_join (by simp),
    List.getLast?_append] at hlast
  exact absurd hlast (by simp)

theorem said_report (stem : Text) (h : (report directory result).Replays events ()) :
    said (some (pdfPath directory stem)) events = [] ∧ readings events = [] := by
  have hpath : some (pdfPath directory stem) ≠ some (logPath directory) :=
    fun h => logPath_ne_pdfPath directory stem (Option.some.inj h).symm
  rcases replays_report h with rfl | ⟨log, rfl⟩
  · exact ⟨rfl, rfl⟩
  · cases log <;> simp [Event.verdicts, Event.times, hpath]

theorem said_closeDirectory (pdf? : Option Text) (h : (closeDirectory directory).Replays events ()) :
    said pdf? events = [] ∧ readings events = [] := by
  rcases replays_closeDirectory h with rfl | ⟨fault, rfl⟩
  · exact ⟨rfl, rfl⟩
  · exact ⟨rfl, rfl⟩

end Compiler

end Curriculum
