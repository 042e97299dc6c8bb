import Curriculum.Proofs.Render

/-! # What compilers do

A compiler is known to its caller by what its replies show: whether it starts, how it ends and what it
leaves (`Conduct`). Two worlds may differ in their clocks, in the names of compile directories and in
how often the compiler is polled. Where the replies show the same conduct, in surroundings that fail
alike, the same comes of a compilation (`Compiler.run_artifact_eq`). -/

namespace Curriculum

open Program

/-- What a compiler leaves in the place of the pdf. -/
inductive Output where
  | missing
  | unreadable
  | pdf (bytes : Bytes)
  deriving DecidableEq, Repr

/-- What a compiler does with a source. -/
inductive Conduct where
  | cannotStart
  /-- Nothing can be learned of its end. -/
  | getsLost
  /-- It is still running when its time is up. -/
  | outlasts
  | exits (code : Option Nat) (output : Output)
  deriving DecidableEq, Repr

namespace Conduct

/-- What the last poll tells. -/
def ending? : Conduct → Option Poll
  | cannotStart | outlasts => none
  | getsLost => some .lost
  | exits code _ => some (.exited code)

/-- What is in the place of the pdf. -/
def output : Conduct → Output
  | exits _ output => output
  | _ => .missing

end Conduct

/-- What of a compilation does not depend on the compiler. -/
structure Surroundings where
  /-- The compile directory, the source and the log can be made. -/
  supplied : Bool
  /-- The clock can show the deadline. -/
  dated : Bool

/-- Something that a compiler needs is not to be had. -/
def Event.isLack : Event → Bool
  | ⟨.makeTemporary _, .error _⟩ | ⟨.create _, .error _⟩ | ⟨.append .., .error _⟩
  | ⟨.append .., .ok 0⟩ | ⟨.share _, .error _⟩ => true
  | _ => false

/-- A reply is one that a compiler with some conduct gives, when the pdf is expected at a path. -/
def Event.suits (conduct : Conduct) (pdf? : Option Text) : Event → Bool
  | ⟨.spawn _, reply⟩ => reply.isOk ↔ conduct ≠ .cannotStart
  | ⟨.poll, .running⟩ => true
  | ⟨.poll, poll⟩ => conduct.ending? = some poll
  | ⟨.isFile path, present⟩ => pdf? = some path → (present ↔ conduct.output ≠ .missing)
  | ⟨.read path, .ok bytes⟩ => pdf? = some path → conduct.output = .pdf bytes
  | ⟨.read path, .error _⟩ => pdf? = some path → conduct.output = .unreadable
  | _ => true

namespace Compiler

/-- The replies in a history are those of a compiler with some conduct in some surroundings. -/
structure Shows (limit : Nat) (pdf? : Option Text) (around : Surroundings) (conduct : Conduct)
    (events : List Event) : Prop where
  supplied : events.any Event.isLack = !around.supplied
  dated : ∀ start later, readings events = start :: later →
    representable (start + limit) = around.dated
  /-- What ends by itself does so in time. -/
  timely : ∀ start later now, readings events = start :: later → now ∈ later →
    start + limit ≤ now → conduct.ending? = none
  suits : ∀ event ∈ events, event.suits conduct pdf?

theorem shows_iff {limit : Nat} {pdf? : Option Text} {around : Surroundings} {conduct : Conduct} :
    Shows limit pdf? around conduct events ↔
      events.any Event.isLack = !around.supplied ∧
      (match readings events with
        | [] => True
        | start :: later => representable (start + limit) = around.dated ∧
          (conduct.ending? = none ∨ ∀ now ∈ later, now < start + limit)) ∧
      ∀ event ∈ events, event.suits conduct pdf? := by
  constructor
  · rintro ⟨hsupplied, hdated, htimely, hsuits⟩
    refine ⟨hsupplied, ?_, hsuits⟩
    split
    · trivial
    · next start later hclock =>
      refine ⟨hdated start later hclock, Decidable.or_iff_not_imp_left.2 fun hends now hnow => ?_⟩
      exact Nat.lt_of_not_le fun hlate => hends (htimely start later now hclock hnow hlate)
  · rintro ⟨hsupplied, hclock, hsuits⟩
    refine ⟨hsupplied, fun start later hstart => ?_, fun start later now hstart hnow hlate => ?_,
      hsuits⟩
    · rw [hstart] at hclock
      exact hclock.1
    · rw [hstart] at hclock
      exact hclock.2.resolve_right fun hearly => Nat.not_lt.2 hlate (hearly now hnow)

instance : Decidable (Shows limit pdf? around conduct events) :=
  have : Decidable (match readings events with
      | [] => True
      | start :: later => representable (start + limit) = around.dated ∧
        (conduct.ending? = none ∨ ∀ now ∈ later, now < start + limit)) :=
    match readings events with
    | [] => inferInstanceAs (Decidable True)
    | _ :: _ => inferInstanceAs (Decidable (_ ∧ _))
  decidable_of_iff' _ shows_iff

/-- What comes of a compilation. -/
def outcome (around : Surroundings) (conduct : Conduct) (stem source : Text) :
    Except RenderError Artifact :=
  if around.supplied = false then .error .unexpected
  else if conduct = .cannotStart then .ok ⟨stem, .source source⟩
  else if around.dated = false then .error .aborted
  else match conduct with
    | .exits (some 0) (.pdf bytes) => .ok ⟨stem, .pdf bytes⟩
    | .exits (some 0) .unreadable => .error .unexpected
    | _ => .ok ⟨stem, .source source⟩

/-! ## Lacks -/

theorem Writes.any_isLack (h : Writes path events result) :
    events.any Event.isLack = !result.isOk := by
  induction h with
  | done | failed | full => rfl
  | more _ ih => exact ih

theorem Stores.any_isLack (h : Stores path events result) :
    events.any Event.isLack = !result.isOk := by
  cases h with
  | notCreated => rfl
  | created h => exact h.any_isLack

theorem Waits.any_isLack (h : Waits deadline e earliest events result) :
    events.any Event.isLack = false := by
  induction h with
  | exited | lost | late => rfl
  | early _ _ _ ih => exact ih

theorem Awaits.any_isLack (h : Awaits limit events result) :
    events.any Event.isLack = false := by
  cases h with
  | noDeadline => rfl
  | deadline _ _ h => exact h.any_isLack

theorem any_isLack_report (h : (report directory result).Replays events ()) :
    events.any Event.isLack = false := by
  rcases replays_report h with rfl | ⟨log, rfl⟩ <;> rfl

theorem any_isLack_closeDirectory (h : (closeDirectory directory).Replays events ()) :
    events.any Event.isLack = false := by
  rcases replays_closeDirectory h with rfl | ⟨fault, rfl⟩ <;> rfl

/-! ## The end of the compiler -/

section
variable {around : Surroundings} {conduct : Conduct} {pdf? : Option Text} {limit : Nat}

/-- What waiting learns is how the compiler ends, if it does so in time. -/
theorem Waits.ending_eq (h : Waits deadline e earliest events result)
    (hsuits : ∀ event ∈ events, event.suits conduct pdf?)
    (htimely : ∀ now ∈ readings events, deadline ≤ now → conduct.ending? = none) :
    (∃ code, result = .ok code ∧ conduct.ending? = some (.exited code)) ∨
      result = .error .wait ∧ conduct.ending? = some .lost ∨
      result = .error e ∧ conduct.ending? = none := by
  induction h with
  | @exited _ code =>
    have hending : conduct.ending? = some (.exited code) := by
      simpa [Event.suits] using hsuits ⟨.poll, .exited code⟩ (by simp)
    exact .inl ⟨code, rfl, hending⟩
  | lost =>
    have hending : conduct.ending? = some .lost := by
      simpa [Event.suits] using hsuits ⟨.poll, .lost⟩ (by simp)
    exact .inr (.inl ⟨rfl, hending⟩)
  | late now hlate =>
    exact .inr (.inr ⟨rfl, htimely now.1 (by simp [Event.times]) hlate⟩)
  | early now _ _ ih =>
    refine ih (fun event hevent => hsuits event (by simp [hevent])) fun now' hnow => ?_
    exact htimely now' (by simp [Event.times, hnow])

/-- What becomes of a compiler that has been started. -/
inductive Ends (around : Surroundings) (conduct : Conduct) :
    Except CompileError (Option Nat) → Prop
  | undated (h : around.dated = false) : Ends around conduct (.error .noDeadline)
  | exited (hdated : around.dated = true) (h : conduct.ending? = some (.exited code)) :
      Ends around conduct (.ok code)
  | givenUp (hdated : around.dated = true) (hblame : e.isCompilerFailure = true)
      (h : ∀ code, conduct.ending? ≠ some (.exited code)) : Ends around conduct (.error e)

theorem Awaits.ends (h : Awaits limit events result)
    (hshows : Shows limit pdf? around conduct (before ++ events))
    (hclock : readings before = []) : Ends around conduct result := by
  have hdated := hshows.dated
  have htimely := hshows.timely
  simp only [readings_append, hclock, List.nil_append] at hdated htimely
  cases h with
  | noDeadline now hdeadline =>
    refine .undated ?_
    rw [← hdated now.1 [] rfl]
    simpa using hdeadline
  | deadline now hdeadline hwait =>
    have hended := hwait.ending_eq
      (fun event hevent => hshows.suits event (by simp [hevent]))
      (fun later hlater => htimely now.1 _ later rfl hlater)
    have hdated : around.dated = true := (hdated now.1 _ rfl).symm.trans hdeadline
    rcases hended with ⟨code, rfl, hexited⟩ | ⟨rfl, hlost⟩ | ⟨rfl, hlate⟩
    · exact .exited hdated hexited
    · exact .givenUp hdated rfl (by simp [hlost])
    · exact .givenUp hdated rfl (by simp [hlate])

theorem Shows.left (h : Shows limit pdf? around conduct (before ++ after))
    (hlack : after.any Event.isLack = false) (hclock : readings after = []) :
    Shows limit pdf? around conduct before where
  supplied := by simpa [hlack] using h.supplied
  dated := by simpa [hclock] using h.dated
  timely := by simpa [hclock] using h.timely
  suits event hevent := h.suits event (List.mem_append_left _ hevent)

theorem Shows.tail (h : Shows limit pdf? around conduct (event :: events))
    (hlack : event.isLack = false) (hclock : event.times = []) :
    Shows limit pdf? around conduct events where
  supplied := by simpa [hlack] using h.supplied
  dated := by simpa [hclock] using h.dated
  timely := by simpa [hclock] using h.timely
  suits other hother := h.suits other (List.mem_cons_of_mem _ hother)

theorem Launches.ends (h : Launches c directory stem events result)
    (hshows : Shows c.timeout pdf? around conduct events) :
    around.supplied = true ∧ conduct ≠ .cannotStart ∧ Ends around conduct result := by
  obtain @⟨storing, waiting, _, hstore, hawait⟩ := h
  have hsupplied := hshows.supplied
  have hspawn := hshows.suits ⟨.spawn (c.command directory stem), .ok ()⟩ (by simp)
  have hclock : readings (storing ++ [⟨.create (logPath directory), .ok ()⟩,
      ⟨.share (logPath directory), .ok ()⟩, ⟨.spawn (c.command directory stem), .ok ()⟩]) = [] := by
    simp [(hstore.said_eq none).2, Event.times]
  refine ⟨?_, ?_, hawait.ends (by simpa using hshows) hclock⟩
  · simpa [hstore.any_isLack, hawait.any_isLack, Event.isLack, Except.isOk, Except.toBool]
      using hsupplied
  · simpa [Event.suits, Except.isOk, Except.toBool] using hspawn

end

/-! ## What comes of it -/

section
variable {around : Surroundings} {conduct : Conduct} {stem source : Text}

theorem outcome_of_lack (h : around.supplied = false) :
    outcome around conduct stem source = .error .unexpected := if_pos h

theorem outcome_of_cannotStart (h : around.supplied = true) :
    outcome around .cannotStart stem source = .ok ⟨stem, .source source⟩ := by
  simp [outcome, h]

theorem outcome_of_undated (h : around.supplied = true) (hstart : conduct ≠ .cannotStart)
    (hdated : around.dated = false) :
    outcome around conduct stem source = .error .aborted := by
  simp [outcome, h, hstart, hdated]

/-- A compiler that does not exit with the code 0 makes no pdf. -/
theorem outcome_of_failure (h : around.supplied = true) (hstart : conduct ≠ .cannotStart)
    (hdated : around.dated = true) (hcode : conduct.ending? ≠ some (.exited (some 0))) :
    outcome around conduct stem source = .ok ⟨stem, .source source⟩ := by
  cases conduct with
  | cannotStart => exact absurd rfl hstart
  | getsLost | outlasts => simp [outcome, h, hdated]
  | exits code output =>
    have hne : code ≠ some 0 := by simpa [Conduct.ending?] using hcode
    unfold outcome
    simp only [h, hdated, Bool.true_eq_false, if_false, reduceCtorEq]
    split
    · next heq => cases heq; exact absurd rfl hne
    · next heq => cases heq; exact absurd rfl hne
    · rfl

theorem outcome_of_success (h : around.supplied = true) (hdated : around.dated = true)
    (output : Output) :
    outcome around (.exits (some 0) output) stem source =
      match output with
      | .missing => .ok ⟨stem, .source source⟩
      | .unreadable => .error .unexpected
      | .pdf bytes => .ok ⟨stem, .pdf bytes⟩ := by
  cases output <;> simp [outcome, h, hdated]

/-- Started, waited for and ended well: then the output counts. -/
theorem Launches.conduct_eq (h : Launches c directory stem events (.ok (some 0)))
    (hshows : Shows c.timeout pdf? around conduct events) :
    around.supplied = true ∧ around.dated = true ∧ conduct = .exits (some 0) conduct.output := by
  obtain ⟨hsupplied, -, hends⟩ := h.ends hshows
  cases hends with
  | exited hdated hending =>
    refine ⟨hsupplied, hdated, ?_⟩
    cases conduct with
    | exits code output => simpa [Conduct.ending?, Conduct.output] using hending
    | _ => cases hending

/-- What a compilation comes to is told by the surroundings and the conduct. -/
theorem Compiles.settle_eq (h : Compiles c directory stem events v)
    (hshows : Shows c.timeout (some (pdfPath directory stem)) around conduct events) :
    settle stem source v = outcome around conduct stem source := by
  cases h with
  | notStored hstore =>
    have hlack := hstore.any_isLack.symm.trans hshows.supplied
    rw [outcome_of_lack (by simpa [Except.isOk, Except.toBool] using hlack.symm)]
    rfl
  | noLog hstore | notShared hstore =>
    have hlack := hshows.supplied
    rw [outcome_of_lack (by simpa [Event.isLack] using hlack.symm)]
    rfl
  | @notStarted storing fault hstore =>
    have hsupplied := hshows.supplied
    have hspawn := hshows.suits ⟨.spawn (c.command directory stem), .error fault⟩ (by simp)
    obtain rfl : conduct = .cannotStart := by
      simpa [Event.suits, Except.isOk, Except.toBool] using hspawn
    rw [outcome_of_cannotStart]
    · rfl
    · simpa [hstore.any_isLack, Event.isLack, Except.isOk, Except.toBool] using hsupplied
  | @notAwaited _ e hlaunch =>
    obtain ⟨hsupplied, hstart, hends⟩ := hlaunch.ends hshows
    cases hends with
    | undated hundated =>
      rw [outcome_of_undated hsupplied hstart hundated]
      rfl
    | givenUp hdated hblame hcode =>
      rw [outcome_of_failure hsupplied hstart hdated (hcode _)]
      exact settle_eq_source_iff.2 ⟨e, rfl, hblame⟩
  | failed hlaunch hcode =>
    obtain ⟨hsupplied, hstart, hends⟩ := hlaunch.ends hshows
    cases hends with
    | exited hdated hending =>
      rw [outcome_of_failure hsupplied hstart hdated (by simpa [hending] using hcode)]
      rfl
  | noPdf hlaunch =>
    obtain ⟨hsupplied, hdated, hconduct⟩ := hlaunch.conduct_eq (hshows.left rfl rfl)
    have hmissing := hshows.suits ⟨.isFile (pdfPath directory stem), false⟩ (by simp)
    have houtput : conduct.output = .missing := by simpa [Event.suits] using hmissing
    rw [hconduct, houtput, outcome_of_success hsupplied hdated]
    rfl
  | @unreadable _ fault hlaunch =>
    obtain ⟨hsupplied, hdated, hconduct⟩ := hlaunch.conduct_eq (hshows.left rfl rfl)
    have hread := hshows.suits ⟨.read (pdfPath directory stem), .error fault⟩ (by simp)
    have houtput : conduct.output = .unreadable := by simpa [Event.suits] using hread
    rw [hconduct, houtput, outcome_of_success hsupplied hdated]
    rfl
  | @pdf _ bytes hlaunch =>
    obtain ⟨hsupplied, hdated, hconduct⟩ := hlaunch.conduct_eq (hshows.left rfl rfl)
    have hread := hshows.suits ⟨.read (pdfPath directory stem), .ok bytes⟩ (by simp)
    have houtput : conduct.output = .pdf bytes := by simpa [Event.suits] using hread
    rw [hconduct, houtput, outcome_of_success hsupplied hdated]
    rfl

theorem settle_pdf_eq {c : Compiler} (h : (c.pdf stem source).Replays events v)
    (hshows : Shows c.timeout (expected? stem events) around conduct events) :
    settle stem source v = outcome around conduct stem source := by
  rcases replays_pdf h with
    ⟨fault, rfl, rfl⟩ | ⟨directory, inside, reporting, closing, rfl, hinside, hreport, hclose⟩
  · have hlack := hshows.supplied
    rw [outcome_of_lack (by simpa [Event.isLack] using hlack.symm)]
    rfl
  · have hexpected : expected? stem (⟨.makeTemporary directoryStem, .ok directory⟩ ::
        (inside ++ reporting ++ closing)) = some (pdfPath directory stem) := expected?_eq rfl
    rw [hexpected, List.append_assoc] at hshows
    replace hshows := hshows.tail rfl rfl
    have hreported := said_report stem hreport
    have hclosed := said_closeDirectory none hclose
    have hlacks : (reporting ++ closing).any Event.isLack = false := by
      simp [any_isLack_report hreport, any_isLack_closeDirectory hclose]
    refine hinside.settle_eq (hshows.left hlacks ?_)
    rw [readings_append, hreported.2, hclosed.2]
    rfl

end

theorem run_artifact_eq_settle (c : Compiler) (stem source : Text) (m : Machine σ) (s : σ) :
    ((c.artifact stem source).run m s).1 = settle stem source ((c.pdf stem source).run m s).1 := by
  rw [artifact, run_bind]
  generalize ((c.pdf stem source).run m s).1 = v
  match v with
  | .ok bytes => rfl
  | .error e =>
    cases e <;> rfl

/-- What a compilation comes to in a world is told by the conduct that its replies show there. -/
theorem run_artifact_eq {c : Compiler} {m : Machine σ} {s : σ}
    (hshows : Shows c.timeout (expected? stem ((c.pdf stem source).history m s)) around conduct
      ((c.pdf stem source).history m s)) :
    ((c.artifact stem source).run m s).1 = outcome around conduct stem source := by
  rw [run_artifact_eq_settle]
  exact settle_pdf_eq (replays_run m _ s) hshows

end Compiler

end Curriculum
