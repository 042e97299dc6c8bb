import Curriculum.CommandLine.Run
import Curriculum.Proofs.Artifact.Series
import Curriculum.Proofs.Compiler.Calls
import Curriculum.Proofs.Compiler.Conduct
import Curriculum.Proofs.Program.Mirror

/-! # Modes of output

A render streams its artifact or stores it in a directory. Up to the delivery both are one program,
which prepares the artifact (`preparation`): it only looks at files, and then it compiles. So two
such renders fail in the same way before anything is delivered, or else what the one prints is what
the other one stores (`modes_agree`). -/

namespace Curriculum

open Program
open Compiler

namespace CommandLine

/-! ## Materials -/

/-- The calls by which settings, templates and submissions are looked at. -/
inductive Looks : Call → Prop
  | survey : Looks (.survey path)
  | read : Looks (.read path)
  | readInput : Looks .readInput
  | warn : Looks (.warn w)

/-- A failure before anything is written. -/
def Failure.IsEarly (f : Failure) : Prop := ∀ dir, f ≠ .write dir

theorem Failure.code_ne_zero (f : Failure) : f.code ≠ 0 := by
  unfold code
  split <;> decide

def EarlyOr (after : α → Prop) : Except Failure α → Prop
  | .ok a => after a
  | .error f => f.IsEarly

theorem earlyOr_mapError {result : Except ε α} {after : α → Prop} {failure : ε → Failure}
    (hearly : ∀ e, (failure e).IsEarly) (h : ∀ a, after a) :
    EarlyOr after (result.mapError failure) := by
  cases result with
  | error e => exact hearly e
  | ok a => exact h a

theorem obeys_settingsOf (readers : Readers) (home : Option Text) :
    (settingsOf readers home).Obeys Looks (EarlyOr fun _ => True) := by
  cases home with
  | none => exact trivial
  | some home => exact ⟨.survey, fun view => earlyOr_mapError (fun _ => nofun) fun _ => trivial⟩

theorem obeys_warnAll (ws : List Warning) : (warnAll ws).Obeys Looks fun _ => True := by
  induction ws with
  | nil => exact trivial
  | cons w ws ih => exact ⟨.warn, fun _ => ih⟩

theorem obeys_registryOf (readers : Readers) (dir : Option Text) :
    (registryOf readers dir).Obeys Looks (EarlyOr fun _ => True) := by
  cases dir with
  | none => exact trivial
  | some dir =>
    refine ⟨.survey, fun view => (obeys_warnAll _).bind fun _ _ => ?_⟩
    exact earlyOr_mapError (fun _ => nofun) fun _ => trivial

theorem obeys_workshop (readers : Readers) (e : Environment) (o : Shared) :
    (workshop readers e o).Obeys Looks (EarlyOr fun w => w.colors = e.colors) := by
  refine (obeys_settingsOf readers _).bind fun settings hsettings => ?_
  cases settings with
  | error f => exact hsettings
  | ok s =>
    refine (obeys_registryOf readers _).bind fun result hresult => ?_
    cases result with
    | error f => exact hresult
    | ok registry => exact rfl

theorem earlyOr_submissionOf (t : Text) : EarlyOr (fun _ => True) (submissionOf t) := by
  unfold submissionOf
  split
  · exact trivial
  · split
    · exact trivial
    · exact nofun

theorem earlyOr_submissionOfBytes (h : f.IsEarly) (bytes : Bytes) :
    EarlyOr (fun _ => True) (submissionOfBytes f bytes) := by
  unfold submissionOfBytes
  split
  · exact earlyOr_submissionOf _
  · exact h

theorem obeys_readSubmission (fields : Option Text) :
    (readSubmission fields).Obeys Looks (EarlyOr fun _ => True) := by
  unfold readSubmission
  split
  · exact trivial
  · refine ⟨.readInput, earlyOr_submissionOfBytes ?_⟩
    exact fun _ => nofun
  · refine ⟨.read, fun reply => ?_⟩
    cases reply with
    | ok bytes =>
      refine earlyOr_submissionOfBytes ?_ bytes
      exact fun _ => nofun
    | error fault => exact fun _ => nofun

/-- What a render works with: templates, the compiler and the submission. -/
def materials (readers : Readers) (e : Environment) (o : Shared) (fields : Option Text) :
    Program (Except Failure (Workshop × Json.Value)) :=
  (workshop readers e o).bind fun
    | .error f => done (.error f)
    | .ok w => (readSubmission fields).bind fun
      | .error f => done (.error f)
      | .ok submission => done (.ok (w, submission))

theorem obeys_materials (readers : Readers) (e : Environment) (o : Shared) (fields : Option Text) :
    (materials readers e o fields).Obeys Looks
      (EarlyOr fun made => made.1.colors = e.colors) := by
  refine (obeys_workshop readers e o).bind fun result hresult => ?_
  cases result with
  | error f => exact hresult
  | ok w =>
    refine (obeys_readSubmission fields).bind fun submission hsubmission => ?_
    cases submission with
    | error f => exact hsubmission
    | ok submission => exact hresult

/-! ## Preparation -/

/-- The artifact of a render with the notice about it. -/
def preparation (readers : Readers) (e : Environment) (o : Shared) (id : Text)
    (fields : Option Text) (format : Format) : Program (Except Failure (Text × Artifact)) :=
  (materials readers e o fields).bind fun
    | .error f => done (.error f)
    | .ok (w, submission) => (w.registry.render w.compiler id submission format).bind fun
      | .error e => done (.error (.render e))
      | .ok a => done (.ok (noticeOf w.colors format a, a))

/-- Tells a failure, or delivers an artifact. -/
def conclude (destination : Destination) : Except Failure (Text × Artifact) → Program Report
  | .error f => done f.report
  | .ok (notice, a) => deliver notice a destination

/-- A render prepares its artifact and delivers it. -/
theorem run_render_eq (readers : Readers) (e : Environment) (o : Shared) (id : Text)
    (fields : Option Text) (format : Text) (destination : Destination) :
    Invocation.run readers e ⟨o, .render id fields format destination⟩ =
      (preparation readers e o id fields (Format.ofRequest format)).bind (conclude destination) := by
  -- both sides are one program, associated differently, and each case is a stage that may fail
  rw [Invocation.run, if_neg nofun, preparation, materials, bind_bind, bind_bind]
  congr 1
  funext result
  cases result with
  | error f => rfl
  | ok w =>
    simp only [Workshop.carryOut, render, bind_bind]
    congr 1
    funext submission
    cases submission with
    | error f => rfl
    | ok submission =>
      simp only [done_bind, bind_bind]
      congr 1
      funext result
      cases result <;> rfl

/-- Some calls look at files, and the others are those of a compilation, which keeps to a fresh
directory of its own. -/
def Untouching (id : Text) (events : List Event) : Prop :=
  ∃ looking compiling, events = looking ++ compiling ∧ (∀ event ∈ looking, Looks event.call) ∧
    (compiling = [] ∨ ∃ c : Compiler, c.StaysInside id compiling)

/-- Told when the source has been made where a pdf is requested. -/
def standInNotice (colors : Bool) (format : Format) (a : Artifact) : Text :=
  if format = .pdf ∧ a.format = .source then fallbackNotice colors else []

section
variable {readers : Readers} {e : Environment} {o : Shared} {id : Text} {fields : Option Text}
  {format : Format}

theorem noticeOf_eq {r : Registry} {c : Compiler} (colors : Bool)
    (h : (r.render c id submission format).Replays events (.ok a)) :
    noticeOf colors format a = standInNotice colors format a := by
  obtain ⟨-, -, hformat⟩ := Registry.of_replays_render h
  rcases hformat with rfl | ⟨rfl, hsource⟩
  · cases hbinary : a.format <;> simp [noticeOf, standInNotice, Artifact.isBinary, hbinary]
  · simp [noticeOf, standInNotice, Artifact.isBinary, hsource]

theorem replays_preparation (h : (preparation readers e o id fields format).Replays events result) :
    Untouching id events ∧
      EarlyOr (fun made => made.1 = standInNotice e.colors format made.2) result := by
  obtain ⟨looking, compiling, made, rfl, hmade, hrest⟩ := replays_bind.1 h
  obtain ⟨hlooking, hcolors⟩ := (obeys_materials readers e o fields).of_replays hmade
  cases made with
  | error f =>
    obtain ⟨rfl, rfl⟩ := replays_done.1 hrest
    exact ⟨⟨looking, [], rfl, hlooking, .inl rfl⟩, hcolors⟩
  | ok made =>
    obtain ⟨rendering, after, rendered, rfl, hrender, hafter⟩ := replays_bind.1 hrest
    have hinside : rendering = [] ∨ ∃ c : Compiler, c.StaysInside id rendering :=
      (Registry.staysInside_render hrender).imp_right fun h => ⟨_, h⟩
    cases rendered with
    | error f =>
      obtain ⟨rfl, rfl⟩ := replays_done.1 hafter
      rw [List.append_nil]
      exact ⟨⟨looking, rendering, rfl, hlooking, hinside⟩, fun _ => nofun⟩
    | ok a =>
      obtain ⟨rfl, rfl⟩ := replays_done.1 hafter
      rw [List.append_nil]
      refine ⟨⟨looking, rendering, rfl, hlooking, hinside⟩, ?_⟩
      exact hcolors ▸ noticeOf_eq _ hrender

end

/-! ## Twins -/

/-- Where a render comes to a compilation with a template, its compiler does with the source what the
conduct says of it. -/
def CompilesAs (conduct : Text → Conduct) (around : Surroundings) (id : Text)
    (made : Except Failure (Workshop × Json.Value)) (m : Machine σ) (s : σ) : Prop :=
  ∀ w submission template, made = .ok (w, submission) → w.registry.template id = .ok template →
    let source := Template.source template.body submission
    let events := (w.compiler.pdf id source).history m s
    Shows w.compiler.timeout (expected? id events) around (conduct source) events

instance {conduct : Text → Conduct} {around : Surroundings} {id : Text} {σ : Type} {m : Machine σ}
    {s : σ} : (made : Except Failure (Workshop × Json.Value)) →
    Decidable (CompilesAs conduct around id made m s)
  | .error _ => isTrue nofun
  | .ok (w, submission) =>
    match ht : w.registry.template id with
    | .error _ => isTrue fun _ _ _ h h' => by cases h; cases ht.symm.trans h'
    | .ok template =>
      let source := Template.source template.body submission
      let events := (w.compiler.pdf id source).history m s
      decidable_of_iff (Shows w.compiler.timeout (expected? id events) around (conduct source) events)
        ⟨fun hshows _ _ _ h h' => by cases h; cases ht.symm.trans h'; exact hshows,
          fun h => h w submission template rfl ht⟩

/-- Two worlds that look the same to a render, and in which its compiler does the same with the same
source. Their clocks and their compile directories may be others, and so may be how a compiler is
seen to end. -/
structure Twins (conduct : Text → Conduct) (around : Surroundings) (readers : Readers)
    (e : Environment) (o : Shared) (id : Text) (fields : Option Text) (format : Format)
    (m₁ : Machine σ) (m₂ : Machine τ) (R : σ → τ → Prop) (s : σ) (t : τ) : Prop where
  looks : Mirrors Looks m₁ m₂ R
  start : R s t
  first (hpdf : format = .pdf) : let made := (materials readers e o fields).run m₁ s
    CompilesAs conduct around id made.1 m₁ made.2
  second (hpdf : format = .pdf) : let made := (materials readers e o fields).run m₂ t
    CompilesAs conduct around id made.1 m₂ made.2

section
variable {σ τ : Type} {m₁ : Machine σ} {m₂ : Machine τ} {R : σ → τ → Prop} {s : σ} {t : τ}
  {conduct : Text → Conduct} {around : Surroundings} {id : Text}
  {made : Except Failure (Workshop × Json.Value)}

theorem CompilesAs.run_render (h : format = .pdf → CompilesAs conduct around id made m₁ s)
    (h' : format = .pdf → CompilesAs conduct around id made m₂ t)
    (hmade : made = .ok (w, submission)) :
    ((w.registry.render w.compiler id submission format).run m₁ s).1 =
      ((w.registry.render w.compiler id submission format).run m₂ t).1 := by
  cases ht : w.registry.template id with
  | error e => rw [Registry.render_of_error ht, run_done, run_done]
  | ok template =>
    obtain ⟨-, rfl⟩ := Registry.of_template_eq_ok ht
    rw [Registry.render_of_ok ht]
    cases format with
    | summary | source => rfl
    | pdf =>
      have hfirst := run_artifact_eq (h rfl w submission template hmade ht)
      have hsecond := run_artifact_eq (h' rfl w submission template hmade ht)
      exact hfirst.trans hsecond.symm

theorem Twins.run_preparation (h : Twins conduct around readers e o id fields format m₁ m₂ R s t) :
    ((preparation readers e o id fields format).run m₁ s).1 =
      ((preparation readers e o id fields format).run m₂ t).1 := by
  obtain ⟨hmade, -⟩ := (obeys_materials readers e o fields).run_mirrored h.looks h.start
  obtain ⟨-, -, hfirst, hsecond⟩ := h
  dsimp only at hfirst hsecond
  rw [hmade] at hfirst
  rw [preparation, run_bind, run_bind, hmade]
  generalize ((materials readers e o fields).run m₂ t).1 = made at hfirst hsecond
  cases made with
  | error f => rfl
  | ok made =>
    rw [run_bind, run_bind, CompilesAs.run_render hfirst hsecond rfl]
    generalize (Program.run m₂ _ _).1 = rendered
    cases rendered <;> rfl

end

/-! ## Delivery -/

theorem history_stream (m : Machine σ) (made : Except Failure (Text × Artifact)) (s : σ) :
    (conclude .standardOutput made).history m s = [] := by
  cases made <;> rfl

/-- What is told of an artifact that has been written, or not. -/
def storedReport (notice : Text) (a : Artifact) (dir : Text) : Except WriteError Written → Report
  | .ok w => ⟨0, Utf8.encode (writtenLine w a ++ ['\n']), notice⟩
  | .error _ => (Failure.write dir).report

section
variable {τ : Type} (m : Machine τ) (notice : Text) (a : Artifact) (dir : Text) (t : τ)

theorem run_store : (conclude (.directory dir) (.ok (notice, a))).run m t =
    (storedReport notice a dir ((a.write dir).run m t).1, ((a.write dir).run m t).2) := by
  rw [conclude, deliver, run_bind]
  cases ((a.write dir).run m t).1 <;> rfl

theorem history_store :
    (conclude (.directory dir) (.ok (notice, a))).history m t = (a.write dir).history m t := by
  rw [conclude, deliver, history_bind]
  cases ((a.write dir).run m t).1 <;> exact List.append_nil _

end

section
variable {readers : Readers} {e : Environment} {o : Shared} {id : Text} {destination : Destination}

theorem runBy_eq_of_read
    (h : readers.commandLine arguments = some ⟨o, .render id fields format destination⟩) :
    runBy readers e arguments =
      (preparation readers e o id fields (Format.ofRequest format)).bind (conclude destination) := by
  rw [runBy, h]
  exact run_render_eq ..

theorem run_of_read (m : Machine σ) (s : σ)
    (h : readers.commandLine arguments = some ⟨o, .render id fields format destination⟩) :
    let p := preparation readers e o id fields (Format.ofRequest format)
    (runBy readers e arguments).run m s = (conclude destination (p.run m s).1).run m (p.run m s).2 := by
  rw [runBy_eq_of_read h, run_bind]

theorem history_of_read (m : Machine σ) (s : σ)
    (h : readers.commandLine arguments = some ⟨o, .render id fields format destination⟩) :
    let p := preparation readers e o id fields (Format.ofRequest format)
    (runBy readers e arguments).history m s =
      p.history m s ++ (conclude destination (p.run m s).1).history m (p.run m s).2 := by
  rw [runBy_eq_of_read h, history_bind]

end

/-- Hosts with the same files and the same input. -/
def SameFiles (h h' : Host) : Prop := h.tree = h'.tree ∧ h.here = h'.here ∧ h.input = h'.input

theorem mirrors_sameFiles : Mirrors Looks Host.machine Host.machine SameFiles := by
  rintro call hcall h h' ⟨htree, hhere, hinput⟩
  cases hcall with
  | survey | read =>
    refine ⟨?_, htree, hhere, hinput⟩
    simp only [Host.machine, Host.reply, htree, hhere]
  | readInput => exact ⟨hinput, htree, hhere, hinput⟩
  | warn => exact ⟨rfl, htree, hhere, hinput⟩

/-- A host with a template for notes and a compiler that copies its source. -/
def office : Host :=
  let file (t : Text) (runnable : Bool) : Entry := .file (Utf8.encode t) runnable
  let entries : List (Place × Entry) := [(["tmp"], .directory), (["var"], .directory),
    (["lib"], .directory), (["lib", "note"], .directory),
    (["lib", "note", "schema.yaml"], file "name: Note" false),
    (["lib", "note", "template.tex"], file "x" false),
    (["press"], file "#!/bin/sh\ncp note.tex note.pdf\n" true)]
  { tree := entries.foldl (fun t e => t.put e.1 e.2) ∅ }

/-- The same files at another time, with other compile directories. -/
def annex : Host := { office with bindings := [("TMPDIR", "/var")], clock := 7 * second }

end CommandLine

end Curriculum
