import Curriculum.Proofs.Compiler.Blame
import Curriculum.Proofs.Registry.Lookup
import Curriculum.Render

/-! # Outcome of a render

What a render comes to is told by the history of its calls. Summaries and sources touch nothing. A
pdf is the file that the compiler has left; where the compiler is to blame the source comes in its
place, and where the files around it are to blame nothing does (`Registry.render_outcome`). -/

namespace Curriculum

open Program
open Compiler

/-! ## Artifacts -/

/-- What becomes of a verdict. -/
def settle (stem source : Text) : Verdict → Except RenderError Artifact
  | .ok bytes => .ok ⟨stem, .pdf bytes⟩
  | .error .noDeadline => .error .aborted
  | .error e => if e.isCompilerFailure then .ok ⟨stem, .source source⟩ else .error .unexpected

section
variable {stem source : Text} {v : Verdict}

theorem settle_error (h : e ≠ .noDeadline) :
    settle stem source (.error e) =
      if e.isCompilerFailure then .ok ⟨stem, .source source⟩ else .error .unexpected := by
  rw [settle]
  exact h

theorem settle_cases (stem source : Text) (v : Verdict) :
    (∃ bytes, settle stem source v = .ok ⟨stem, .pdf bytes⟩) ∨
      settle stem source v = .ok ⟨stem, .source source⟩ ∨
      settle stem source v = .error .unexpected ∨ settle stem source v = .error .aborted := by
  unfold settle
  split
  · exact .inl ⟨_, rfl⟩
  · exact .inr (.inr (.inr rfl))
  · split
    · exact .inr (.inl rfl)
    · exact .inr (.inr (.inl rfl))

theorem settle_eq_pdf_iff : settle stem source v = .ok ⟨stem, .pdf bytes⟩ ↔ v = .ok bytes := by
  unfold settle
  split
  · simp
  · simp
  · split <;> simp

theorem settle_eq_source_iff :
    settle stem source v = .ok ⟨stem, .source source⟩ ↔
      ∃ e, v = .error e ∧ e.isCompilerFailure = true := by
  unfold settle
  split
  · simp
  · simp [CompileError.isCompilerFailure]
  · simp

theorem settle_eq_unexpected_iff :
    settle stem source v = .error .unexpected ↔
      ∃ e, v = .error e ∧ e.isCompilerFailure = false ∧ e ≠ .noDeadline := by
  unfold settle
  split
  · simp
  · simp
  · next e he => simpa using fun _ => he

theorem settle_eq_aborted_iff :
    settle stem source v = .error .aborted ↔ v = .error .noDeadline := by
  unfold settle
  split
  · simp
  · simp
  · next e he => split <;> simpa using he

end

section
variable {c : Compiler} {stem source : Text}

/-- Behind the compilation there is at most a warning. -/
theorem replays_artifact (h : (c.artifact stem source).Replays events a) :
    ∃ making after v, events = making ++ after ∧ (c.pdf stem source).Replays making v ∧
      a = settle stem source v ∧ (after = [] ∨ ∃ w, after = [⟨.warn w, ()⟩]) := by
  obtain ⟨making, after, v, rfl, hpdf, hafter⟩ := replays_bind.1 h
  refine ⟨making, after, v, rfl, hpdf, ?_⟩
  split at hafter
  · obtain ⟨rfl, rfl⟩ := replays_done.1 hafter
    exact ⟨rfl, .inl rfl⟩
  · obtain ⟨rfl, rfl⟩ := replays_done.1 hafter
    exact ⟨rfl, .inl rfl⟩
  · next e he =>
    rw [settle_error he]
    split at hafter
    · next hblame =>
      obtain ⟨⟨⟩, rest, rfl, hrest⟩ := replays_ask.1 hafter
      obtain ⟨rfl, rfl⟩ := replays_done.1 hrest
      exact ⟨(if_pos hblame).symm, .inr ⟨_, rfl⟩⟩
    · next hblame =>
      obtain ⟨⟨⟩, rest, rfl, hrest⟩ := replays_ask.1 hafter
      obtain ⟨rfl, rfl⟩ := replays_done.1 hrest
      exact ⟨(if_neg hblame).symm, .inr ⟨_, rfl⟩⟩

theorem verdicts_artifact (h : (c.artifact stem source).Replays events a) :
    ∃ v, a = settle stem source v ∧ verdicts c.timeout (expected? stem events) events = [v] ∧
      ∀ bytes, v = .ok bytes → Delivers stem events bytes := by
  obtain ⟨making, after, v, rfl, hpdf, rfl, hafter⟩ := replays_artifact h
  have hquiet : (∀ pdf?, said pdf? after = []) ∧ readings after = [] := by
    rcases hafter with rfl | ⟨w, rfl⟩
    · exact ⟨fun _ => rfl, rfl⟩
    · exact ⟨fun _ => rfl, rfl⟩
  exact ⟨v, rfl, verdicts_pdf hpdf hquiet.1 hquiet.2⟩

/-- A pdf is delivered, or else the compiler, the files or the clock are to blame. -/
theorem artifact_outcome (h : (c.artifact stem source).Replays events a) :
    (∀ bytes, a = .ok ⟨stem, .pdf bytes⟩ ↔ Delivers stem events bytes) ∧
      (a = .ok ⟨stem, .source source⟩ ↔ BlamesCompiler c stem events) ∧
      (a = .error .unexpected ↔ BlamesFiles stem events) ∧
      (a = .error .aborted ↔ HasNoDeadline c events) := by
  obtain ⟨v, rfl, hverdicts, hdelivers⟩ := verdicts_artifact h
  simp only [settle_eq_pdf_iff, settle_eq_source_iff, settle_eq_unexpected_iff,
    settle_eq_aborted_iff]
  exact outcome_of_verdicts hverdicts hdelivers

end

/-! ## Renders -/

namespace Registry

section
variable {r : Registry} {id : Text}

theorem render_of_ok {c : Compiler} (h : r.template id = .ok t) :
    r.render c id submission format = t.render c submission format := by
  rw [render, h]

theorem render_of_error {c : Compiler} (h : r.template id = .error e) :
    r.render c id submission format = .done (.error (.notFound id)) := by
  rw [render, h]

/-- Only for an id there is an artifact. The id is its stem, and the format is the requested one,
or the source stands in for a pdf. -/
theorem of_replays_render {c : Compiler} {a : Artifact}
    (h : (r.render c id submission format).Replays events (.ok a)) :
    TemplateId.IsWellFormed id ∧ a.stem = id ∧
      (a.format = format ∨ format = .pdf ∧ a.format = .source) := by
  cases ht : r.template id with
  | error e =>
    rw [render_of_error ht] at h
    cases (replays_done.1 h).2
  | ok t =>
    obtain ⟨-, rfl⟩ := of_template_eq_ok ht
    rw [render_of_ok ht] at h
    refine ⟨t.definition.id.isWellFormed_text, ?_⟩
    cases format with
    | summary | source =>
      cases (replays_done.1 h).2
      exact ⟨rfl, .inl rfl⟩
    | pdf =>
      obtain ⟨-, -, v, -, -, hsettle, -⟩ := replays_artifact h
      rcases settle_cases t.definition.id.text (Template.source t.body submission) v with
        ⟨bytes, hv⟩ | hv | hv | hv
      all_goals cases hsettle.trans hv
      · exact ⟨rfl, .inl rfl⟩
      · exact ⟨rfl, .inr ⟨rfl, rfl⟩⟩

end

/-- What a render comes to on any machine, told by the history of its calls. -/
theorem render_outcome (r : Registry) (c : Compiler) (id : Text) (submission : Json.Value)
    (m : Machine σ) (s : σ) :
    let result format := ((r.render c id submission format).run m s).1
    let events format := (r.render c id submission format).history m s
    let missing := ∀ t ∈ r.templates, t.definition.id.text ≠ id
    (∀ format other, result format = .error (.notFound other) ↔ missing ∧ other = id) ∧
    (missing → ∀ format, events format = []) ∧
    (¬missing → ∃ t ∈ r.templates, t.definition.id.text = id ∧
      result .summary = .ok ⟨id, .summary (Resume.summaryOf submission)⟩ ∧ events .summary = [] ∧
      result .source = .ok ⟨id, .source (Template.source t.body submission)⟩ ∧
      events .source = [] ∧
      (∀ bytes, result .pdf = .ok ⟨id, .pdf bytes⟩ ↔ Delivers id (events .pdf) bytes) ∧
      (result .pdf = result .source ↔ BlamesCompiler c id (events .pdf)) ∧
      (result .pdf = .error .unexpected ↔ BlamesFiles id (events .pdf)) ∧
      (result .pdf = .error .aborted ↔ HasNoDeadline c (events .pdf)) ∧
      ((∃ bytes, Delivers id (events .pdf) bytes) ∨ BlamesCompiler c id (events .pdf) ∨
        BlamesFiles id (events .pdf) ∨ HasNoDeadline c (events .pdf))) := by
  intro result events missing
  cases htemplate : r.template id with
  | error e =>
    have hmissing : missing := (of_template_eq_error htemplate).2
    refine ⟨fun format other => ?_, fun _ format => ?_, absurd hmissing⟩
    · simp only [result, render_of_error htemplate, run_done]
      simp [hmissing, eq_comm]
    · simp only [events, render_of_error htemplate, history]
  | ok t =>
    obtain ⟨hmem, rfl⟩ := of_template_eq_ok htemplate
    have hpresent : ¬missing := fun h => h t hmem rfl
    have hpdf : (c.artifact t.definition.id.text (Template.source t.body submission)).Replays
        (events .pdf) (result .pdf) := by
      simp only [events, result, render_of_ok htemplate]
      exact replays_run ..
    have hsource : result .source =
        .ok ⟨t.definition.id.text, .source (Template.source t.body submission)⟩ := by
      simp only [result, render_of_ok htemplate, Template.render, run_done]
    obtain ⟨hdelivers, hcompiler, hfiles, hdeadline⟩ := artifact_outcome hpdf
    obtain ⟨v, hv, -, -⟩ := verdicts_artifact hpdf
    have hcases := settle_cases t.definition.id.text (Template.source t.body submission) v
    rw [← hv] at hcases
    refine ⟨fun format other => ?_, fun h => absurd h hpresent, fun _ => ⟨t, hmem, rfl, ?_⟩⟩
    · simp only [hpresent, false_and, iff_false]
      cases format with
      | summary => simp [result, render_of_ok htemplate, Template.render]
      | source => simp [hsource]
      | pdf => rcases hcases with ⟨bytes, h⟩ | h | h | h <;> simp [h]
    · refine ⟨?_, ?_, hsource, ?_, hdelivers, ?_, hfiles, hdeadline, ?_⟩
      · simp only [result, render_of_ok htemplate, Template.render, run_done]
      · simp only [events, render_of_ok htemplate, Template.render, history]
      · simp only [events, render_of_ok htemplate, Template.render, history]
      · rw [hsource, hcompiler]
      · rw [← hcompiler, ← hfiles, ← hdeadline]
        simpa only [hdelivers] using hcases

end Registry

end Curriculum
