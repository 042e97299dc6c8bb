import Curriculum.Proofs.Compiler.Blame
import Curriculum.Proofs.Compiler.Confinement

/-! # Sessions

In a session pdfs are made one after the other, and compile directories are opened and closed in
between. With confined compilers nothing stays behind: after each pdf the directory for temporary
files is as it was before, and of all the entries that have come only the open compile directories
are there (`Session.leaves_nothing`). -/

namespace Curriculum.Compiler

open Program

variable {σ : Type} {m : Machine σ} {view : σ → TempRoot}

/-- What is done with the directory around a compilation changes nothing about its result. -/
theorem run_pdf_of_ok (c : Compiler) (stem source : Text)
    (h : openDirectory.run m s = (.ok directory, t)) :
    let compiled := (c.compileIn directory stem (Utf8.encode source)).run m t
    let reported := (report directory compiled.1).run m compiled.2
    (c.pdf stem source).run m s =
      (compiled.1, ((closeDirectory directory).run m reported.2).2) := by
  simp only [pdf, run_bind, h, run_done]

theorem run_pdf_of_error (c : Compiler) (stem source : Text)
    (h : openDirectory.run m s = (.error e, t)) : (c.pdf stem source).run m s = (.error e, t) := by
  simp only [pdf, run_bind, h, run_done]

/-! ## One directory -/

/-- The compile directories that a machine makes can be removed as long as they are there. -/
def Removes (m : Machine σ) (view : σ → TempRoot) : Prop :=
  ∀ t directory, (m.reply (.makeTemporary directoryStem) t).1 = .ok directory →
    ∀ s, (view s).atWork = none → directory ∈ (view s).entries →
      (m.reply (.removeAll directory) s).1 = .ok ()

section
variable (hm : Confines m view)
include hm

theorem view_openDirectory_ok (h : openDirectory.run m s = (.ok directory, t))
    (hwork : (view s).atWork = none) :
    (m.reply (.makeTemporary directoryStem) s).1 = .ok directory ∧
      directory ∉ (view s).entries ∧ view t = ⟨insert directory (view s).entries, none⟩ := by
  have hmake := hm (.makeTemporary directoryStem) s
  rw [openDirectory, run_ask] at h
  generalize m.reply (.makeTemporary directoryStem) s = made at h hmake
  obtain ⟨reply, t'⟩ := made
  match reply, h, hmake with
  | .ok directory, h, hmake =>
    cases h
    exact ⟨rfl, hmake hwork⟩
  | .error fault, h, hmake => cases h

theorem view_openDirectory_error (h : openDirectory.run m s = (.error e, t))
    (hwork : (view s).atWork = none) : view t = view s := by
  have hmake := hm (.makeTemporary directoryStem) s
  rw [openDirectory, run_ask] at h
  generalize m.reply (.makeTemporary directoryStem) s = made at h hmake
  obtain ⟨reply, t'⟩ := made
  match reply, h, hmake with
  | .ok directory, h, hmake => cases h
  | .error fault, h, hmake =>
    cases h
    exact hmake hwork

theorem view_closeDirectory (hwork : (view s).atWork = none)
    (hremoves : directory ∈ (view s).entries → (m.reply (.removeAll directory) s).1 = .ok ()) :
    view ((closeDirectory directory).run m s).2 = ⟨(view s).entries \ {directory}, none⟩ := by
  refine course_closeDirectory (replays_run m _ s) hwork (course_history hm _ s) fun hmem => ?_
  rw [closeDirectory, history, List.head?_cons, hremoves hmem]

/-- A pdf leaves the directory for temporary files as it has found it. -/
theorem view_pdf (hremoves : Removes m view) (c : Compiler) (id : TemplateId) (source : Text)
    (hdeadline : ¬HasNoDeadline c ((c.pdf id.text source).history m s))
    (hwork : (view s).atWork = none) : view ((c.pdf id.text source).run m s).2 = view s := by
  have hresult : ((c.pdf id.text source).run m s).1 ≠ .error .noDeadline :=
    fun h => hdeadline ((pdf_eq_noDeadline_iff (replays_run m _ s)).1 h)
  rcases hopen : openDirectory.run m s with ⟨e | directory, t⟩
  · rw [run_pdf_of_error c id.text source hopen]
    exact view_openDirectory_error hm hopen hwork
  · obtain ⟨hmade, hfresh, ht⟩ := view_openDirectory_ok hm hopen hwork
    rw [run_pdf_of_ok c id.text source hopen] at hresult ⊢
    generalize hcompiled : (c.compileIn directory id.text (Utf8.encode source)).run m t = compiled
      at hresult ⊢
    obtain ⟨result, u⟩ := compiled
    have hinside : (view u).atWork = none ∧
        (view u).entries \ {directory} = (view t).entries \ {directory} := by
      have hreplays := replays_run m (c.compileIn directory id.text (Utf8.encode source)) t
      have hcourse := course_history hm (c.compileIn directory id.text (Utf8.encode source)) t
      rw [hcompiled] at hreplays hcourse
      exact (compiles_of_replays hreplays).diff_eq (by rw [ht]) (by simp [ht]) hresult hcourse
    have hreported : view ((report directory result).run m u).2 = view u :=
      course_report (replays_run m _ u) hinside.1 (course_history hm _ u)
    have hwork' : (view ((report directory result).run m u).2).atWork = none :=
      hreported ▸ hinside.1
    rw [view_closeDirectory hm hwork' (hremoves s directory hmade _ hwork'), hreported, hinside.2,
      ht, Set.insert_sdiff_self_of_notMem hfresh, ← hwork]

end

/-! ## Many directories -/

/-- What is done from a state on, with the compile directories that are open in the end. -/
inductive Session (m : Machine σ) (s : σ) : List Text → σ → Prop
  | start : Session m s [] s
  | pdf (h : Session m s held t) (c : Compiler) (id : TemplateId) (source : Text)
      (hdeadline : ¬HasNoDeadline c ((c.pdf id.text source).history m t)) :
      Session m s held ((c.pdf id.text source).run m t).2
  | opened (h : Session m s held t) (hopen : openDirectory.run m t = (.ok directory, u)) :
      Session m s (directory :: held) u
  | notOpened (h : Session m s held t) (hopen : openDirectory.run m t = (.error e, u)) :
      Session m s held u
  | closed (h : Session m s held t) (hheld : directory ∈ held) :
      Session m s (held.erase directory) ((closeDirectory directory).run m t).2

/-- The entries are those of the start and the open directories, all of which are new. -/
structure Holding (m : Machine σ) (start : TempRoot) (held : List Text) (r : TempRoot) : Prop where
  atWork : r.atWork = none
  entries : r.entries = start.entries ∪ {directory | directory ∈ held}
  nodup : held.Nodup
  fresh : ∀ directory ∈ held, directory ∉ start.entries
  made : ∀ directory ∈ held, ∃ t, (m.reply (.makeTemporary directoryStem) t).1 = .ok directory

theorem Session.holding (hm : Confines m view) (hremoves : Removes m view)
    (hwork : (view s).atWork = none) (h : Session m s held t) :
    Holding m (view s) held (view t) := by
  induction h with
  | start => exact ⟨hwork, by simp, .nil, by simp, by simp⟩
  | pdf h c id source hdeadline ih =>
    rw [view_pdf hm hremoves c id source hdeadline ih.atWork]
    exact ih
  | @opened held t directory u h hopen ih =>
    obtain ⟨hmade, hfresh, hu⟩ := view_openDirectory_ok hm hopen ih.atWork
    rw [ih.entries] at hfresh hu
    rw [Set.mem_union, not_or] at hfresh
    rw [hu]
    refine ⟨rfl, ?_, List.nodup_cons.2 ⟨hfresh.2, ih.nodup⟩,
      List.forall_mem_cons.2 ⟨hfresh.1, ih.fresh⟩, List.forall_mem_cons.2 ⟨⟨_, hmade⟩, ih.made⟩⟩
    ext path
    simp only [Set.mem_insert_iff, Set.mem_union, Set.mem_ofPred_eq, List.mem_cons]
    exact or_left_comm
  | notOpened h hopen ih =>
    rw [view_openDirectory_error hm hopen ih.atWork]
    exact ih
  | @closed held t directory h hheld ih =>
    obtain ⟨made, hmade⟩ := ih.made directory hheld
    rw [view_closeDirectory hm ih.atWork (hremoves made directory hmade t ih.atWork), ih.entries]
    refine ⟨rfl, ?_, ih.nodup.erase _, fun path hpath => ih.fresh path (List.mem_of_mem_erase hpath),
      fun path hpath => ih.made path (List.mem_of_mem_erase hpath)⟩
    ext path
    simp only [Set.mem_sdiff, Set.mem_union, Set.mem_ofPred_eq, Set.mem_singleton_iff,
      ih.nodup.mem_erase_iff]
    constructor
    · rintro ⟨hstart | hopen, hne⟩
      · exact .inl hstart
      · exact .inr ⟨hne, hopen⟩
    · rintro (hstart | ⟨hne, hopen⟩)
      · exact ⟨.inl hstart, fun h => ih.fresh directory hheld (h ▸ hstart)⟩
      · exact ⟨.inr hopen, hne⟩

/-- With confined compilers whose directories can be removed, no compile directory outlives its
call: of the entries that have come in a session only the open directories are there, and one more
pdf leaves them as they are. And however the removal ends, the result is that of the compilation in
the directory. -/
theorem Session.leaves_nothing (hm : Confines m view) (hwork : (view s).atWork = none)
    (h : Session m s held t) :
    (Removes m view →
      (view t).entries = (view s).entries ∪ {directory | directory ∈ held} ∧
      ∀ (c : Compiler) (id : TemplateId) (source : Text),
        ¬HasNoDeadline c ((c.pdf id.text source).history m t) →
        (view ((c.pdf id.text source).run m t).2).entries = (view t).entries) ∧
    ∀ (c : Compiler) (stem source directory : Text) (u : σ),
      openDirectory.run m t = (.ok directory, u) →
      ((c.pdf stem source).run m t).1 =
        ((c.compileIn directory stem (Utf8.encode source)).run m u).1 := by
  refine ⟨fun hremoves => ?_, fun c stem source directory u hopen => ?_⟩
  · have hholding := h.holding hm hremoves hwork
    refine ⟨hholding.entries, fun c id source hdeadline => ?_⟩
    rw [view_pdf hm hremoves c id source hdeadline hholding.atWork]
  · rw [run_pdf_of_ok c stem source hopen]

/-- A directory for temporary files beside a compiler that removes its directory and fails. -/
structure Desk where
  entries : List Text
  atWork : Option Text

namespace Desk

def root (d : Desk) : TempRoot := ⟨{path | path ∈ d.entries}, d.atWork⟩

def remove (d : Desk) (path : Text) : Desk := { d with entries := d.entries.filter (· ≠ path) }

def reply (call : Call) (d : Desk) : call.Reply × Desk :=
  match call with
  | .survey _ => (⟨fun _ => .error .missing, fun _ => .error .missing, fun _ => false,
      fun _ => false⟩, d)
  | .read _ => (.error .missing, d)
  | .readInput => ([], d)
  | .isFile _ | .isDirectory _ => (false, d)
  | .makeTemporary stem =>
    let path := "/tmp/".toList ++ stem ++ Number.digits d.entries.length
    if path ∈ d.entries then (.error .occupied, d)
    else (.ok path, { d with entries := path :: d.entries })
  | .append _ bytes => (.ok bytes.length, d)
  | .makeDirectory _ | .create _ | .share _ | .rename .. | .removeFile _ => (.ok (), d)
  | .removeAll path => (if path ∈ d.entries then .ok () else .error .missing, d.remove path)
  | .spawn command => (.ok (), { d.remove command.directory with atWork := some command.directory })
  | .poll => (.exited (some 3), { d with atWork := none })
  | .reap => ((), { d with atWork := none })
  | .clock earliest => (⟨earliest, Nat.le_refl earliest⟩, d)
  | .kill | .sleep _ | .warn _ => ((), d)

def machine : Machine Desk := ⟨reply⟩

theorem root_remove (d : Desk) (path : Text) : (d.remove path).root.entries = d.root.entries \ {path} := by
  ext other
  simp [root, remove]

theorem confines : Confines machine root := by
  intro call d
  cases call with
  | makeTemporary stem =>
    simp only [machine, reply]
    split
    · exact fun _ => rfl
    · next hfresh => exact fun hwork => ⟨hfresh, TempRoot.ext (by ext; simp [root]) hwork⟩
  | removeAll path =>
    refine fun hwork => ⟨hwork, ?_, ?_, ?_⟩
    all_goals simp [machine, reply, root_remove]
  | spawn command =>
    refine fun _ => ⟨rfl, Eq.trans (congrArg (· \ _) (root_remove d command.directory)) ?_⟩
    exact sdiff_idem ..
  | create | append => exact fun _ _ _ _ _ _ => rfl
  | poll | reap => exact ⟨rfl, fun _ _ => Iff.rfl⟩
  | share | kill | clock | sleep | isFile | read | warn => exact ⟨rfl, fun _ _ => Iff.rfl⟩
  | survey | readInput | isDirectory | makeDirectory | rename | removeFile => trivial

theorem removes : Removes machine root := fun _ _ _ _ _ hmem => if_pos hmem

end Desk

/-- On that desk a directory is opened, and a pdf that fails without its directory is tried. -/
theorem Session.leaves_nothing_desk :
    let c : Compiler := ⟨"pdflatex", 60 * second⟩
    let opened : Desk := ⟨["/tmp/vitae-0"], none⟩
    opened.root.entries = (Desk.root ⟨[], none⟩).entries ∪ {path | path ∈ opened.entries} ∧
      (Desk.root ((c.pdf "cv" []).run Desk.machine opened).2).entries = opened.root.entries := by
  intro c opened
  have hsession : Session Desk.machine ⟨[], none⟩ ["/tmp/vitae-0"] opened := .opened .start rfl
  have hreadings : readings ((c.pdf "cv" []).history Desk.machine opened) = [0] := by
    decide +kernel
  have hdeadline : ¬HasNoDeadline c ((c.pdf "cv" []).history Desk.machine opened) := by
    rintro ⟨start, later, hstart, hdeadline⟩
    cases hreadings.symm.trans hstart
    exact hdeadline (by decide)
  obtain ⟨hentries, hpdf⟩ := (Session.leaves_nothing Desk.confines rfl hsession).1 Desk.removes
  exact ⟨hentries, hpdf c ⟨"cv", by decide⟩ [] hdeadline⟩

end Curriculum.Compiler
