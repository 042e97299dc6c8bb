import Curriculum.Proofs.Artifact.Stages
import Mathlib.Data.List.Basic

/-! # Series of writes

Artifacts are written one after the other, to whatever directories, and some of these calls may fail.
No temporary file is where an artifact is written to, whichever two calls they belong to, so a file
holds the last artifact that has come to it (`Series.settles`). What one call does is told by
`FileMachine.run_write`, and a whole series by induction along its log (`Series`).

The trees have no links, and an artifact has the file name of its format. -/

namespace Curriculum

/-! ## Growing trees -/

/-- No directory has gone, and an entry that none of the paths leads to is as before, or is a new
directory. -/
structure FileTree.Grown (here : Place) (paths : List Text) (t t' : FileTree) : Prop where
  keeps : t.KeepsDirectories t'
  others (place : Place) (h : ∀ path ∈ paths, t'.locate here path ≠ .ok place) :
    t'.get? place = t.get? place ∨ t.get? place = none ∧ t'.get? place = some .directory

namespace FileTree

variable {t t' t'' : FileTree} {here place : Place} {path source target : Text}
  {paths paths' : List Text}

theorem Grown.refl : Grown here paths t t where
  keeps := .refl
  others _ _ := .inl rfl

theorem Grown.mono (h : Grown here paths t t') (hsub : paths ⊆ paths') :
    Grown here paths' t t' where
  keeps := h.keeps
  others place hplace := h.others place fun path hpath => hplace path (hsub hpath)

theorem Grown.trans (h : Grown here paths t t') (h' : Grown here paths t' t'') :
    Grown here paths t t'' where
  keeps := h.keeps.trans h'.keeps
  others place hplace := by
    -- a path that led there in between would still do so, as no directory has gone since
    have hbefore : ∀ path ∈ paths, t'.locate here path ≠ .ok place :=
      fun path hpath hlocate => hplace path hpath (locate_mono h'.keeps hlocate)
    rcases h'.others place hplace with heq | ⟨hnone, hnew⟩
    · rw [heq]
      exact h.others place hbefore
    · rcases h.others place hbefore with heq | ⟨-, hdirectory⟩
      · exact .inr ⟨heq ▸ hnone, hnew⟩
      · cases hnone.symm.trans hdirectory

theorem Grown.append (h : Grown here paths t t') (h' : Grown here paths' t' t'') :
    Grown here (paths ++ paths') t t'' :=
  (h.mono (List.subset_append_left ..)).trans (h'.mono (List.subset_append_right ..))

/-- A file that is at none of the paths stays as it is. -/
theorem Grown.get?_file (h : Grown here paths t t') (hfile : t.get? place = some (.file bytes runnable))
    (hplace : ∀ path ∈ paths, t'.locate here path ≠ .ok place) :
    t'.get? place = some (.file bytes runnable) := by
  rcases h.others place hplace with heq | ⟨hnone, -⟩
  · rw [heq, hfile]
  · cases hnone.symm.trans hfile

theorem grown_makeDirectory (h : t.makeDirectory here path = .ok t') : Grown here paths t t' := by
  obtain ⟨place, -, hnone, rfl⟩ := of_makeDirectory h
  have hfree : t.get? place ≠ some .directory := by simp [hnone]
  have hroot : place ≠ [] := ne_nil_of_get? hfree
  refine ⟨keepsDirectories_put hroot _ hfree, fun other _ => ?_⟩
  rw [get?_put t _ hroot]
  split
  · next heq => exact .inr ⟨heq ▸ hnone, rfl⟩
  · exact .inl rfl

section
variable (hplace : t.locate here path = .ok place) (hfree : t.get? place ≠ some .directory)
  (hpath : path ∈ paths)
include hplace hfree hpath

theorem grown_put (entry : Entry) : Grown here paths t (t.put place entry) := by
  have hroot : place ≠ [] := ne_nil_of_get? hfree
  have hkeep := keepsDirectories_put hroot entry hfree
  refine ⟨hkeep, fun other hother => .inl ?_⟩
  rw [get?_put t _ hroot, if_neg]
  rintro rfl
  exact hother path hpath (locate_mono hkeep hplace)

theorem grown_erase : Grown here paths t (t.erase place) := by
  have hroot : place ≠ [] := ne_nil_of_get? hfree
  have hkeep := keepsDirectories_erase hroot hfree
  refine ⟨hkeep, fun other hother => .inl ?_⟩
  rw [get?_erase t hroot, if_neg]
  rintro rfl
  exact hother path hpath (locate_mono hkeep hplace)

end

theorem grown_rename (h : t.rename here source target = .ok t') (hsource : source ∈ paths)
    (htarget : target ∈ paths) : Grown here paths t t' := by
  obtain ⟨old, new, entry, hold, hnew, hentry, hmoved, hfree, rfl⟩ := of_rename h
  have herased : t.get? old ≠ some .directory := by simpa [hentry] using hmoved
  split
  · exact .refl
  · have hgrown := grown_erase hold herased hsource
    refine hgrown.trans (grown_put (locate_mono hgrown.keeps hnew) ?_ htarget entry)
    rw [get?_erase t (ne_nil_of_get? herased)]
    split
    · nofun
    · exact hfree

end FileTree

open FileTree Program

theorem Artifact.stages_grown (here : Place) (target : Text) (bytes : Bytes) (t₀ : FileTree) :
    Stages here target bytes (Grown here [temporary target] t₀)
      (Grown here [temporary target, target] t₀) where
  makeDirectory h _ _ hmake := h.trans (grown_makeDirectory hmake)
  create h hcreate := by
    obtain ⟨place, runnable, hplace, hfree, rfl⟩ := put_of_create hcreate
    exact h.trans (grown_put hplace hfree (List.mem_singleton_self _) _)
  append h happend := by
    obtain ⟨place, entry, hplace, hfree, rfl⟩ := put_of_append happend
    exact h.trans (grown_put hplace hfree (List.mem_singleton_self _) entry)
  removeFile h hremove := by
    obtain ⟨place, hplace, hfree, rfl⟩ := erase_of_removeFile hremove
    exact h.trans (grown_erase hplace hfree (List.mem_singleton_self _))
  rename h _ hrename := by
    have hmono : Grown here [temporary target, target] t₀ _ := h.mono (by simp)
    exact hmono.trans (grown_rename hrename (by simp) (by simp))
  late_of_early h := h.mono (by simp)

/-! ## Single calls -/

/-- An artifact and the directory that it is written to. -/
structure Delivery where
  artifact : Artifact
  dir : Text
  deriving DecidableEq, Repr

/-- What has been written, or not, in the order of the calls. -/
abbrev Log := List (Delivery × Except WriteError Written)

namespace Delivery

def target (d : Delivery) : Text := d.artifact.target d.dir

def temporary (d : Delivery) : Text := Artifact.temporary d.target

def write (d : Delivery) : Program (Except WriteError Written) := d.artifact.write d.dir

/-- The paths whose entries a call may have changed. -/
def touched : Delivery × Except WriteError Written → List Text
  | (d, .error _) => [d.temporary]
  | (d, .ok _) => [d.temporary, d.target]

theorem mem_touched {log : Log} (h : path ∈ log.flatMap touched) :
    (∃ d result, (d, result) ∈ log ∧ path = d.temporary) ∨
      ∃ d w, (d, .ok w) ∈ log ∧ path = d.target := by
  obtain ⟨⟨d, result⟩, hcall, hpath⟩ := List.mem_flatMap.1 h
  cases result with
  | error fault => exact .inl ⟨d, _, hcall, List.mem_singleton.1 hpath⟩
  | ok w =>
    rcases List.mem_cons.1 hpath with hpath | hpath
    · exact .inl ⟨d, _, hcall, hpath⟩
    · exact .inr ⟨d, w, hcall, List.mem_singleton.1 hpath⟩

theorem getLast?_target (d : Delivery) :
    ∃ c, d.target.getLast? = some c ∧ c ≠ '/' ∧ c ≠ '.' ∧ c ≠ 'p' := by
  let ending : Text := '.' :: d.artifact.format.extension
  have hlow : ∀ c ∈ ending, c.toNat < 0x80 := by
    dsimp only [ending]
    cases d.artifact.format <;> simp [Format.extension]
  have hname : Path.ofText d.artifact.filename = Path.ofText d.artifact.stem ++ ending := by
    rw [Artifact.filename, Path.ofText_append, Path.ofText_low hlow]
  have hlast : d.target.getLast? = ending.getLast? := by
    rw [target, Artifact.target, hname, Path.getLast?_join _ (by simp [ending]),
      Path.getLast?_append_ne_nil _ (List.cons_ne_nil _ _)]
  rw [hlast]
  dsimp only [ending]
  cases d.artifact.format with
  | source => exact ⟨'x', by decide⟩
  | summary => exact ⟨'t', by decide⟩
  | pdf => exact ⟨'f', by decide⟩

theorem getLast?_temporary (d : Delivery) : d.temporary.getLast? = some 'p' := by
  have hending : ".vitae.tmp".toList ≠ [] := by decide
  rw [temporary, Artifact.temporary, Path.getLast?_append_ne_nil _ hending]
  decide

/-- No temporary file is at the target of any call. -/
theorem locate_temporary_ne {t : FileTree} {d e : Delivery}
    (h : t.locate here d.target = .ok place) : t.locate here e.temporary ≠ .ok place := by
  intro htemp
  obtain ⟨c, hlast, hslash, hdot, hp⟩ := d.getLast?_target
  obtain ⟨above, name, rfl, hname⟩ := Path.getLast?_of_locate h hlast hslash hdot
  obtain ⟨above', name', heq, hname'⟩ :=
    Path.getLast?_of_locate htemp e.getLast?_temporary (by decide) (by decide)
  obtain ⟨-, rfl⟩ := List.append_inj' heq rfl |>.imp_right List.singleton_inj.1
  exact hp (Option.some.inj (hname.symm.trans hname'))

end Delivery

namespace FileMachine

variable {σ : Type} (m : FileMachine σ) (d : Delivery) (s : σ)

/-- The writer reads the target first. Where it finds the artifact it does nothing, and where it does
not it goes on from the same files. -/
theorem run_write_cases :
    ((m.tree s).read (m.here s) d.target = .ok d.artifact.body ∧
        (d.write.run m.toMachine s).1 = .ok (.unchanged d.target) ∧
        m.tree (d.write.run m.toMachine s).2 = m.tree s) ∨
      (m.tree s).read (m.here s) d.target ≠ .ok d.artifact.body ∧
        ∃ s', m.tree s' = m.tree s ∧ m.here s' = m.here s ∧
          d.write.run m.toMachine s =
            (Artifact.overwrite d.target d.artifact.body).run m.toMachine s' := by
  have htree := m.tree_read d.target s
  have hhere := m.here_reply (.read d.target) s
  unfold Delivery.target at htree hhere ⊢
  rw [Delivery.write, Artifact.write, run_ask, m.reads]
  cases (m.tree s).read (m.here s) (d.artifact.target d.dir) with
  | error fault => exact .inr ⟨nofun, _, htree, hhere, rfl⟩
  | ok bytes =>
    dsimp only
    by_cases hbody : bytes = d.artifact.body
    · rw [if_pos hbody, hbody]
      exact .inl ⟨rfl, rfl, htree⟩
    · rw [if_neg hbody]
      exact .inr ⟨fun h => hbody (Except.ok.inj h), _, htree, hhere, rfl⟩

/-- What a call of the writer does. -/
theorem run_write :
    let result := (d.write.run m.toMachine s).1
    let t' := m.tree (d.write.run m.toMachine s).2
    ((∃ path, result = .ok (.unchanged path)) ↔
      (m.tree s).read (m.here s) d.target = .ok d.artifact.body) ∧
    Grown (m.here s) (Delivery.touched (d, result)) (m.tree s) t' ∧
    ∀ w, result = .ok w → w.path = d.target ∧
      t'.read (m.here s) d.target = .ok d.artifact.body := by
  dsimp only
  rcases m.run_write_cases d s with ⟨hread, hresult, htree⟩ | ⟨hread, s', htree, hhere, hrun⟩
  · rw [htree, hresult]
    refine ⟨⟨fun _ => hread, fun _ => ⟨_, rfl⟩⟩, .refl, ?_⟩
    rintro _ ⟨⟩
    exact ⟨rfl, hread⟩
  · have hstages := Artifact.stages_grown (m.here s) d.target d.artifact.body (m.tree s)
    have hreach := m.reaches_run (Artifact.overwrite d.target d.artifact.body) s'
    rw [htree, hhere, ← hrun] at hreach
    generalize d.write.run m.toMachine s = ended at hreach ⊢
    obtain ⟨result, s''⟩ := ended
    obtain ⟨hlate, hlands⟩ := (Artifact.safe_overwrite hstages .refl).of_reaches hreach
    match result, hlands with
    | .error e, hgrown => exact ⟨⟨nofun, fun h => absurd h hread⟩, hgrown, nofun⟩
    | .ok (.fresh path), ⟨hpath, hwritten⟩ =>
      refine ⟨⟨nofun, fun h => absurd h hread⟩, hlate, ?_⟩
      rintro _ ⟨⟩
      exact ⟨hpath, hwritten⟩

end FileMachine

/-! ## Series -/

def writeEach : List Delivery → Program Log
  | [] => done []
  | d :: ds => d.write.bind fun result => (writeEach ds).bind fun log => done ((d, result) :: log)

/-- The calls of a log lead a machine from one state to another. -/
inductive Series {σ : Type} (m : FileMachine σ) : σ → Log → σ → Prop
  | nil {s : σ} : Series m s [] s
  | cons {d : Delivery} {s s₁ s' : σ} (h : d.write.run m.toMachine s = (result, s₁))
      (hrest : Series m s₁ log s') : Series m s ((d, result) :: log) s'

section
variable {σ : Type} {m : FileMachine σ} {s s' : σ} {log before after : Log} {d : Delivery}

theorem run_writeEach_cons (m : FileMachine σ) (d : Delivery) (ds : List Delivery) (s : σ) :
    (writeEach (d :: ds)).run m.toMachine s =
      ((d, (d.write.run m.toMachine s).1) ::
          ((writeEach ds).run m.toMachine (d.write.run m.toMachine s).2).1,
        ((writeEach ds).run m.toMachine (d.write.run m.toMachine s).2).2) := by
  rw [writeEach, run_bind, run_bind, run_done]

theorem series_run (m : FileMachine σ) (ds : List Delivery) (s : σ) :
    Series m s ((writeEach ds).run m.toMachine s).1 ((writeEach ds).run m.toMachine s).2 ∧
      ((writeEach ds).run m.toMachine s).1.map Prod.fst = ds := by
  induction ds generalizing s with
  | nil => exact ⟨.nil, rfl⟩
  | cons d ds ih =>
    rw [run_writeEach_cons]
    obtain ⟨hseries, hcalls⟩ := ih (d.write.run m.toMachine s).2
    exact ⟨.cons rfl hseries, congrArg (d :: ·) hcalls⟩

namespace Series

theorem run_eq (h : Series m s log s') :
    (writeEach (log.map Prod.fst)).run m.toMachine s = (log, s') := by
  induction h with
  | nil => rfl
  | cons h _ ih => rw [List.map_cons, run_writeEach_cons, h, ih]

theorem split (h : Series m s (before ++ after) s') :
    ∃ s₁, Series m s before s₁ ∧ Series m s₁ after s' := by
  induction before generalizing s with
  | nil => exact ⟨s, .nil, h⟩
  | cons call before ih =>
    cases h with
    | cons hcall hrest =>
      obtain ⟨s₁, hbefore, hafter⟩ := ih hrest
      exact ⟨s₁, .cons hcall hbefore, hafter⟩

theorem at_call (h : Series m s (before ++ (d, result) :: after) s') :
    ∃ s₁ s₂, Series m s before s₁ ∧ d.write.run m.toMachine s₁ = (result, s₂) ∧
      Series m s₂ after s' := by
  obtain ⟨s₁, hbefore, ⟨⟩⟩ := h.split
  exact ⟨s₁, _, hbefore, ‹_›, ‹_›⟩

theorem here_eq (h : Series m s log s') : m.here s' = m.here s := by
  have hrun := m.here_run (writeEach (log.map Prod.fst)) s
  rwa [h.run_eq] at hrun

theorem grown (h : Series m s log s') :
    Grown (m.here s) (log.flatMap Delivery.touched) (m.tree s) (m.tree s') := by
  induction h with
  | nil => exact .refl
  | @cons _ _ d s s₁ s' h _ ih =>
    obtain ⟨-, hgrown, -⟩ := m.run_write d s
    have hhere := m.here_run d.write s
    rw [h] at hgrown hhere
    rw [hhere] at ih
    exact hgrown.append ih

/-- What a file holds that has been written to, it holds until it is written to again. -/
theorem holds (h : Series m s log s')
    (hread : (m.tree s).read (m.here s) d.target = .ok bytes) :
    ∃ place, (m.tree s').locate (m.here s) d.target = .ok place ∧
      ((∀ e w, (e, .ok w) ∈ log → (m.tree s').locate (m.here s) e.target ≠ .ok place) →
        ∃ runnable, (m.tree s').get? place = some (.file bytes runnable)) := by
  obtain ⟨place, runnable, hplace, hfile⟩ := of_read hread
  have hlocate := locate_mono h.grown.keeps hplace
  refine ⟨place, hlocate, fun hlast => ⟨runnable, h.grown.get?_file hfile ?_⟩⟩
  intro path hpath
  rcases Delivery.mem_touched hpath with ⟨e, result, -, rfl⟩ | ⟨e, w, hcall, rfl⟩
  · exact Delivery.locate_temporary_ne hlocate
  · exact hlast e w hcall

/-- A call that has succeeded has put the artifact where its target still leads, and there it stays
up to the next such call. -/
theorem lands (h : Series m s (before ++ (d, .ok w) :: after) s') :
    ∃ place, (m.tree s').locate (m.here s) d.target = .ok place ∧
      ((∀ e w', (e, .ok w') ∈ after → (m.tree s').locate (m.here s) e.target ≠ .ok place) →
        ∃ runnable, (m.tree s').get? place = some (.file d.artifact.body runnable)) := by
  obtain ⟨s₁, s₂, hbefore, hcall, hafter⟩ := h.at_call
  obtain ⟨-, -, hread⟩ := m.run_write d s₁
  have hhere := m.here_run d.write s₁
  rw [hcall] at hread hhere
  obtain ⟨-, hwritten⟩ := hread w rfl
  rw [← hhere] at hwritten
  have hholds := hafter.holds hwritten
  rwa [hhere, hbefore.here_eq] at hholds

theorem unchanged_iff (h : Series m s (before ++ (d, result) :: after) s') :
    (∃ path, result = .ok (.unchanged path)) ↔
      (m.tree ((writeEach (before.map Prod.fst)).run m.toMachine s).2).read (m.here s) d.target =
        .ok d.artifact.body := by
  obtain ⟨s₁, s₂, hbefore, hcall, -⟩ := h.at_call
  obtain ⟨hunchanged, -, -⟩ := m.run_write d s₁
  rw [hcall, hbefore.here_eq] at hunchanged
  rwa [hbefore.run_eq]

/-- The last call that has succeeded has nothing left to do. -/
theorem again (h : Series m s (before ++ (d, .ok w) :: after) s')
    (hfailed : ∀ call ∈ after, ∃ e, call.2 = .error e) :
    (d.write.run m.toMachine s').1 = .ok (.unchanged d.target) ∧
      m.tree (d.write.run m.toMachine s').2 = m.tree s' := by
  obtain ⟨place, hplace, hholds⟩ := h.lands
  obtain ⟨runnable, hfile⟩ := hholds fun e w' he => by
    obtain ⟨fault, hfault⟩ := hfailed _ he
    cases hfault
  have hread := read_eq_ok.2 ⟨place, runnable, hplace, hfile⟩
  rw [← h.here_eq] at hread
  rcases m.run_write_cases d s' with ⟨-, hresult⟩ | ⟨hnot, -⟩
  · exact hresult
  · exact absurd hread hnot

end Series

/-- Behind any series of writes of sources, summaries and pdfs, in a tree without links, each file
that has been written to holds the last artifact that has come to it, and the others hold what they
held, but for temporary files. A call finds its target unchanged exactly if it holds the artifact at
that moment, and the last call that has succeeded can be repeated to no effect. The temporary file
of a call is named by its target and a longer ending just if the path of the target is text. -/
theorem Series.settles (m : FileMachine σ) (s : σ) (ds : List Delivery) :
    let run := (writeEach ds).run m.toMachine s
    let log := run.1
    let final := m.tree run.2
    let locates (path : Text) (place : Place) := final.locate (m.here s) path = .ok place
    log.map Prod.fst = ds ∧
    (∀ before d w after, log = before ++ (d, .ok w) :: after →
      ∃ place, locates d.target place ∧
        ((∀ e w', (e, .ok w') ∈ after → ¬locates e.target place) →
          ∃ runnable, final.get? place = some (.file d.artifact.body runnable))) ∧
    (∀ place, (∀ d w, (d, .ok w) ∈ log → ¬locates d.target place) →
      (∀ d ∈ ds, ¬locates d.temporary place) →
      final.get? place = (m.tree s).get? place ∨
        (m.tree s).get? place = none ∧ final.get? place = some .directory) ∧
    (∀ before d result after, log = before ++ (d, result) :: after →
      let reached := ((writeEach (before.map Prod.fst)).run m.toMachine s).2
      ((∃ path, result = .ok (.unchanged path)) ↔
        (m.tree reached).read (m.here s) d.target = .ok d.artifact.body)) ∧
    (∀ before d w after, log = before ++ (d, .ok w) :: after →
      (∀ call ∈ after, ∃ e, call.2 = .error e) →
      let again := d.write.run m.toMachine run.2
      again.1 = .ok (.unchanged d.target) ∧ m.tree again.2 = final) ∧
    ∀ d : Delivery, d.temporary = d.target ++ ".vitae.tmp".toList ↔ ∃ t, d.target = Path.ofText t := by
  obtain ⟨hseries, hcalls⟩ := series_run m ds s
  generalize (writeEach ds).run m.toMachine s = ended at hseries hcalls
  obtain ⟨log, s'⟩ := ended
  intro run log final locates
  refine ⟨hcalls, ?_, fun place htargets htemps => ?_, ?_, ?_, fun d => Artifact.temporary_eq_iff⟩
  · intro before d w after hlog
    exact (hlog ▸ hseries : Series m s (before ++ (d, .ok w) :: after) s').lands
  · refine hseries.grown.others place fun path hpath => ?_
    rcases Delivery.mem_touched hpath with ⟨d, result, hcall, rfl⟩ | ⟨d, w, hcall, rfl⟩
    · exact htemps d (hcalls ▸ List.mem_map_of_mem hcall)
    · exact htargets d w hcall
  · intro before d result after hlog
    exact (hlog ▸ hseries : Series m s (before ++ (d, result) :: after) s').unchanged_iff
  · intro before d w after hlog hfailed
    exact (hlog ▸ hseries : Series m s (before ++ (d, .ok w) :: after) s').again hfailed

end

/-- Two versions of a pdf for one directory, and a note for a directory that is none. -/
def drafts : List Delivery := [⟨⟨"cv", .pdf [10]⟩, "out"⟩, ⟨⟨"cv", .pdf [20]⟩, "./out/../out/"⟩,
  ⟨⟨"note", .source "x"⟩, "out/cv.pdf"⟩]

/-- The second version stays. -/
theorem Series.settles_drafts :
    let run := (writeEach drafts).run Host.machine {}
    run.1.map (fun call => call.2.isOk) = [true, true, false] ∧
      ∃ place runnable, run.2.tree.locate [] "./out/../out/cv.pdf" = .ok place ∧
        run.2.tree.get? place = some (.file [20] runnable) := by
  intro run
  have hlog : run.1 = [(drafts[0], .ok (.fresh "out/cv.pdf"))] ++
      (drafts[1], .ok (.fresh "./out/../out/cv.pdf")) ::
      [(drafts[2], .error ⟨"out/cv.pdf"⟩)] := by decide +kernel
  obtain ⟨-, hlands, -⟩ := Series.settles Host.fileMachine {} drafts
  obtain ⟨place, hplace, hfile⟩ := hlands _ _ _ _ hlog
  obtain ⟨runnable, hfile⟩ := hfile (by simp)
  exact ⟨by rw [hlog]; rfl, place, runnable, hplace, hfile⟩

/-- Two versions of a pdf for a directory whose name is not text. -/
def misnamed : List Delivery :=
  let dir : Text := "out".toList ++ [Path.stray 0xFF]
  [⟨⟨"cv", .pdf [10]⟩, dir⟩, ⟨⟨"cv", .pdf [20]⟩, dir⟩]

/-- A file goes that no target names, with or without the longer ending. -/
theorem Series.settles_misnamed :
    let kept : Place := ["out\uFFFD", "cv.pdf.vitae.tmp"]
    let h : Host := { tree := (FileTree.put ∅ ["out\uFFFD"] .directory).put kept (.file [1] false) }
    let final := ((writeEach misnamed).run Host.machine h).2.tree
    (∀ d ∈ misnamed, ∀ ending ∈ [[], ".vitae.tmp".toList],
        final.locate [] (d.target ++ ending) ≠ .ok kept) ∧
      h.tree.get? kept = some (.file [1] false) ∧ final.get? kept = none := by
  decide +kernel

end Curriculum
