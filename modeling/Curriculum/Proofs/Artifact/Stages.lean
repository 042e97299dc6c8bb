import Curriculum.Artifact.Write
import Curriculum.Proofs.Files.Locate
import Curriculum.Proofs.Files.Shown

/-! # Stages of writing

Writing to a target has two stages: up to one step the target is not touched, and with that step it
is replaced. What is to hold of the tree in each of them only has to be kept by the single
operations (`Artifact.Stages`); it then holds at every point of every run, and the result tells which
stage the run has come to (`Artifact.safe_overwrite`). -/

namespace Curriculum

namespace FileTree

variable {t t' : FileTree} {here place : Place} {path source target : Text} {bytes more : Bytes}

/-! ## Operations on a file -/

theorem read_eq_ok : t.read here path = .ok bytes ↔
    ∃ place runnable, t.locate here path = .ok place ∧
      t.get? place = some (.file bytes runnable) := by
  refine ⟨of_read, ?_⟩
  rintro ⟨place, runnable, hplace, hfile⟩
  unfold read
  rw [hplace]
  dsimp only [bind, Except.bind]
  rw [hfile]

/-- An entry that is put where no directory is can be read from there. -/
theorem read_put (hplace : t.locate here path = .ok place) (hfree : t.get? place ≠ some .directory)
    (bytes : Bytes) (runnable : Bool) :
    (t.put place (.file bytes runnable)).read here path = .ok bytes := by
  have hroot : place ≠ [] := ne_nil_of_get? hfree
  refine read_eq_ok.2 ⟨place, runnable, ?_, ?_⟩
  · exact locate_mono (keepsDirectories_put hroot _ hfree) hplace
  · rw [get?_put t _ hroot, if_pos rfl]

/-- A file is not created where a directory is. -/
theorem put_of_create (h : t.create here path = .ok t') :
    ∃ place runnable, t.locate here path = .ok place ∧ t.get? place ≠ some .directory ∧
      t' = t.put place (.file [] runnable) := by
  obtain ⟨place, runnable, hplace, hentry, rfl⟩ := of_create h
  refine ⟨place, runnable, hplace, fun hdirectory => ?_, rfl⟩
  obtain ⟨content, hfile⟩ := hentry _ hdirectory
  cases hfile

theorem put_of_append (h : t.append here path more = .ok t') :
    ∃ place entry, t.locate here path = .ok place ∧ t.get? place ≠ some .directory ∧
      t' = t.put place entry := by
  obtain ⟨place, content, runnable, hplace, hfile, rfl⟩ := of_append h
  exact ⟨place, _, hplace, by simp [hfile], rfl⟩

theorem erase_of_removeFile (h : t.removeFile here path = .ok t') :
    ∃ place, t.locate here path = .ok place ∧ t.get? place ≠ some .directory ∧
      t' = t.erase place := by
  obtain ⟨place, entry, hplace, hentry, hdirectory, rfl⟩ := of_removeFile h
  exact ⟨place, hplace, by simpa [hentry] using hdirectory, rfl⟩

theorem read_of_create (h : t.create here path = .ok t') : t'.read here path = .ok [] := by
  obtain ⟨place, runnable, hplace, hfree, rfl⟩ := put_of_create h
  exact read_put hplace hfree [] runnable

theorem read_of_append (hread : t.read here path = .ok bytes)
    (h : t.append here path more = .ok t') : t'.read here path = .ok (bytes ++ more) := by
  obtain ⟨place, runnable, hplace, hfile⟩ := of_read hread
  obtain ⟨other, content, runnable', hother, hcontent, rfl⟩ := of_append h
  cases hplace.symm.trans hother
  cases hfile.symm.trans hcontent
  exact read_put hplace (by simp [hfile]) _ _

theorem read_of_rename (hread : t.read here source = .ok bytes)
    (h : t.rename here source target = .ok t') : t'.read here target = .ok bytes := by
  obtain ⟨place, runnable, hplace, hfile⟩ := of_read hread
  obtain ⟨old, new, entry, hold, hnew, hentry, hmoved, hfree, rfl⟩ := of_rename h
  cases hplace.symm.trans hold
  cases hfile.symm.trans hentry
  split
  · next heq =>
    subst heq
    exact read_eq_ok.2 ⟨place, runnable, hnew, hfile⟩
  · have herased : t.get? place ≠ some .directory := by simp [hfile]
    have hroot : place ≠ [] := ne_nil_of_get? herased
    refine read_put (locate_mono (keepsDirectories_erase hroot herased) hnew) ?_ bytes runnable
    rw [get?_erase t hroot]
    split
    · nofun
    · exact hfree

end FileTree

/-! ## Stages -/

namespace Artifact

open Program

theorem temporary_eq_iff {path : Text} :
    temporary path = path ++ ".vitae.tmp".toList ↔ ∃ t, path = Path.ofText t := by
  rw [temporary, List.append_left_inj, Path.shown_eq_iff]

/-- A path is above another one as its parent, or as the parent of one above it. -/
def Above (path above : Text) : Prop :=
  Relation.TransGen (fun p q => Path.parent? p = some q) path above

/-- What holds of the tree before the target is replaced, and what holds once it may be. -/
structure Stages (here : Place) (target : Text) (bytes : Bytes) (early late : FileTree → Prop) :
    Prop where
  makeDirectory {above : Text} {t t' : FileTree} (h : early t) (habove : Above target above)
    (hne : above ≠ []) (hmake : t.makeDirectory here above = .ok t') : early t'
  create {t t' : FileTree} (h : early t)
    (hcreate : t.create here (temporary target) = .ok t') : early t'
  append {t t' : FileTree} {more : Bytes} (h : early t)
    (happend : t.append here (temporary target) more = .ok t') : early t'
  removeFile {t t' : FileTree} (h : early t)
    (hremove : t.removeFile here (temporary target) = .ok t') : early t'
  rename {t t' : FileTree} (h : early t) (hread : t.read here (temporary target) = .ok bytes)
    (hrename : t.rename here (temporary target) target = .ok t') : late t'
  late_of_early {t : FileTree} (h : early t) : late t

/-- What a result says of the tree. -/
def Lands (here : Place) (target : Text) (bytes : Bytes) (early : FileTree → Prop)
    (result : Except WriteError Written) (t : FileTree) : Prop :=
  match result with
  | .ok (.fresh path) => path = target ∧ t.read here target = .ok bytes
  | .ok (.unchanged _) => False
  | .error _ => early t

section
variable {here : Place} {target path : Text} {early : FileTree → Prop} {t : FileTree}

theorem safe_acceptDirectory (h : early t) (path : Text) (fault : Fault) :
    (acceptDirectory path fault).Safe here early (fun _ _ => True) t := by
  refine ⟨h, fun present t' hcall => ?_⟩
  obtain ⟨-, rfl⟩ := hcall
  exact ⟨h, trivial⟩

variable (hmake : ∀ {above : Text} {t t' : FileTree}, early t → Above target above → above ≠ [] →
  t.makeDirectory here above = .ok t' → early t') (h : early t)
include hmake h

/-- What new directories above the target keep holds at every point of making them. -/
theorem safe_makeDirectories (habove : Above target path) :
    (makeDirectories path).Safe here early (fun _ _ => True) t := by
  fun_induction makeDirectories path generalizing t with
  | case1 => exact ⟨h, trivial⟩
  | case2 path hpath ih =>
    refine ⟨h, fun reply t' hcall => ?_⟩
    cases reply with
    | ok => exact ⟨hmake h habove hpath hcall, trivial⟩
    | error fault =>
      obtain rfl : t' = t := hcall
      cases fault with
      | missing =>
        dsimp only
        split
        · exact ⟨h, trivial⟩
        · next above hparent =>
          -- the directory is tried again behind the one above it
          refine (ih above hparent h (habove.tail hparent)).bind (fun _ => id) fun made t₁ h₁ _ => ?_
          cases made with
          | error fault => exact ⟨h₁, trivial⟩
          | ok =>
            refine ⟨h₁, fun reply t₂ hcall => ?_⟩
            cases reply with
            | ok => exact ⟨hmake h₁ habove hpath hcall, trivial⟩
            | error fault =>
              obtain rfl : t₂ = t₁ := hcall
              exact safe_acceptDirectory h₁ path fault
      | _ => exact safe_acceptDirectory h path _

theorem safe_prepare : (prepare target).Safe here early (fun _ _ => True) t := by
  unfold prepare
  split
  · exact ⟨h, trivial⟩
  · next above hparent =>
    refine (safe_makeDirectories hmake h (.single hparent)).bind (fun _ => id) ?_
    exact fun made t₁ h₁ _ => ⟨h₁, trivial⟩

end

section
variable {here : Place} {target : Text} {bytes : Bytes} {early late : FileTree → Prop}
  {t : FileTree} (hstages : Stages here target bytes early late) (h : early t)
include hstages h

/-- What has been written so far is in the temporary file, and the end of it is all of the bytes. -/
theorem safe_writeAll {written : Bytes} (hread : t.read here (temporary target) = .ok written)
    (more : Bytes) :
    (writeAll (temporary target) more).Safe here early
      (fun result t' => result = .ok () →
        t'.read here (temporary target) = .ok (written ++ more)) t := by
  generalize hpath : temporary target = path at hread ⊢
  fun_induction writeAll path more generalizing t written with
  | case1 => exact ⟨h, fun _ => by rwa [List.append_nil]⟩
  | case2 byte bytes ih =>
    subst hpath
    refine ⟨h, fun reply t' hcall => ?_⟩
    match reply, hcall with
    | .error fault, .inl heq =>
      subst heq
      exact ⟨h, nofun⟩
    | .error fault, .inr ⟨taken, happend⟩ => exact ⟨hstages.append h happend, nofun⟩
    | .ok 0, ⟨_, happend⟩ => exact ⟨hstages.append h happend, nofun⟩
    | .ok (taken + 1), ⟨_, happend⟩ =>
      have hnext := ih taken (hstages.append h happend) (FileTree.read_of_append hread happend)
      rwa [List.append_assoc, List.take_succ_cons, List.cons_append,
        List.take_append_drop] at hnext

theorem safe_writeFile :
    (writeFile (temporary target) bytes).Safe here early
      (fun result t' => result = .ok () → t'.read here (temporary target) = .ok bytes) t := by
  refine ⟨h, fun reply t' hcall => ?_⟩
  cases reply with
  | error fault =>
    obtain rfl : t' = t := hcall
    exact ⟨h, nofun⟩
  | ok =>
    exact safe_writeAll hstages (hstages.create h hcall) (FileTree.read_of_create hcall) bytes

theorem safe_replace (hread : t.read here (temporary target) = .ok bytes) :
    (replace target).Safe here late (Lands here target bytes early) t := by
  refine ⟨hstages.late_of_early h, fun reply t' hcall => ?_⟩
  cases reply with
  | ok =>
    have hlate := hstages.rename h hread hcall
    exact ⟨hlate, rfl, FileTree.read_of_rename hread hcall⟩
  | error fault =>
    obtain rfl : t' = t := hcall
    refine ⟨hstages.late_of_early h, fun reply t'' hcall => ?_⟩
    cases reply with
    | error fault =>
      obtain rfl : t'' = t' := hcall
      exact ⟨hstages.late_of_early h, h⟩
    | ok =>
      have hremoved := hstages.removeFile h hcall
      exact ⟨hstages.late_of_early hremoved, hremoved⟩

/-- From a target that is not read as what it should be. -/
theorem safe_overwrite :
    (overwrite target bytes).Safe here late (Lands here target bytes early) t := by
  refine (safe_prepare hstages.makeDirectory h).bind (fun _ => hstages.late_of_early) fun made t₁ h₁ _ => ?_
  cases made with
  | error e => exact ⟨hstages.late_of_early h₁, h₁⟩
  | ok =>
    refine (safe_writeFile hstages h₁).bind (fun _ => hstages.late_of_early) ?_
    intro stored t₂ h₂ hread
    cases stored with
    | error fault => exact ⟨hstages.late_of_early h₂, h₂⟩
    | ok => exact safe_replace hstages h₂ (hread rfl)

end

end Artifact

end Curriculum
