import Curriculum.Proofs.Artifact.Stages

/-! # Atomic writing

An artifact never shows in part. Up to the last step the target is what it was, and only directories
above it and a temporary file come (`Prepared`); that step puts the whole artifact there. So wherever
a run of the writer stands, the target is as before or holds all of the artifact, and nothing else
has changed but the temporary file (`Artifact.write_atomic`). That file is the neighbour of the target
where the directory is text; elsewhere another directory may hold it (`write_atomic_lossy`).

The trees have no links, and an artifact has the file name of its format. -/

namespace Curriculum

/-- Nothing has changed but the entry at `temp`, and new directories are above the target. -/
def Prepared (target temp : Place) (t t' : FileTree) : Prop :=
  ∀ place, place ≠ temp → t'.get? place = t.get? place ∨
    place <+: target ∧ place ≠ target ∧ t.get? place = none ∧ t'.get? place = some .directory

/-- The target is as before or holds all of the bytes, and nothing else has changed but the entry at
`temp` and that there are new directories. -/
structure Intact (target temp : Place) (bytes : Bytes) (t t' : FileTree) : Prop where
  whole : t'.get? target = t.get? target ∨ ∃ runnable, t'.get? target = some (.file bytes runnable)
  others : ∀ place, place ≠ target → place ≠ temp → t'.get? place = t.get? place ∨
    t.get? place = none ∧ t'.get? place = some .directory

section
variable {target temp place here : Place} {t t' : FileTree} {path : Text}

theorem Prepared.refl : Prepared target temp t t :=
  fun _ _ => .inl rfl

theorem Prepared.target_eq (h : Prepared target temp t t') (hne : target ≠ temp) :
    t'.get? target = t.get? target := by
  rcases h target hne with heq | ⟨-, hself, -⟩
  · exact heq
  · exact absurd rfl hself

theorem Prepared.intact (h : Prepared target temp t t') (hne : target ≠ temp) :
    Intact target temp bytes t t' where
  whole := .inl (h.target_eq hne)
  others place _ htemp := (h place htemp).imp_right fun hnew => hnew.2.2

/-- Whatever becomes of the temporary file counts for nothing. -/
theorem Prepared.of_temp (h : Prepared target temp t₀ t)
    (hothers : ∀ place, place ≠ temp → t'.get? place = t.get? place) :
    Prepared target temp t₀ t' := by
  intro place hplace
  rw [hothers place hplace]
  exact h place hplace

theorem Prepared.put_temp (h : Prepared target temp t₀ t) (htemp : temp ≠ []) (entry : Entry) :
    Prepared target temp t₀ (t.put temp entry) :=
  h.of_temp fun place hplace => by rw [FileTree.get?_put t entry htemp, if_neg hplace]

theorem Prepared.erase_temp (h : Prepared target temp t₀ t) (htemp : temp ≠ []) :
    Prepared target temp t₀ (t.erase temp) :=
  h.of_temp fun place hplace => by rw [FileTree.get?_erase t htemp, if_neg hplace]

/-- The step that puts the artifact in its place. -/
theorem Prepared.replace (h : Prepared target temp t₀ t) (htarget : target ≠ [])
    (htemp : temp ≠ []) (bytes : Bytes) (runnable : Bool) :
    Intact target temp bytes t₀ ((t.erase temp).put target (.file bytes runnable)) where
  whole := .inr ⟨runnable, by rw [FileTree.get?_put _ _ htarget, if_pos rfl]⟩
  others place hplace hother := by
    rw [FileTree.get?_put _ _ htarget, if_neg hplace, FileTree.get?_erase _ htemp, if_neg hother]
    exact (h place hother).imp_right fun hnew => hnew.2.2

theorem Prepared.put_above (h : Prepared target temp t₀ t) (hplace : place <+: target)
    (hne : place ≠ target) (hfree : t.get? place = none) :
    Prepared target temp t₀ (t.put place .directory) := by
  have hroot : place ≠ [] := FileTree.ne_nil_of_get? (t := t) (by simp [hfree])
  intro other hother
  rw [FileTree.get?_put t .directory hroot]
  split
  · next heq =>
    subst heq
    refine .inr ⟨hplace, hne, ?_, rfl⟩
    rcases h other hother with heq | ⟨-, -, hnone, -⟩
    · rw [← heq, hfree]
    · exact hnone
  · exact h other hother

/-! ## Stages of the writer -/

/-- A path to a directory above the target. The empty path stands for one that is there. -/
def LeadsAbove (target here : Place) (path : Text) : Prop :=
  path ≠ [] → Path.Descends path ∧ Path.place here path <+: target ∧
    (Path.place here path).length < target.length

theorem leadsAbove_of_parent? (hparent : Path.parent? path = some above)
    (hpath : Path.Descends path) : LeadsAbove (Path.place here path) here above := by
  intro habove
  obtain ⟨last, hplace⟩ := Path.place_of_parent? here hparent habove
  exact ⟨Path.descends_of_parent? hparent habove hpath, by simp [hplace], by simp [hplace]⟩

theorem LeadsAbove.parent (h : LeadsAbove target here path)
    (hparent : Path.parent? path = some above) : LeadsAbove target here above := by
  intro habove
  have hpath : path ≠ [] := by
    rintro rfl
    cases hparent
  obtain ⟨hdescends, hbelow, hlength⟩ := h hpath
  obtain ⟨hdescends', hbelow', hlength'⟩ := leadsAbove_of_parent? hparent hdescends habove
  exact ⟨hdescends', hbelow'.trans hbelow, Nat.lt_trans hlength' hlength⟩

theorem leadsAbove_of_above (h : Artifact.Above path above) (hpath : Path.Descends path) :
    LeadsAbove (Path.place here path) here above := by
  induction h with
  | single hparent => exact leadsAbove_of_parent? hparent hpath
  | tail _ hparent ih => exact ih.parent hparent

theorem Prepared.makeDirectory (h : Prepared target temp t₀ t) (hpath : path ≠ [])
    (habove : LeadsAbove target here path) (hmake : t.makeDirectory here path = .ok t') :
    Prepared target temp t₀ t' := by
  obtain ⟨place, hplace, hfree, rfl⟩ := FileTree.of_makeDirectory hmake
  obtain ⟨hdescends, hbelow, hlength⟩ := habove hpath
  obtain rfl := FileTree.locate_eq_place hplace hdescends
  exact h.put_above hbelow (ne_of_apply_ne List.length (Nat.ne_of_lt hlength)) hfree

/-- What a result says of the target. -/
def Settled (target : Place) (bytes : Bytes) (t t' : FileTree) : Except WriteError Written → Prop
  | .ok (.fresh _) => ∃ runnable, t'.get? target = some (.file bytes runnable)
  | .ok (.unchanged _) => False
  | .error _ => t'.get? target = t.get? target

section
variable (htarget : Path.Descends path) (htemp : Path.Descends (Artifact.temporary path))
  (hne : Path.place here path ≠ Path.place here (Artifact.temporary path))
include htarget htemp hne

theorem stages_prepared (t₀ : FileTree) (bytes : Bytes) :
    Artifact.Stages here path bytes
      (Prepared (Path.place here path) (Path.place here (Artifact.temporary path)) t₀)
      (Intact (Path.place here path) (Path.place here (Artifact.temporary path)) bytes t₀) where
  makeDirectory h habove hpath hmake :=
    h.makeDirectory hpath (leadsAbove_of_above habove htarget) hmake
  create h hcreate := by
    obtain ⟨place, runnable, hplace, hfree, rfl⟩ := FileTree.put_of_create hcreate
    obtain rfl := FileTree.locate_eq_place hplace htemp
    exact h.put_temp (FileTree.ne_nil_of_get? hfree) _
  append h happend := by
    obtain ⟨place, entry, hplace, hfree, rfl⟩ := FileTree.put_of_append happend
    obtain rfl := FileTree.locate_eq_place hplace htemp
    exact h.put_temp (FileTree.ne_nil_of_get? hfree) entry
  removeFile h hremove := by
    obtain ⟨place, hplace, hfree, rfl⟩ := FileTree.erase_of_removeFile hremove
    obtain rfl := FileTree.locate_eq_place hplace htemp
    exact h.erase_temp (FileTree.ne_nil_of_get? hfree)
  rename {t t'} h hread hrename := by
    obtain ⟨old, new, entry, hold, hnew, hentry, -, hfree, rfl⟩ := FileTree.of_rename hrename
    obtain ⟨place, runnable, hplace, hfile⟩ := FileTree.of_read hread
    cases hplace.symm.trans hold
    cases hentry.symm.trans hfile
    obtain rfl := FileTree.locate_eq_place hold htemp
    obtain rfl := FileTree.locate_eq_place hnew htarget
    rw [if_neg (Ne.symm hne)]
    exact h.replace (FileTree.ne_nil_of_get? hfree)
      (FileTree.ne_nil_of_get? (t := t) (by simp [hfile])) bytes runnable
  late_of_early h := h.intact hne

theorem intact_overwrite (t : FileTree) (bytes : Bytes) :
    (Artifact.overwrite path bytes).Safe here
      (Intact (Path.place here path) (Path.place here (Artifact.temporary path)) bytes t)
      (fun result t' => Settled (Path.place here path) bytes t t' result) t := by
  have hstages := stages_prepared htarget htemp hne t bytes
  refine (Artifact.safe_overwrite hstages .refl).mono (fun _ => id) fun result t' _ hlands => ?_
  match result, hlands with
  | .error e, h => exact h.target_eq hne
  | .ok (.fresh _), ⟨_, hread⟩ =>
    obtain ⟨place, runnable, hplace, hfile⟩ := FileTree.of_read hread
    obtain rfl := FileTree.locate_eq_place hplace htarget
    exact ⟨runnable, hfile⟩

end

end

namespace Artifact

variable {a : Artifact} {dir : Text} {here : Place} {t t' : FileTree}

/-! ## The two places -/

theorem isPlain_temporary (hname : Path.IsPlain name) : Path.IsPlain (temporary name) :=
  Path.isPlain_append (Path.not_mem_shown hname.1) (by decide) (by decide)

theorem isAbsolute_temporary (h : path ≠ []) :
    Path.isAbsolute (temporary path) = Path.isAbsolute path := by
  obtain ⟨c, rest, heq⟩ := List.exists_cons_of_ne_nil (mt Path.shown_nil_iff.1 h)
  rw [← Path.isAbsolute_shown path, temporary, heq]
  rfl

/-- The temporary file is in the directory as that is shown. -/
theorem names_temporary (hname : Path.IsPlain name) (dir : Text) :
    Path.names (temporary (Path.join dir name)) =
      Path.names (Path.shown dir) ++ [temporary name] := by
  have hplain := Path.names_plain (isPlain_temporary hname)
  have hsplit (base : Text) : Path.names (temporary (base ++ '/' :: name)) =
      Path.names (Path.shown base) ++ [temporary name] := by
    rw [temporary, Path.shown_append_cons, List.append_assoc, List.cons_append, ← temporary,
      Path.names_append_cons, hplain]
  rcases Path.join_plain hname dir with ⟨heq, rfl | hlast⟩ | heq
  · rw [heq, List.nil_append, hplain]
    rfl
  · obtain ⟨base, rfl⟩ := List.getLast?_eq_some_iff.1 hlast
    rw [heq, List.append_assoc, List.singleton_append, hsplit, Path.shown_append_cons,
      Path.names_append_cons, Path.shown_nil, Path.names_nil, List.append_nil]
  · rw [heq, hsplit]

theorem place_temporary (hname : Path.IsPlain name) (here : Place) (dir : Text) :
    Path.place here (temporary (Path.join dir name)) =
      Path.place here (Path.shown dir) ++ [temporary name] := by
  have hne : Path.join dir name ≠ [] := by
    rcases Path.join_plain hname dir with ⟨heq, -⟩ | heq <;> simp [heq, hname.2.1]
  rw [Path.place, Path.place, isAbsolute_temporary hne, Path.isAbsolute_join hname,
    names_temporary hname, Path.isAbsolute_shown, List.append_assoc]

section
variable (hname : Path.IsPlain a.filename) (hdir : Path.Descends dir)
include hname hdir

theorem descends_target : Path.Descends (a.target dir) :=
  Path.descends_join (Path.isPlain_ofText hname) hdir

theorem descends_temporary : Path.Descends (temporary (a.target dir)) := by
  have hplain := isPlain_temporary (Path.isPlain_ofText hname)
  rw [Path.Descends, target, names_temporary (Path.isPlain_ofText hname), List.mem_append,
    List.mem_singleton, not_or]
  exact ⟨Path.descends_shown hdir, Ne.symm hplain.2.2.2⟩

omit hdir in
theorem place_target : Path.place here (a.target dir) =
    Path.place here dir ++ [Path.ofText a.filename] :=
  Path.place_join (Path.isPlain_ofText hname) here dir

omit hdir in
theorem place_temporary_target : Path.place here (temporary (a.target dir)) =
    Path.place here (Path.shown dir) ++ [Path.ofText a.filename ++ ".vitae.tmp".toList] := by
  rw [target, place_temporary (Path.isPlain_ofText hname), temporary_eq_iff.2 ⟨_, rfl⟩]

omit hdir in
theorem place_temporary_ne :
    Path.place here (a.target dir) ≠ Path.place here (temporary (a.target dir)) := by
  rw [place_target hname, place_temporary_target hname]
  intro h
  obtain ⟨-, hlast⟩ := List.append_inj' h rfl
  simpa using congrArg List.length (List.singleton_inj.1 hlast)

omit hdir in
/-- The temporary file is beside the target just if all names on the way are text. -/
theorem place_temporary_eq_iff :
    Path.place here (temporary (a.target dir)) =
        Path.place here (a.target dir ++ ".vitae.tmp".toList) ↔
      ∀ name ∈ Path.names dir, ∃ t, name = Path.ofText t := by
  have hbeside : Path.place here (a.target dir ++ ".vitae.tmp".toList) =
      Path.place here dir ++ [Path.ofText a.filename ++ ".vitae.tmp".toList] := by
    have hplain := Path.isPlain_ofText hname
    rw [target, Path.join_append hplain,
      Path.place_join (Path.isPlain_append hplain.1 (by decide) (by decide))]
  rw [place_temporary_target hname, hbeside, List.append_left_inj, Path.place, Path.place,
    Path.isAbsolute_shown, List.append_right_inj, Path.names_shown]
  simp only [← Path.shown_eq_iff]
  exact ⟨fun h name hname => List.map_inj_left.1 (h.trans (List.map_id _).symm) name hname,
    fun h => (List.map_congr_left h).trans (List.map_id _)⟩

/-! ## Runs -/

omit hname hdir in
/-- After the first call the target holds the artifact already, or the writer goes on from the same
files. -/
theorem reaches_write (h : (a.write dir).Reaches here t q t') :
    q = a.write dir ∧ t' = t ∨
      t.read here (a.target dir) = .ok a.body ∧ q = .done (.ok (.unchanged (a.target dir))) ∧
        t' = t ∨
      (overwrite (a.target dir) a.body).Reaches here t q t' := by
  cases h with
  | start => exact .inl ⟨rfl, rfl⟩
  | @step _ _ _ t₁ _ _ reply hcall h =>
    cases reply with
    | error fault =>
      obtain rfl : t₁ = t := hcall
      exact .inr (.inr h)
    | ok bytes =>
      obtain ⟨hread, rfl⟩ := hcall
      dsimp only at h
      split at h
      · next heq =>
        subst heq
        obtain ⟨rfl, rfl⟩ := Program.reaches_done.1 h
        exact .inr (.inl ⟨hread, rfl, rfl⟩)
      · exact .inr (.inr h)

theorem safe_of_reaches_overwrite (h : (overwrite (a.target dir) a.body).Reaches here t q t') :
    q.Safe here
      (Intact (Path.place here (a.target dir)) (Path.place here (temporary (a.target dir))) a.body t)
      (fun result t' => Settled (Path.place here (a.target dir)) a.body t t' result) t' :=
  (intact_overwrite (descends_target hname hdir) (descends_temporary hname hdir)
    (place_temporary_ne hname) t a.body).of_reaches h

theorem intact_write (h : (a.write dir).Reaches here t q t') :
    Intact (Path.place here (a.target dir)) (Path.place here (temporary (a.target dir))) a.body t t' := by
  rcases reaches_write h with ⟨-, rfl⟩ | ⟨-, -, rfl⟩ | h
  · exact Prepared.refl.intact (place_temporary_ne hname)
  · exact Prepared.refl.intact (place_temporary_ne hname)
  · exact (safe_of_reaches_overwrite hname hdir h).now

theorem settled_write (h : (a.write dir).Reaches here t (.done result) t')
    (hresult : ∀ path, result ≠ .ok (.unchanged path)) :
    Settled (Path.place here (a.target dir)) a.body t t' result := by
  rcases reaches_write h with ⟨hstart, -⟩ | ⟨-, hdone, -⟩ | h
  · cases hstart
  · cases hdone
    exact absurd rfl (hresult _)
  · exact (safe_of_reaches_overwrite hname hdir h).2

/-- A run that ends with an unchanged target has changed nothing at any point. -/
theorem eq_of_reaches_unchanged (h : (a.write dir).Reaches here t q t')
    (hend : q.Reaches here t' (.done (.ok (.unchanged path))) t'') :
    t' = t ∧ t'' = t ∧ t.read here (a.target dir) = .ok a.body := by
  have hover : ¬(overwrite (a.target dir) a.body).Reaches here t (.done (.ok (.unchanged path))) t'' :=
    fun hover => (safe_of_reaches_overwrite hname hdir hover).2
  rcases reaches_write h with ⟨rfl, rfl⟩ | ⟨hread, rfl, rfl⟩ | h
  · rcases reaches_write hend with ⟨hstart, -⟩ | ⟨hread, -, rfl⟩ | hend
    · cases hstart
    · exact ⟨rfl, rfl, hread⟩
    · exact absurd hend hover
  · obtain ⟨-, rfl⟩ := Program.reaches_done.1 hend
    exact ⟨rfl, rfl, hread⟩
  · exact absurd (h.trans hend) hover

/-- In a tree without links, wherever a run that writes a source, a summary or a pdf stands, goes
on, fails or is cut off, the target is as it was before or holds all of the artifact, and nothing
else has changed but the temporary file and that there are new directories. With an error the target
is as it was, and where it holds the artifact already nothing ever changes. The temporary file has
the name of the target and a longer ending just if the names of all directories on the way are text.
-/
theorem write_atomic (h : (a.write dir).Reaches here t q t') :
    let target := Path.place here (a.target dir)
    let temp := Path.place here (temporary (a.target dir))
    (t'.get? target = t.get? target ∨ ∃ runnable, t'.get? target = some (.file a.body runnable)) ∧
    (∀ e, q = .done (.error e) → t'.get? target = t.get? target) ∧
    (∀ path, q = .done (.ok (.fresh path)) →
      ∃ runnable, t'.get? target = some (.file a.body runnable)) ∧
    (∀ path t'', q.Reaches here t' (.done (.ok (.unchanged path))) t'' →
      t' = t ∧ t'' = t ∧ ∃ runnable, t.get? target = some (.file a.body runnable)) ∧
    (∀ place, place ≠ target → place ≠ temp → t'.get? place = t.get? place ∨
      t.get? place = none ∧ t'.get? place = some .directory) ∧
    (temp = Path.place here (a.target dir ++ ".vitae.tmp".toList) ↔
      ∀ name ∈ Path.names dir, ∃ t, name = Path.ofText t) := by
  intro target temp
  have hintact := intact_write hname hdir h
  refine ⟨hintact.whole, ?_, ?_, fun path t'' hend => ?_, hintact.others,
    place_temporary_eq_iff hname⟩
  · rintro e rfl
    exact settled_write hname hdir h nofun
  · rintro path rfl
    exact settled_write hname hdir h nofun
  · obtain ⟨rfl, rfl, hread⟩ := eq_of_reaches_unchanged hname hdir h hend
    obtain ⟨place, runnable, hplace, hfile⟩ := FileTree.of_read hread
    obtain rfl := FileTree.locate_eq_place hplace (descends_target hname hdir)
    exact ⟨rfl, rfl, runnable, hfile⟩

end

/-- A directory with an old pdf in it. -/
def shelf : FileTree :=
  (FileTree.put ∅ ["out"] .directory).put ["out", "cv.pdf"] (.file [1] false)

/-- A run that is cut off when two of three bytes are written leaves the old pdf. -/
theorem write_atomic_cut :
    let a : Artifact := ⟨"cv", .pdf [10, 20, 30]⟩
    let target : Place := ["out", "cv.pdf"]
    let temp : Place := ["out", "cv.pdf.vitae.tmp"]
    Path.IsPlain a.filename ∧ Path.Descends "out" ∧
      ∃ q t', (a.write "out").Reaches [] shelf q t' ∧
        t'.get? temp = some (.file [10, 20] false) ∧
        (t'.get? target = shelf.get? target ∨
          ∃ runnable, t'.get? target = some (.file a.body runnable)) ∧
        ∀ place, place ≠ target → place ≠ temp → t'.get? place = shelf.get? place ∨
          shelf.get? place = none ∧ t'.get? place = some .directory := by
  intro a target temp
  have hname : Path.IsPlain a.filename := by decide
  have hdir : Path.Descends "out" := by decide
  let created := shelf.put temp (.file [] false)
  let cut := created.put temp (.file [10, 20] false)
  have happend : ∀ rest : Except Fault Unit → Program (Except WriteError Written),
      ((Program.writeAll "out/cv.pdf.vitae.tmp" [10, 20, 30]).bind rest).Reaches [] created
        ((Program.writeAll "out/cv.pdf.vitae.tmp" [30]).bind rest) cut := by
    intro rest
    rw [Program.writeAll, Program.ask_bind]
    exact .step (Except.ok 2) ⟨by decide, rfl⟩ .start
  obtain ⟨q, hoverwrite⟩ : ∃ q, (overwrite "out/cv.pdf" [10, 20, 30]).Reaches [] shelf q cut := by
    have hparent : Path.parent? "out/cv.pdf" = some ("out" : Text) := by decide
    rw [overwrite, prepare, hparent]
    dsimp only
    rw [Program.makeDirectories, if_neg (by decide)]
    exact ⟨_, .step (Except.error .occupied) rfl
      (.step true ⟨fun _ => rfl, rfl⟩ (.step (Except.ok ()) rfl (happend _)))⟩
  have hrun : (a.write "out").Reaches [] shelf q cut := .step (Except.ok [1]) ⟨rfl, rfl⟩ hoverwrite
  obtain ⟨hwhole, -, -, -, hothers, -⟩ := write_atomic hname hdir hrun
  exact ⟨hname, hdir, q, cut, hrun, rfl, hwhole, hothers⟩

/-- Where a directory is not text, a file goes that is neither the target nor its neighbour. -/
theorem write_atomic_lossy :
    let a : Artifact := ⟨"cv", .pdf [10]⟩
    let dir : Text := "out".toList ++ [Path.stray 0xFF]
    let kept : Place := ["out\uFFFD", "cv.pdf.vitae.tmp"]
    let h : Host := { tree := (FileTree.put ∅ ["out\uFFFD"] .directory).put kept (.file [1] false) }
    let after := ((a.write dir).run Host.machine h).2.tree
    Path.IsPlain a.filename ∧ Path.Descends dir ∧ kept ≠ Path.place [] (a.target dir) ∧
      kept ≠ Path.place [] (a.target dir ++ ".vitae.tmp".toList) ∧
      h.tree.get? kept = some (.file [1] false) ∧ after.get? kept = none := by
  decide +kernel

end Artifact

end Curriculum
