import Curriculum.Proofs.Files.Place
import Curriculum.Proofs.Files.Reach

/-! # Where paths lead as a tree grows

A walk goes through directories only, so where a path leads stays the same as long as no directory
goes away (`FileTree.locate_mono`). The last name of a path is the last name of the place that it
leads to, and what is joined to a directory is a child of it (`Path.namesChild_join`). -/

namespace Curriculum

namespace FileTree

variable {t t' t'' : FileTree} {here start place : Place} {path name : Text} {steps : List Text}

/-- No directory of the first tree is missing in the second one. -/
def KeepsDirectories (t t' : FileTree) : Prop :=
  ∀ place, t.get? place = some .directory → t'.get? place = some .directory

theorem KeepsDirectories.refl : t.KeepsDirectories t := fun _ h => h

theorem KeepsDirectories.trans (h : t.KeepsDirectories t') (h' : t'.KeepsDirectories t'') :
    t.KeepsDirectories t'' := fun place hplace => h' place (h place hplace)

theorem keepsDirectories_put (hroot : place ≠ []) (entry : Entry)
    (hfree : t.get? place ≠ some .directory) : t.KeepsDirectories (t.put place entry) := by
  intro other hother
  have hne : other ≠ place := by
    rintro rfl
    exact hfree hother
  rwa [get?_put t entry hroot, if_neg hne]

theorem keepsDirectories_erase (hroot : place ≠ []) (hfree : t.get? place ≠ some .directory) :
    t.KeepsDirectories (t.erase place) := by
  intro other hother
  have hne : other ≠ place := by
    rintro rfl
    exact hfree hother
  rwa [get?_erase t hroot, if_neg hne]

/-! ## Walks -/

/-- Where one step leads from a directory. -/
def step? (start : Place) (name : Text) : Option Place :=
  if name = ['.'] then some start
  else if name = ['.', '.'] then some start.dropLast
  else if nameLimit < (Path.bytes name).length then none
  else some (start ++ [name])

theorem walk_cons_eq_ok : t.walk start (name :: steps) = .ok place ↔
    t.get? start = some .directory ∧
      ∃ next, step? start name = some next ∧ t.walk next steps = .ok place := by
  rw [walk_cons, step?]
  cases hstart : t.get? start with
  | none => simp
  | some entry =>
    cases entry with
    | directory => dsimp only; split <;> (try split) <;> (try split) <;> simp
    | _ => simp

theorem step?_of_ne (start : Place) (hdot : name ≠ ['.']) (hup : name ≠ ['.', '.']) :
    step? start name =
      if nameLimit < (Path.bytes name).length then none else some (start ++ [name]) := by
  rw [step?, if_neg hdot, if_neg hup]

theorem walk_mono (hkeep : t.KeepsDirectories t') (h : t.walk start steps = .ok place) :
    t'.walk start steps = .ok place := by
  induction steps generalizing start with
  | nil => rwa [walk_nil] at h ⊢
  | cons name rest ih =>
    obtain ⟨hstart, next, hnext, h⟩ := walk_cons_eq_ok.1 h
    exact walk_cons_eq_ok.2 ⟨hkeep start hstart, next, hnext, ih h⟩

/-- A walk may be stopped and taken up again. -/
theorem walk_append_eq_ok {rest : List Text} : t.walk start (steps ++ rest) = .ok place ↔
    ∃ stop, t.walk start steps = .ok stop ∧ t.walk stop rest = .ok place := by
  induction steps generalizing start with
  | nil => simp [walk_nil]
  | cons name steps ih =>
    rw [List.cons_append, walk_cons_eq_ok]
    constructor
    · rintro ⟨hstart, next, hnext, h⟩
      obtain ⟨stop, hsteps, hrest⟩ := ih.1 h
      exact ⟨stop, walk_cons_eq_ok.2 ⟨hstart, next, hnext, hsteps⟩, hrest⟩
    · rintro ⟨stop, h, hrest⟩
      obtain ⟨hstart, next, hnext, hsteps⟩ := walk_cons_eq_ok.1 h
      exact ⟨hstart, next, hnext, ih.2 ⟨stop, hsteps, hrest⟩⟩

theorem walk_concat_eq_ok : t.walk start (steps ++ [name]) = .ok place ↔
    ∃ stop, t.walk start steps = .ok stop ∧ t.get? stop = some .directory ∧
      step? stop name = some place := by
  simp [walk_append_eq_ok, walk_cons_eq_ok, walk_nil]

/-! ## Paths -/

/-- A path can be followed at all. -/
structure Followed (path : Text) : Prop where
  ne_nil : path ≠ []
  noNul : '\x00' ∉ path
  length_le : (Path.bytes path).length ≤ pathLimit

theorem locate_eq_ok : t.locate here path = .ok place ↔
    Followed path ∧
      t.walk (if Path.isAbsolute path then [] else here) (Path.steps path) = .ok place := by
  unfold locate
  constructor
  · intro h
    split at h
    · cases h
    · next hne =>
      split at h
      · cases h
      · next hnul =>
        split at h
        · cases h
        · next hlength =>
          exact ⟨⟨by simpa using hne, hnul, Nat.le_of_not_lt hlength⟩, h⟩
  · rintro ⟨⟨hne, hnul, hlength⟩, h⟩
    rw [if_neg (by simpa using hne), if_neg hnul, if_neg (Nat.not_lt.2 hlength)]
    exact h

theorem locate_mono (hkeep : t.KeepsDirectories t') (h : t.locate here path = .ok place) :
    t'.locate here path = .ok place := by
  obtain ⟨hpath, h⟩ := locate_eq_ok.1 h
  exact locate_eq_ok.2 ⟨hpath, walk_mono hkeep h⟩

end FileTree

namespace Path

variable {path dir name above : Text}

/-- The names between the slashes of a path. -/
def parts (path : Text) : List Text := (Text.split '/' path).filter fun name => !name.isEmpty

theorem parts_append_cons (above name : Text) :
    parts (above ++ '/' :: name) = parts above ++ parts name := by
  rw [parts, Text.split_append_cons, List.filter_append]
  rfl

theorem parts_of_not_mem (hslash : '/' ∉ name) (hne : name ≠ []) : parts name = [name] := by
  rw [parts, Text.split_of_not_mem hslash]
  simp [hne]

theorem steps_eq_parts (h : path.getLast? ≠ some '/') : steps path = parts path :=
  if_neg h

/-- A slash at the end adds a step that stays. -/
theorem steps_eq_or (path : Text) : steps path = parts path ∨ steps path = parts path ++ [['.']] := by
  rw [steps]
  split
  · exact .inr rfl
  · exact .inl rfl

theorem walk_steps {t : FileTree} {start stop : Place} (h : t.get? stop = some .directory) :
    t.walk start (steps path) = .ok stop ↔ t.walk start (parts path) = .ok stop := by
  rcases steps_eq_or path with heq | heq
  · rw [heq]
  · rw [heq, FileTree.walk_concat_eq_ok]
    constructor
    · rintro ⟨_, hparts, -, hstep⟩
      cases hstep
      exact hparts
    · exact fun hparts => ⟨stop, hparts, h, rfl⟩

/-- What stands behind the last slash of a path. -/
theorem eq_or_exists_concat (path : Text) :
    '/' ∉ path ∨ ∃ above name, path = above ++ '/' :: name ∧ '/' ∉ name := by
  by_cases h : '/' ∈ path
  · obtain ⟨name, above, heq, hslash⟩ := List.eq_append_cons_of_mem (List.mem_reverse.2 h)
    refine .inr ⟨above.reverse, name.reverse, ?_, by simpa using hslash⟩
    simpa using congrArg List.reverse heq
  · exact .inl h

theorem getLast?_append_ne_nil (above : Text) (hne : name ≠ []) :
    (above ++ name).getLast? = name.getLast? := by
  rw [List.getLast?_append, List.getLast?_eq_some_getLast hne, Option.some_or]

theorem getLast?_join (dir : Text) (hne : name ≠ []) :
    (join dir name).getLast? = name.getLast? := by
  unfold join
  split
  · rfl
  · split
    · exact getLast?_append_ne_nil dir hne
    · rw [← List.singleton_append, ← List.append_assoc, getLast?_append_ne_nil _ hne]

/-- The last step of a path whose end is no slash ends as the path does. -/
theorem exists_steps_eq_concat (hlast : path.getLast? = some c) (hslash : c ≠ '/') :
    ∃ front name, steps path = front ++ [name] ∧ name.getLast? = some c := by
  have hend : path.getLast? ≠ some '/' := by simpa [hlast] using hslash
  rw [steps_eq_parts hend]
  rcases eq_or_exists_concat path with hpath | ⟨above, name, rfl, hname⟩
  · have hne : path ≠ [] := by
      rintro rfl
      cases hlast
    exact ⟨[], path, parts_of_not_mem hpath hne, hlast⟩
  · have hne : name ≠ [] := by
      rintro rfl
      simp at hend
    refine ⟨parts above, name, by rw [parts_append_cons, parts_of_not_mem hname hne], ?_⟩
    rw [← hlast, ← List.singleton_append, ← List.append_assoc, getLast?_append_ne_nil _ hne]

/-- A path that ends in a character of a name leads to an entry whose name ends in it. -/
theorem getLast?_of_locate {t : FileTree} {here place : Place}
    (h : t.locate here path = .ok place) (hlast : path.getLast? = some c) (hslash : c ≠ '/')
    (hdot : c ≠ '.') : ∃ above name, place = above ++ [name] ∧ name.getLast? = some c := by
  obtain ⟨front, name, hsteps, hname⟩ := exists_steps_eq_concat hlast hslash
  obtain ⟨-, h⟩ := FileTree.locate_eq_ok.1 h
  rw [hsteps, FileTree.walk_concat_eq_ok] at h
  obtain ⟨above, -, -, hstep⟩ := h
  -- a step to `.` or `..` would end in a dot, so the last one goes to the entry that it names
  have hne : ∀ dots : Text, dots.getLast? = some '.' → name ≠ dots := by
    rintro _ hdots rfl
    exact hdot (Option.some.inj (hname.symm.trans hdots))
  rw [FileTree.step?_of_ne above (hne ['.'] rfl) (hne ['.', '.'] rfl)] at hstep
  split at hstep
  · cases hstep
  · exact ⟨above, name, (Option.some.inj hstep).symm, hname⟩

/-! ## Children -/

/-- Whatever the tree is, `path` leads to the entry called `name` in the directory at `dir`, if it
leads anywhere, and leads there if that directory is one and lengths allow it. The empty path stands
for the directory that one is in. -/
structure NamesChild (path dir name : Text) : Prop where
  of_locate {t : FileTree} {here place : Place} (h : t.locate here path = .ok place) :
    ∃ above, place = above ++ [name] ∧ t.get? above = some .directory ∧
      (dir = [] ∧ above = here ∨ t.locate here dir = .ok above)
  locate {t : FileTree} {here above : Place} (habove : t.get? above = some .directory)
    (hdir : dir = [] ∧ above = here ∨ t.locate here dir = .ok above)
    (hpath : (Path.bytes path).length ≤ FileTree.pathLimit)
    (hname : (Path.bytes name).length ≤ FileTree.nameLimit) :
    t.locate here path = .ok (above ++ [name])

section
variable (hname : IsPlain name)
include hname

theorem step?_plain (start : Place) : FileTree.step? start name =
    if FileTree.nameLimit < (Path.bytes name).length then none else some (start ++ [name]) :=
  FileTree.step?_of_ne start hname.2.2.1 hname.2.2.2

theorem steps_join (dir : Text) : steps (join dir name) = parts dir ++ [name] := by
  have hlast : name.getLast? ≠ some '/' := fun h => hname.1 (List.mem_of_getLast? h)
  have hparts : parts name = [name] := parts_of_not_mem hname.1 hname.2.1
  rcases join_plain hname dir with ⟨heq, rfl | hdir⟩ | heq
  · rw [heq, List.nil_append, steps_eq_parts hlast, hparts]
    rfl
  · obtain ⟨base, rfl⟩ := List.getLast?_eq_some_iff.1 hdir
    rw [heq, steps_eq_parts (by rwa [getLast?_append_ne_nil _ hname.2.1]), List.append_assoc,
      List.singleton_append, parts_append_cons, parts_append_cons, hparts]
    simp [parts, Text.split]
  · rw [heq, steps_eq_parts, parts_append_cons, hparts]
    rwa [← List.singleton_append, ← List.append_assoc, getLast?_append_ne_nil _ hname.2.1]

theorem exists_join_eq_append (dir : Text) : ∃ rest, join dir name = dir ++ rest := by
  rcases join_plain hname dir with ⟨heq, -⟩ | heq
  · exact ⟨name, heq⟩
  · exact ⟨'/' :: name, heq⟩

theorem followed_of_join (h : FileTree.Followed (join dir name)) (hdir : dir ≠ []) :
    FileTree.Followed dir := by
  obtain ⟨rest, heq⟩ := exists_join_eq_append hname dir
  rw [heq] at h
  refine ⟨hdir, fun hnul => h.noNul (List.mem_append_left rest hnul), ?_⟩
  have hlength := h.length_le
  rw [bytes, List.flatMap_append, List.length_append] at hlength
  exact Nat.le_trans (Nat.le_add_right ..) hlength

theorem noNul_join (hnul : '\x00' ∉ name) (hdir : '\x00' ∉ dir) : '\x00' ∉ join dir name := by
  rcases join_plain hname dir with ⟨heq, -⟩ | heq <;> simp [heq, hnul, hdir]

theorem namesChild_join (hnul : '\x00' ∉ name) (dir : Text) :
    NamesChild (join dir name) dir name where
  of_locate {t here place} h := by
    obtain ⟨hpath, h⟩ := FileTree.locate_eq_ok.1 h
    rw [steps_join hname, isAbsolute_join hname, FileTree.walk_concat_eq_ok] at h
    obtain ⟨above, hwalk, habove, hstep⟩ := h
    rw [step?_plain hname] at hstep
    split at hstep
    · cases hstep
    · refine ⟨above, (Option.some.inj hstep).symm, habove, ?_⟩
      by_cases hdir : dir = []
      · subst hdir
        exact .inl ⟨rfl, (Except.ok.inj (hwalk.symm.trans (FileTree.walk_nil t here)))⟩
      · exact .inr (FileTree.locate_eq_ok.2
          ⟨followed_of_join hname hpath hdir, (walk_steps habove).2 hwalk⟩)
  locate {t here above} habove hdir hpath hlength := by
    have hwalk : '\x00' ∉ dir ∧
        t.walk (if isAbsolute dir then [] else here) (parts dir) = .ok above := by
      rcases hdir with ⟨rfl, rfl⟩ | hdir
      · exact ⟨List.not_mem_nil, FileTree.walk_nil t above⟩
      · obtain ⟨hfollowed, hwalk⟩ := FileTree.locate_eq_ok.1 hdir
        exact ⟨hfollowed.noNul, (walk_steps habove).1 hwalk⟩
    have hne : join dir name ≠ [] := by
      rcases join_plain hname dir with ⟨heq, -⟩ | heq <;> simp [heq, hname.2.1]
    refine FileTree.locate_eq_ok.2 ⟨⟨hne, noNul_join hname hnul hwalk.1, hpath⟩, ?_⟩
    rw [steps_join hname, isAbsolute_join hname, FileTree.walk_concat_eq_ok]
    refine ⟨above, hwalk.2, habove, ?_⟩
    rw [step?_plain hname, if_neg (Nat.not_lt.2 hlength)]

end

end Path

end Curriculum
