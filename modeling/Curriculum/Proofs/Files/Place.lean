import Curriculum.Files.Tree
import Curriculum.Proofs.Text.Split

/-! # Places of paths

A path that never goes back up names one place whatever the tree is: the names in it, one below the
other (`FileTree.locate_eq_place`). The parents of a path name places above its own
(`Path.names_of_parent?`). -/

namespace Curriculum

namespace Path

/-- A name of an entry of a directory. It leads neither further down nor back up. -/
def IsPlain (name : Text) : Prop :=
  '/' ∉ name ∧ name ≠ [] ∧ name ≠ ['.'] ∧ name ≠ ['.', '.']

instance : Decidable (IsPlain name) :=
  inferInstanceAs (Decidable (_ ∧ _ ∧ _ ∧ _))

/-- The names in a path. What stays in a directory is no name; what goes back up is one here. -/
def names (path : Text) : List Text := (steps path).filter (· ≠ ['.'])

/-- The path never goes back up. -/
def Descends (path : Text) : Prop := ['.', '.'] ∉ names path

instance : Decidable (Descends path) := inferInstanceAs (Decidable (_ ∉ _))

/-- The place of a path that never goes back up, seen from the directory `here`. -/
def place (here : Place) (path : Text) : Place :=
  (if isAbsolute path then [] else here) ++ names path

variable {path above dir name : Text} {here : Place}

theorem names_eq_filter (path : Text) :
    names path = (Text.split '/' path).filter fun name => name ≠ [] ∧ name ≠ ['.'] := by
  have hsplit : ((Text.split '/' path).filter fun name => !name.isEmpty).filter (· ≠ ['.']) =
      (Text.split '/' path).filter fun name => name ≠ [] ∧ name ≠ ['.'] := by
    rw [List.filter_filter]
    refine List.filter_congr fun name _ => ?_
    cases name <;> simp
  rw [names, steps]
  split
  · rw [List.filter_append, hsplit]
    simp
  · exact hsplit

theorem names_append_cons (path rest : Text) :
    names (path ++ '/' :: rest) = names path ++ names rest := by
  simp only [names_eq_filter, Text.split_append_cons, List.filter_append]

theorem names_of_not_mem (h : '/' ∉ path) (hne : path ≠ []) (hdot : path ≠ ['.']) :
    names path = [path] := by
  rw [names_eq_filter, Text.split_of_not_mem h]
  simp [hne, hdot]

@[simp] theorem names_nil : names [] = [] := by decide

@[simp] theorem names_dot : names ['.'] = [] := by decide

theorem isPlain_append {ending : Text} (hname : '/' ∉ name) (hending : '/' ∉ ending)
    (hlength : 2 < ending.length) : IsPlain (name ++ ending) := by
  refine ⟨by simp [hname, hending], ?_, ?_, ?_⟩
  all_goals
    intro h
    have hlen := congrArg List.length h
    rw [List.length_append] at hlen
    simp only [List.length_cons, List.length_nil] at hlen
    omega

/-! ## Joined paths -/

section
variable (hname : IsPlain name)
include hname

theorem names_plain : names name = [name] :=
  names_of_not_mem hname.1 hname.2.1 hname.2.2.1

theorem isAbsolute_plain : isAbsolute name = false := by
  obtain ⟨hslash, hne, -⟩ := hname
  obtain ⟨c, rest, rfl⟩ := List.exists_cons_of_ne_nil hne
  rw [List.mem_cons, not_or] at hslash
  simpa [isAbsolute] using Ne.symm hslash.1

theorem join_plain (dir : Text) :
    join dir name = dir ++ name ∧ (dir = [] ∨ dir.getLast? = some '/') ∨
      join dir name = dir ++ '/' :: name := by
  rw [join, if_neg (by simp [isAbsolute_plain hname])]
  split
  · next h => exact .inl ⟨rfl, by simpa using h⟩
  · exact .inr rfl

theorem names_join (dir : Text) : names (join dir name) = names dir ++ [name] := by
  rcases join_plain hname dir with ⟨heq, rfl | hlast⟩ | heq
  · rw [heq, List.nil_append, names_nil, List.nil_append, names_plain hname]
  · obtain ⟨base, rfl⟩ := List.getLast?_eq_some_iff.1 hlast
    rw [heq, List.append_assoc, List.singleton_append, names_append_cons, names_append_cons,
      names_plain hname, names_nil, List.append_nil]
  · rw [heq, names_append_cons, names_plain hname]

theorem join_append {ending : Text} (dir : Text) :
    join dir name ++ ending = join dir (name ++ ending) := by
  have hrel := isAbsolute_plain hname
  have hrel' : isAbsolute (name ++ ending) = false := by
    obtain ⟨c, rest, rfl⟩ := List.exists_cons_of_ne_nil hname.2.1
    exact hrel
  rw [join, join, hrel, hrel']
  simp only [Bool.false_eq_true, if_false]
  split <;> simp

theorem isAbsolute_join (dir : Text) : isAbsolute (join dir name) = isAbsolute dir := by
  have hrel := isAbsolute_plain hname
  cases dir with
  | nil => rcases join_plain hname [] with ⟨heq, -⟩ | heq <;> simp_all [isAbsolute, join]
  | cons c dir =>
    rcases join_plain hname (c :: dir) with ⟨heq, -⟩ | heq <;> simp [heq, isAbsolute]

theorem place_join (here : Place) (dir : Text) :
    place here (join dir name) = place here dir ++ [name] := by
  rw [place, place, isAbsolute_join hname, names_join hname, List.append_assoc]

theorem descends_join (hdir : Descends dir) : Descends (join dir name) := by
  rw [Descends, names_join hname, List.mem_append, List.mem_singleton, not_or]
  exact ⟨hdir, Ne.symm hname.2.2.2⟩

end

/-! ## Parents -/

/-- What is dropped at the end of a path holds no name. -/
theorem names_dropEnd (path : Text) : names (dropEnd path).reverse = names path.reverse := by
  fun_induction dropEnd path with
  | case1 => rfl
  | case2 rest _ ih =>
    rw [ih, List.reverse_cons, names_append_cons, names_nil, List.append_nil]
  | case3 rest ih =>
    rw [ih, List.reverse_cons (a := '.'), List.reverse_cons, List.append_assoc,
      List.singleton_append, names_append_cons, names_append_cons, names_nil]
    rfl
  | case4 => rfl

theorem dropEnd_suffix (path : Text) :
    dropEnd path <:+ path ∧ (path ≠ [] → dropEnd path ≠ []) := by
  fun_induction dropEnd path with
  | case1 => exact ⟨List.suffix_rfl, id⟩
  | case2 rest hne ih =>
    refine ⟨ih.1.trans (List.suffix_cons ..), fun _ => ih.2 ?_⟩
    rintro rfl
    exact hne rfl
  | case3 rest ih => exact ⟨ih.1.trans (List.suffix_cons ..), fun _ => ih.2 (List.cons_ne_nil _ _)⟩
  | case4 => exact ⟨List.suffix_rfl, id⟩

/-- What is left ends in a name, or is the root. -/
theorem dropEnd_eq_cons (h : dropEnd path = c :: rest) :
    c :: rest = ['/'] ∨ c ≠ '/' ∧ (c = '.' → rest.head? ≠ some '/') := by
  fun_induction dropEnd path with
  | case1 => exact .inl h.symm
  | case2 rest' _ ih => exact ih h
  | case3 rest' ih => exact ih h
  | case4 path hroot hslash hdot =>
    subst h
    refine .inr ⟨?_, ?_⟩
    · rintro rfl
      exact hslash rest rfl
    · rintro rfl hhead
      obtain ⟨rest, rfl⟩ := List.head?_eq_some_iff.1 hhead
      exact hdot rest rfl

theorem isAbsolute_reverse_append (start : Text) (h : path ≠ []) :
    isAbsolute (start ++ path).reverse = isAbsolute path.reverse := by
  rw [isAbsolute, isAbsolute, List.head?_reverse, List.head?_reverse, List.getLast?_append,
    List.getLast?_eq_some_getLast h, Option.some_or]

theorem isAbsolute_dropEnd (h : path ≠ []) :
    isAbsolute (dropEnd path).reverse = isAbsolute path.reverse := by
  obtain ⟨⟨start, hsuffix⟩, hne⟩ := dropEnd_suffix path
  rw [← isAbsolute_reverse_append start (hne h), hsuffix]

/-- Up to the first slash there is a word. -/
theorem exists_eq_append_of_dropWhile_ne_nil (h : path.dropWhile (· ≠ '/') ≠ []) :
    ∃ word root, path = word ++ '/' :: root ∧ path.dropWhile (· ≠ '/') = '/' :: root ∧
      '/' ∉ word := by
  induction path with
  | nil => exact absurd rfl h
  | cons c path ih =>
    by_cases hc : c = '/'
    · exact ⟨[], path, by simp [hc], by simp [hc], by simp⟩
    · rw [List.dropWhile_cons_of_pos (by simpa using hc)] at h ⊢
      obtain ⟨word, root, rfl, hdrop, hslash⟩ := ih h
      exact ⟨c :: word, root, rfl, hdrop, by simpa [hslash] using Ne.symm hc⟩

/-- A path with a parent that is not empty ends in a slash and a word, up to what is dropped. -/
theorem eq_of_parent? (h : parent? path = some above) (hne : above ≠ []) :
    ∃ c word root, dropEnd path.reverse = c :: (word ++ '/' :: root) ∧ '/' ∉ word ∧
      above = (dropEnd ('/' :: root)).reverse := by
  unfold parent? at h
  split at h
  · cases h
  · cases h
  · next c rest _ heq =>
    split at h
    · cases h
      exact absurd rfl hne
    · next hdrop =>
      obtain ⟨word, root, hrest, hroot, hslash⟩ := exists_eq_append_of_dropWhile_ne_nil hdrop
      rw [hroot] at h
      exact ⟨c, word, root, heq.trans (congrArg _ hrest), hslash, (Option.some.inj h).symm⟩

/-- A parent that is not empty holds all names of a path but the last. -/
theorem names_of_parent? (h : parent? path = some above) (hne : above ≠ []) :
    isAbsolute above = isAbsolute path ∧ ∃ last, names path = names above ++ [last] := by
  obtain ⟨c, word, root, heq, hslash, rfl⟩ := eq_of_parent? h hne
  have hpath : path.reverse ≠ [] := by
    rintro hnil
    rw [hnil] at heq
    cases heq
  have hnames := names_dropEnd path.reverse
  have habsolute := isAbsolute_dropEnd hpath
  rw [heq, List.reverse_reverse] at hnames habsolute
  have hlast : names (word.reverse ++ [c]) = [word.reverse ++ [c]] := by
    rcases dropEnd_eq_cons heq with hroot | ⟨hc, hdot⟩
    · simp at hroot
    · refine names_of_not_mem (by simpa [hslash] using Ne.symm hc) (by simp) fun hword => ?_
      obtain ⟨rfl, rfl⟩ : c = '.' ∧ word = [] := by simpa using congrArg List.reverse hword
      exact hdot rfl rfl
  rw [names_dropEnd, isAbsolute_dropEnd (List.cons_ne_nil _ _), ← hnames, ← habsolute]
  refine ⟨?_, word.reverse ++ [c], ?_⟩
  · rw [← isAbsolute_reverse_append (c :: word) (List.cons_ne_nil _ _), List.cons_append]
  · rw [List.reverse_cons, List.reverse_append, List.reverse_cons, List.append_assoc,
      List.append_assoc, List.singleton_append, names_append_cons, names_append_cons, hlast,
      names_nil, List.append_nil]

/-- The parent of a path names the place above. -/
theorem place_of_parent? (here : Place) (h : parent? path = some above) (hne : above ≠ []) :
    ∃ last, place here path = place here above ++ [last] := by
  obtain ⟨habsolute, last, hnames⟩ := names_of_parent? h hne
  exact ⟨last, by rw [place, place, habsolute, hnames, List.append_assoc]⟩

theorem descends_of_parent? (h : parent? path = some above) (hne : above ≠ [])
    (hpath : Descends path) : Descends above := by
  obtain ⟨-, last, hnames⟩ := names_of_parent? h hne
  rw [Descends, hnames, List.mem_append, not_or] at hpath
  exact hpath.1

end Path

/-! ## Walks -/

namespace FileTree

theorem walk_eq_append {t : FileTree} (h : t.walk start steps = .ok place)
    (hsteps : ['.', '.'] ∉ steps) : place = start ++ steps.filter (· ≠ ['.']) := by
  induction steps generalizing start with
  | nil =>
    rw [walk_nil] at h
    simpa using (Except.ok.inj h).symm
  | cons name rest ih =>
    rw [List.mem_cons, not_or] at hsteps
    rw [walk_cons] at h
    split at h
    · cases h
    · split at h
      · next hdot =>
        subst hdot
        rw [List.filter_cons_of_neg (by simp)]
        exact ih h hsteps.2
      · next hdot =>
        rw [if_neg (Ne.symm hsteps.1)] at h
        split at h
        · cases h
        · rw [List.filter_cons_of_pos (by simpa using hdot), ih h hsteps.2, List.append_assoc,
            List.singleton_append]
    · cases h

/-- In any tree a path that never goes back up leads to its place, if it leads anywhere. -/
theorem locate_eq_place {t : FileTree} (h : t.locate here path = .ok place)
    (hpath : Path.Descends path) : place = Path.place here path := by
  unfold locate at h
  split at h
  · cases h
  · split at h
    · cases h
    · split at h
      · cases h
      · refine walk_eq_append h fun hmem => hpath ?_
        exact List.mem_filter.2 ⟨hmem, by decide⟩

end FileTree

end Curriculum
