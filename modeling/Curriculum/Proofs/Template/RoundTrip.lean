import Curriculum.Proofs.Template.Print
import Curriculum.Proofs.Template.Step

/-! # Parsing undoes printing

A normal forest whose literals hold no opening pair comes back from every body that it is printed
as, whatever blanks stand in the tags. The proof reads the body piece by piece: reading a printed
forest puts its nodes before the rest, and leaves the open blocks alone (`Prints.read_eq`). -/

namespace Curriculum.Template

variable {nodes children : List Node} {t u inside path text body rest : Text}

/-! ## Braces in a padded tag -/

private theorem brace_not_mem {w : Text} (hw : Text.allBlank w) : '\x7d' ∉ w :=
  Text.not_mem_of_allBlank hw rfl

theorem head?_of_around_gap (h : Around Gap t inside) : inside.head? ≠ some '\x7b' := by
  obtain ⟨w, w', hw, -, rfl⟩ := h
  obtain ⟨c, w, rfl⟩ := List.exists_cons_of_ne_nil hw.2
  rintro ⟨⟩
  exact Text.not_mem_of_allBlank hw.1 rfl List.mem_cons_self

theorem not_infix_of_around_gap (h : Around Gap t inside) (ht : ¬closing <:+: t) :
    ¬closing <:+: inside ++ ['\x7d'] := by
  obtain ⟨w, w', hw, hw', rfl⟩ := h
  obtain ⟨c, w', rfl⟩ := List.exists_cons_of_ne_nil hw'.2
  have hbraces := brace_not_mem hw'.1
  rw [List.mem_cons, not_or] at hbraces
  have hend : ¬closing <:+: w' ++ ['\x7d'] := not_infix_append hbraces.2 (by decide)
  have := not_infix_append_cons (Ne.symm hbraces.1) ht hend
  simpa using not_infix_append (brace_not_mem hw.1) this

/-! ## Steps -/

namespace Reading

theorem read_padded (r : Reading) (h : Around Gap t inside) (ht : ¬closing <:+: t) (rest : Text) :
    r.read ((Token.tag inside).source ++ rest) = (r.step (.tag inside)).read rest :=
  r.read_tag (head?_of_around_gap h) (not_infix_of_around_gap h ht) rest

theorem step_literal (r : Reading) (ht : text ≠ [])
    (hr : ∀ last ∈ r.current.head?, Apart last (.literal text)) :
    r.step (.text text) = { r with current := .literal text :: r.current } := by
  rcases addText_cases text r.current with ⟨hnil, -⟩ | ⟨u, rest, hcurrent, -⟩ | ⟨-, -, hadd⟩
  · exact absurd hnil ht
  · exact absurd (hr (.literal u) (by rw [hcurrent]; rfl)) (by simp [Apart, Node.isLiteral])
  · simp only [step, hadd]

end Reading

/-! ## Runs -/

open Reading

/-- What does not start with a literal starts with a tag. -/
theorem Prints.boundary (h : Prints .padded nodes body)
    (hhead : ∀ node ∈ nodes.head?, node.isLiteral = false) (hrest : Boundary rest) :
    Boundary (body ++ rest) := by
  cases h with
  | nil => exact hrest
  | literal => cases hhead _ rfl
  | var hvar =>
    rw [List.append_assoc]
    exact boundary_tag (head?_of_around_gap hvar) _
  | each heach =>
    simp only [List.append_assoc]
    exact boundary_tag (head?_of_around_gap heach) _

/-- Reading a printed forest puts its nodes behind what has been read. -/
theorem Prints.read_eq (h : Prints .padded nodes body) (hn : Normal nodes)
    (hl : ∀ t ∈ literals nodes, ¬opening <:+: t) (r : Reading)
    (hr : ∀ node ∈ nodes.head?, ∀ last ∈ r.current.head?, Apart last node)
    (hrest : Boundary rest) :
    r.read (body ++ rest) = (Reading.mk (nodes.reverse ++ r.current) r.blocks).read rest := by
  induction h generalizing r rest with
  | nil => rfl
  | @literal nodes text body hnodes ih =>
    obtain ⟨htext, hnext, -, hn⟩ := normal_cons.1 hn
    simp only [literals_literal, List.forall_mem_cons] at hl
    have hhead : ∀ node ∈ nodes.head?, node.isLiteral = false := by
      intro node hnode
      simpa [Apart, Node.isLiteral] using hnext node hnode
    rw [List.append_assoc, r.read_text hl.1 (hnodes.boundary hhead hrest),
      r.step_literal htext (hr _ rfl), ih hn hl.2 _ _ hrest]
    · simp
    · rintro node hnode _ ⟨⟩
      exact hnext node hnode
  | @var nodes path inside body hvar _ ih =>
    obtain ⟨hpath, -, -, hn⟩ := normal_cons.1 hn
    rw [literals_var] at hl
    rw [List.append_assoc, r.read_padded hvar hpath.1.2,
      r.step_var ((trim_of_around (fun _ hw => hw.1) hvar).trans hpath.1.1) hpath.2.1 hpath.2.2,
      ih hn hl _ _ hrest]
    · simp
    · rintro node - _ ⟨⟩
      exact apart_of_isLiteral_eq_false rfl
  | @each nodes children path inside body inside' body' heach _ hclose _ ihc ih =>
    obtain ⟨hpath, -, hown, hn⟩ := normal_cons.1 hn
    rw [literals_each, List.forall_mem_append] at hl
    have hsay : eachPath? (Text.trim inside) = some path := by
      rw [trim_of_around (fun _ hw => hw.1) heach]
      exact eachPath?_trim_eachWord rfl hpath.1 (by simp)
    have hinside : ¬closing <:+: eachWord ++ [' '] ++ path := not_infix_append (by decide) hpath.2
    have hend : Text.trim inside' = endWord := trim_of_around (fun _ hw => hw.1) hclose
    have hbelow : Boundary ((Token.tag inside').source ++ (body' ++ rest)) :=
      boundary_tag (head?_of_around_gap hclose) _
    simp only [List.append_assoc]
    rw [r.read_padded heach hinside, r.step_each hsay,
      ihc (hown path children rfl) hl.1 _ (by simp) hbelow,
      read_padded _ hclose (by decide), step_close hend, ih hn hl.2 _ _ hrest]
    · simp
    · rintro node - _ ⟨⟩
      exact apart_of_isLiteral_eq_false rfl

theorem exists_prints (nodes : List Node) : ∃ body, Prints .padded nodes body := by
  have around (t : Text) : Around Gap t ([' '] ++ t ++ [' ']) :=
    .intro (gap_singleton rfl) (gap_singleton rfl) t
  induction nodes using forestInduction with
  | nil => exact ⟨_, .nil⟩
  | literal text nodes ih =>
    obtain ⟨body, h⟩ := ih
    exact ⟨_, h.literal⟩
  | var path nodes ih =>
    obtain ⟨body, h⟩ := ih
    exact ⟨_, .var (around path) h⟩
  | each path children nodes ihc ih =>
    obtain ⟨body, h⟩ := ihc
    obtain ⟨body', h'⟩ := ih
    exact ⟨_, .each (around _) h (around endWord) h'⟩

/-- Parsing undoes printing: a normal forest whose literals hold no opening pair can be printed, and
whatever blanks are chosen for its tags, parsing the printed body gives the forest. -/
theorem parse_of_prints (hn : Normal nodes)
    (hl : ∀ t ∈ literals nodes, ¬opening <:+: t) :
    (∃ body, Prints .padded nodes body) ∧
      ∀ body, Prints .padded nodes body → parse body = nodes := by
  refine ⟨exists_prints nodes, fun body h => ?_⟩
  have := h.read_eq hn hl {} (by simp) (.inl rfl)
  rw [List.append_nil, read_nil] at this
  rw [parse_eq_finish_read, this]
  simp [finish, closeAll]

/-- A group around a variable, and a block whose first literal starts with a closing brace and whose
last one ends in an opening brace. -/
def nestedForest : List Node :=
  [.literal ['\\', 'b', 'f', '\x7b'], .var ['n'], .literal ['\x7d'],
    .each ['x', 's'] [.literal ['\x7d'], .each [] [.var thisWord], .literal ['\x7b']]]

/-- The same with different blanks in the tags. -/
def nestedBody : Text :=
  ['\\', 'b', 'f', '\x7b'] ++ (opening ++ [' ', 'n', '\t'] ++ closing) ++ ['\x7d'] ++
    (opening ++ ['\n'] ++ eachWord ++ [' ', 'x', 's', ' '] ++ closing) ++ ['\x7d'] ++
    (opening ++ [' '] ++ eachWord ++ [' ', ' '] ++ closing) ++
    (opening ++ [' '] ++ thisWord ++ [' '] ++ closing) ++
    (opening ++ [' '] ++ endWord ++ ['\n'] ++ closing) ++ ['\x7b'] ++
    (opening ++ [' '] ++ endWord ++ [' '] ++ closing)

theorem parse_nestedBody :
    Normal nestedForest ∧ (∀ t ∈ literals nestedForest, ¬opening <:+: t) ∧
      Prints .padded nestedForest nestedBody ∧ parse nestedBody = nestedForest := by
  have hn : Normal nestedForest := by decide
  have hl : ∀ t ∈ literals nestedForest, ¬opening <:+: t := by decide
  have hblank : Gap [' '] := gap_singleton rfl
  have htab : Gap ['\t'] := gap_singleton rfl
  have hline : Gap ['\n'] := gap_singleton rfl
  have hthis : Prints .padded [.var thisWord] _ := .var (.intro hblank hblank thisWord) .nil
  have hinner : Prints .padded [.each [] [.var thisWord], .literal ['\x7b']] _ :=
    .each (.intro hblank hblank (eachWord ++ [' '] ++ [])) hthis
      (.intro hblank hline endWord) (.literal .nil)
  have houter : Prints .padded nestedForest _ :=
    .literal <| .var (.intro hblank htab ['n']) <| .literal <|
      .each (.intro hline hblank (eachWord ++ [' '] ++ ['x', 's'])) (.literal hinner)
        (.intro hblank hblank endWord) .nil
  have h : Prints .padded nestedForest nestedBody := houter
  exact ⟨hn, hl, h, (parse_of_prints hn hl).2 nestedBody h⟩

end Curriculum.Template
