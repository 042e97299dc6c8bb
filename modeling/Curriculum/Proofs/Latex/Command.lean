import Curriculum.Proofs.Latex.Group

/-! # Commands

A backslash with letters behind it is the command that these letters spell; with any other character
it is a symbol. A closed text ends outside of all commands, so the commands of texts in a row are
those of each one (`commands_append`). Escaped texts are closed and have no commands. -/

namespace Curriculum.Latex

/-! ## Scanning -/

/-- Where a scanner stands behind one more character: outside of commands, or behind a backslash and
some letters. -/
def follow (word? : Option Text) (c : Char) : Option Text :=
  match word? with
  | none => if c = '\\' then some [] else none
  | some word =>
    if c.isAlpha then some (word ++ [c])
    else if c = '\\' ∧ word ≠ [] then some [] else none

/-- The command that ends in front of a character. -/
def ended (word? : Option Text) (c : Char) : List Text :=
  match word? with
  | some (letter :: word) => if c.isAlpha then [] else [letter :: word]
  | _ => []

def commandsFrom (word? : Option Text) : Text → List Text
  | [] =>
    match word? with
    | some (letter :: word) => [letter :: word]
    | _ => []
  | c :: t => ended word? c ++ commandsFrom (follow word? c) t

/-- The commands in a text, without their backslashes. -/
def commands (t : Text) : List Text := commandsFrom none t

def Closed (t : Text) : Prop := t.foldl follow none = none

instance : Decidable (Closed t) := inferInstanceAs (Decidable (_ = _))

variable {t u : Text}

theorem commandsFrom_append {word? : Option Text} (h : t.foldl follow word? = none) (u : Text) :
    commandsFrom word? (t ++ u) = commandsFrom word? t ++ commandsFrom none u := by
  induction t generalizing word? with
  | nil =>
    cases h
    rfl
  | cons c t ih => rw [List.cons_append, commandsFrom, commandsFrom, ih h, List.append_assoc]

theorem commands_append (h : Closed t) (u : Text) : commands (t ++ u) = commands t ++ commands u :=
  commandsFrom_append h u

theorem Closed.append (ht : Closed t) (hu : Closed u) : Closed (t ++ u) := by
  rw [Closed, List.foldl_append, ht]
  exact hu

theorem commands_flatMap {f : α → Text} {l : List α} (h : ∀ a ∈ l, Closed (f a)) :
    commands (l.flatMap f) = l.flatMap fun a => commands (f a) := by
  induction l with
  | nil => rfl
  | cons a l ih =>
    obtain ⟨ha, hl⟩ := List.forall_mem_cons.1 h
    rw [List.flatMap_cons, List.flatMap_cons, commands_append ha, ih hl]

/-! ## Texts without commands -/

/-- A closed text in which there are no commands. -/
structure Silent (t : Text) : Prop where
  closed : Closed t
  commands_eq : commands t = []

theorem Silent.append (ht : Silent t) (hu : Silent u) : Silent (t ++ u) where
  closed := ht.closed.append hu.closed
  commands_eq := by rw [commands_append ht.closed, ht.commands_eq, hu.commands_eq, List.append_nil]

theorem Silent.flatMap {f : α → Text} {l : List α} (h : ∀ a ∈ l, Silent (f a)) :
    Silent (l.flatMap f) := by
  induction l with
  | nil => exact ⟨rfl, rfl⟩
  | cons a l ih =>
    obtain ⟨ha, hl⟩ := List.forall_mem_cons.1 h
    rw [List.flatMap_cons]
    exact ha.append (ih hl)

theorem silent_singleton (hc : c ≠ '\\') : Silent [c] := by
  have hfollow : follow none c = none := if_neg hc
  refine ⟨hfollow, ?_⟩
  rw [commands, commandsFrom, hfollow]
  rfl

theorem silent_of_forall_isPlain (h : ∀ c ∈ t, isPlain c) : Silent t := by
  rw [← List.flatMap_singleton' t]
  refine .flatMap fun c hc => silent_singleton ?_
  rintro rfl
  exact absurd (h _ hc) (by decide)

/-- No written form of a reserved character has a letter behind its backslash. -/
theorem silent_escapeChar (c : Char) : Silent (escapeChar c) := by
  rcases escapeChar_cases c with ⟨hc, h⟩ | ⟨hc, h⟩ | ⟨hc, -, h⟩ <;> rw [h]
  · simp only [symbols, List.mem_cons, List.not_mem_nil, or_false] at hc
    rcases hc with rfl | rfl | rfl | rfl | rfl | rfl | rfl <;> exact ⟨by decide, by decide⟩
  · simp only [accents, List.mem_cons, List.not_mem_nil, or_false] at hc
    rcases hc with rfl | rfl <;> exact ⟨by decide, by decide⟩
  · refine silent_singleton ?_
    rintro rfl
    exact hc (by decide)

theorem silent_escape (t : Text) : Silent (escape t) := by
  rw [escape_eq_flatMap]
  exact .flatMap fun c _ => silent_escapeChar c

end Curriculum.Latex
