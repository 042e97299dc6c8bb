import Curriculum.Decimal.Number
import Curriculum.Proofs.Latex.Escape
import Mathlib.Algebra.Ring.Parity
import Mathlib.Data.List.DropRight
import Mathlib.Data.List.Infix

/-! # Groups

A reader of LaTeX takes a backslash together with the character behind it; every other brace opens
or closes a group. A contained text leaves all groups around it alone: it never falls below the
depth at which it starts and ends where it started. Escaped texts are contained, and so are the
texts of numbers. -/

namespace Curriculum.Latex

/-- How far a text has been read: how many groups are open, and whether a backslash waits for the
character that it takes. -/
@[ext] structure Position where
  depth : Int
  pending : Bool

namespace Position

/-- One more character. -/
def next (p : Position) (c : Char) : Position :=
  if p.pending then ⟨p.depth, false⟩
  else if c = '\\' then ⟨p.depth, true⟩
  else if c = '\x7b' then ⟨p.depth + 1, false⟩
  else if c = '\x7d' then ⟨p.depth - 1, false⟩
  else ⟨p.depth, false⟩

/-- Only a backslash waits for a character. -/
theorem pending_next (hc : c ≠ '\\') (p : Position) : (p.next c).pending = false := by
  rw [next, if_neg hc]
  split
  · rfl
  · split
    · rfl
    · split <;> rfl

/-- A whole text. -/
def read (p : Position) (t : Text) : Position := t.foldl next p

@[simp] theorem read_nil (p : Position) : p.read [] = p := rfl

@[simp] theorem read_cons (p : Position) (c : Char) (t : Text) :
    p.read (c :: t) = (p.next c).read t := rfl

theorem read_append (p : Position) (t u : Text) : p.read (t ++ u) = (p.read t).read u :=
  List.foldl_append

end Position

/-- The depth of groups at the end of a text. -/
def depth (t : Text) : Int := ((⟨0, false⟩ : Position).read t).depth

/-- How many backslashes a text ends with. -/
def backslashesAtEnd (t : Text) : Nat := (t.rtakeWhile (· = '\\')).length

theorem backslashesAtEnd_concat (t : Text) (c : Char) :
    backslashesAtEnd (t ++ [c]) = if c = '\\' then backslashesAtEnd t + 1 else 0 := by
  rw [backslashesAtEnd, List.rtakeWhile_concat]
  split <;> simp_all [backslashesAtEnd]

/-- Backslashes at the end of a text go in pairs, and one that is left over waits. -/
theorem Position.pending_read (d : Int) (t : Text) :
    ((⟨d, false⟩ : Position).read t).pending = true ↔ Odd (backslashesAtEnd t) := by
  induction t using List.reverseRecOn with
  | nil => simp [backslashesAtEnd]
  | append_singleton t c ih =>
    rw [read_append, backslashesAtEnd_concat]
    generalize (⟨d, false⟩ : Position).read t = p at ih ⊢
    rw [read_cons, read_nil, next]
    by_cases hc : c = '\\'
    · rw [if_pos hc, if_pos hc, Nat.odd_add_one, ← ih]
      cases p.pending <;> simp
    · rw [if_neg hc, if_neg hc]
      cases p.pending
      · simp only [Bool.false_eq_true, if_false]
        split
        · simp
        · split <;> simp
      · simp

/-! ## Contained texts -/

/-- A text that neither closes a group from outside nor leaves one open, and whose backslashes all
have their character. -/
structure Contained (t : Text) : Prop where
  read_eq : ∀ d, (⟨d, false⟩ : Position).read t = ⟨d, false⟩
  le_depth : ∀ d u, u <+: t → d ≤ ((⟨d, false⟩ : Position).read u).depth

namespace Contained

theorem nil : Contained [] := by
  refine ⟨fun _ => rfl, fun d u hu => ?_⟩
  rw [List.prefix_nil.1 hu]
  exact Int.le_refl d

theorem append (ht : Contained t) (hu : Contained u) : Contained (t ++ u) := by
  refine ⟨fun d => by rw [Position.read_append, ht.read_eq, hu.read_eq], fun d v hv => ?_⟩
  rcases List.prefix_or_prefix_of_prefix hv (List.prefix_append t u) with h | ⟨w, rfl⟩
  · exact ht.le_depth d v h
  · rw [Position.read_append, ht.read_eq]
    exact hu.le_depth d w ((List.prefix_append_right_inj t).1 hv)

theorem flatMap {f : α → Text} {l : List α} (h : ∀ a ∈ l, Contained (f a)) :
    Contained (l.flatMap f) := by
  induction l with
  | nil => exact nil
  | cons a l ih =>
    rw [List.flatMap_cons]
    exact (h a List.mem_cons_self).append (ih fun b hb => h b (List.mem_cons_of_mem _ hb))

end Contained

/-! ## Telling that a text is contained -/

/-- How much is open around a text makes no difference to what it adds. -/
theorem Position.read_add (d k : Int) (pending : Bool) (t : Text) :
    (⟨d + k, pending⟩ : Position).read t =
      ⟨((⟨d, pending⟩ : Position).read t).depth + k, ((⟨d, pending⟩ : Position).read t).pending⟩ := by
  induction t generalizing d pending with
  | nil => rfl
  | cons c t ih =>
    have hnext : (⟨d + k, pending⟩ : Position).next c =
        ⟨((⟨d, pending⟩ : Position).next c).depth + k,
          ((⟨d, pending⟩ : Position).next c).pending⟩ := by
      simp only [next, Position.ext_iff]
      split <;> try exact ⟨rfl, rfl⟩
      split <;> try exact ⟨rfl, rfl⟩
      split <;> try exact ⟨by simp only; omega, rfl⟩
      split
      · exact ⟨by simp only; omega, rfl⟩
      · exact ⟨rfl, rfl⟩
    rw [read_cons, read_cons, hnext, ih]

theorem Position.mem_scanl {p : Position} :
    q ∈ t.scanl next p ↔ ∃ u, u <+: t ∧ q = p.read u := by
  induction t generalizing p with
  | nil => simp [List.prefix_nil]
  | cons c t ih =>
    rw [List.scanl_cons, List.mem_cons, ih]
    constructor
    · rintro (rfl | ⟨u, hu, rfl⟩)
      · exact ⟨[], List.nil_prefix, rfl⟩
      · exact ⟨c :: u, List.cons_prefix_cons.2 ⟨rfl, hu⟩, rfl⟩
    · rintro ⟨u, hu, rfl⟩
      rcases List.prefix_cons_iff.1 hu with rfl | ⟨v, rfl, hv⟩
      · exact .inl rfl
      · exact .inr ⟨v, hv, rfl⟩

/-- It is enough to read a text once, where no group is open. -/
theorem contained_iff : Contained t ↔ depth t = 0 ∧ ¬Odd (backslashesAtEnd t) ∧
    ∀ p ∈ t.scanl Position.next ⟨0, false⟩, 0 ≤ p.depth := by
  have hadd : ∀ d u, (⟨d, false⟩ : Position).read u =
      ⟨depth u + d, ((⟨0, false⟩ : Position).read u).pending⟩ := by
    intro d u
    have h := Position.read_add 0 d false u
    rwa [Int.zero_add] at h
  rw [← Position.pending_read 0, Bool.not_eq_true]
  constructor
  · intro h
    refine ⟨by rw [depth, h.read_eq], by rw [h.read_eq], fun p hp => ?_⟩
    obtain ⟨u, hu, rfl⟩ := Position.mem_scanl.1 hp
    exact h.le_depth 0 u hu
  · rintro ⟨hend, hpending, hdepth⟩
    refine ⟨fun d => by rw [hadd, hend, hpending, Int.zero_add], fun d u hu => ?_⟩
    have hu : 0 ≤ depth u := hdepth _ (Position.mem_scanl.2 ⟨u, hu, rfl⟩)
    rw [hadd]
    exact Int.le_add_of_nonneg_left hu

instance : Decidable (Contained t) := decidable_of_iff _ contained_iff.symm

/-! ## Plain characters -/

/-- A character that a reader of groups passes over. -/
def isPlain (c : Char) : Bool := c ≠ '\\' && c ≠ '\x7b' && c ≠ '\x7d'

theorem Position.next_of_isPlain (hc : isPlain c) (d : Int) :
    (⟨d, false⟩ : Position).next c = ⟨d, false⟩ := by
  simp only [isPlain, Bool.and_eq_true, decide_eq_true_eq] at hc
  simp [next, hc]

theorem Contained.singleton (hc : isPlain c) : Contained [c] := by
  refine ⟨fun d => Position.next_of_isPlain hc d, fun d u hu => ?_⟩
  rcases List.prefix_cons_iff.1 hu with rfl | ⟨v, rfl, hv⟩
  · exact Int.le_refl d
  · rw [List.prefix_nil.1 hv, Position.read_cons, Position.next_of_isPlain hc]
    exact Int.le_refl d

theorem contained_of_forall_isPlain {t : Text} (h : ∀ c ∈ t, isPlain c) : Contained t := by
  rw [← List.flatMap_singleton' t]
  exact .flatMap fun c hc => .singleton (h c hc)

/-! ## Escaped texts -/

theorem contained_escapeChar (c : Char) : Contained (escapeChar c) := by
  rcases escapeChar_cases c with ⟨_, h⟩ | ⟨_, h⟩ | ⟨hs, _, h⟩ <;> rw [h]
  · refine ⟨fun d => by simp [Position.next], fun d u hu => ?_⟩
    simp only [List.prefix_cons_iff, List.prefix_nil] at hu
    rcases hu with rfl | ⟨_, rfl, rfl | ⟨_, rfl, rfl⟩⟩ <;> simp [Position.next]
  · -- the empty group opens behind the character and closes at once
    refine ⟨fun d => by simp [Position.next], fun d u hu => ?_⟩
    simp only [List.prefix_cons_iff, List.prefix_nil] at hu
    rcases hu with rfl | ⟨_, rfl, rfl | ⟨_, rfl, rfl | ⟨_, rfl, rfl | ⟨_, rfl, rfl⟩⟩⟩⟩ <;>
      simp [Position.next, show d ≤ d + 1 by omega]
  · refine .singleton ?_
    simp only [symbols, List.mem_cons, List.not_mem_nil, or_false, not_or] at hs
    simp [isPlain, hs]

theorem contained_escape (t : Text) : Contained (escape t) := by
  rw [escape_eq_flatMap]
  exact .flatMap fun c _ => contained_escapeChar c

/-! ## Numbers -/

/-- A Latin letter, a digit or a sign that numbers are written with. -/
def isScalarChar (c : Char) : Bool := c.isAlphanum || c = '.' || c = '-' || c = '+'

theorem isPlain_of_isScalarChar (hc : isScalarChar c) : isPlain c := by
  simp only [isPlain, Bool.and_eq_true, decide_eq_true_eq]
  refine ⟨⟨?_, ?_⟩, ?_⟩ <;> rintro rfl <;> exact absurd hc (by decide)

theorem isScalarChar_of_mem_digits (hc : c ∈ Number.digits n) : isScalarChar c := by
  have hdigit : c.isDigit := Nat.isDigit_of_mem_toDigits (by decide) (by decide) hc
  simp [isScalarChar, Char.isAlphanum, hdigit]

theorem isScalarChar_of_mem_positional (hc : c ∈ Number.positional d) : isScalarChar c := by
  have hzero : isScalarChar '0' := rfl
  unfold Number.positional at hc
  grind [isScalarChar_of_mem_digits, isScalarChar, List.mem_of_mem_take, List.mem_of_mem_drop]

theorem isScalarChar_of_mem_scientific (hc : c ∈ Number.scientific d) : isScalarChar c := by
  have hexponent : isScalarChar 'e' := rfl
  unfold Number.scientific at hc
  grind [isScalarChar_of_mem_digits, isScalarChar]

theorem isScalarChar_of_mem_displayDouble (hc : c ∈ Number.displayDouble x) : isScalarChar c := by
  unfold Number.displayDouble at hc
  grind [isScalarChar_of_mem_positional, isScalarChar_of_mem_scientific, isScalarChar]

theorem isScalarChar_of_mem_display {n : Number} (hc : c ∈ n.display) : isScalarChar c := by
  cases n with
  | int value =>
    cases value with
    | ofNat n => exact isScalarChar_of_mem_digits hc
    | negSucc n =>
      rcases List.mem_cons.1 hc with rfl | hc
      · rfl
      · exact isScalarChar_of_mem_digits hc
  | double x => exact isScalarChar_of_mem_displayDouble hc

end Curriculum.Latex
