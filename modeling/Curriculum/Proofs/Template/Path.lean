import Curriculum.Decimal.Number
import Curriculum.Proofs.Json.Strings
import Curriculum.Proofs.Text.Split
import Curriculum.Proofs.Text.Trim
import Curriculum.Template.Path

/-! # Paths through items

A path is a row of segments, and the path of the scope itself has none (`resolve_eq_foldlM`). The
position of an item in decimal digits is a segment like any other, so a path to an array, a position
and a path below the item make one path (`resolve_itemPath`). -/

namespace Curriculum

namespace Text

/-! ## Trimmed parts -/

theorem trim_eq_self_of_forall {t : Text} (h : ∀ c ∈ t, isBlank c = false) : trim t = t := by
  obtain ⟨w, w', hw, hw', ht⟩ := trim_split t
  have hnil : ∀ v, allBlank v → (∀ c ∈ v, c ∈ t) → v = [] := by
    intro v hv hmem
    refine List.eq_nil_iff_forall_not_mem.2 fun c hc => ?_
    exact not_mem_of_allBlank hv (h c (hmem c hc)) hc
  have hw : w = [] := hnil w hw fun c hc => by rw [ht]; simp [hc]
  have hw' : w' = [] := hnil w' hw' fun c hc => by rw [ht]; simp [hc]
  rw [hw, hw', List.nil_append, List.append_nil] at ht
  exact ht.symm

theorem trimEnd_cons_eq_self (hc : isBlank c = false) (ht : trimEnd t = t) :
    trimEnd (c :: t) = c :: t := by
  rcases eq_or_ne t [] with rfl | hne
  · simp [trimEnd, hc]
  · rw [← List.singleton_append, trimEnd_append_of_ne_nil (ht.symm ▸ hne), ht]

theorem trim_append_cons (ht : trim t = t) (hc : isBlank c = false) (hu : trim u = u) :
    trim (t ++ c :: u) = t ++ c :: u := by
  have hstart : trimStart (t ++ c :: u) = t ++ c :: u := by
    cases t with
    | nil => exact trimStart_eq_self_of_cons hc u
    | cons d t => exact trimStart_eq_self_of_cons (head_of_trim_eq ht) (t ++ c :: u)
  have hend : trimEnd (c :: u) = c :: u := trimEnd_cons_eq_self hc (trimEnd_of_trim_eq hu)
  rw [trim, hstart, trimEnd_append_of_ne_nil (hend.symm ▸ List.cons_ne_nil c u), hend]

/-- Trimmed parts with a visible character between them make a trimmed text. -/
theorem trim_join (hc : isBlank c = false) {parts : List Text}
    (h : ∀ t ∈ parts, trim t = t) : trim (join [c] parts) = join [c] parts := by
  fun_induction join [c] parts with
  | case1 => rfl
  | case2 t => exact h t List.mem_cons_self
  | case3 t u parts ih =>
    obtain ⟨ht, hrest⟩ := List.forall_mem_cons.1 h
    rw [List.append_assoc, List.singleton_append]
    exact trim_append_cons ht hc (ih hrest)

/-! ## Digits -/

theorem foldlM_isDigit {t : Text} (h : ∀ c ∈ t, c.isDigit) (n : Nat) :
    t.foldlM (fun n c => if c.isDigit then some (n * 10 + (c.toNat - '0'.toNat)) else none) n =
      some (Nat.ofDigitChars 10 t n) := by
  induction t generalizing n with
  | nil => rfl
  | cons c t ih =>
    obtain ⟨hc, ht⟩ := List.forall_mem_cons.1 h
    rw [List.foldlM_cons, if_pos hc, Nat.ofDigitChars_cons, Nat.mul_comm]
    exact ih ht _

theorem isDigit_of_mem_digits (h : c ∈ Number.digits n) : c.isDigit :=
  Nat.isDigit_of_mem_toDigits (by decide) (by decide) h

theorem not_isBlank_of_isDigit (h : c.isDigit) : isBlank c = false := by
  have hc : 48 ≤ c.toNat ∧ c.toNat ≤ 57 := by
    simpa [Char.isDigit, UInt32.le_iff_toNat_le] using h
  simp only [isBlank, inRanges, blankRanges, List.any_cons, List.any_nil, Bool.or_false,
    Bool.or_eq_false_iff, Bool.and_eq_false_iff, decide_eq_false_iff_not]
  omega

theorem trim_digits (n : Nat) : trim (Number.digits n) = Number.digits n :=
  trim_eq_self_of_forall fun _ hc => not_isBlank_of_isDigit (isDigit_of_mem_digits hc)

/-- The digits of a number denote it. -/
theorem natural?_digits (n : Nat) : natural? (Number.digits n) = some n := by
  have hne : Number.digits n ≠ [] := Nat.toDigits_ne_nil
  rw [natural?, if_neg (by simpa using hne), foldlM_isDigit fun _ => isDigit_of_mem_digits]
  exact congrArg some Nat.ofDigitChars_ten_toDigits

theorem word64?_digits (h : n < 0x10000000000000000) : word64? (Number.digits n) = some n := by
  have hplus : ∀ rest, Number.digits n ≠ '+' :: rest := by
    intro rest hrest
    have := isDigit_of_mem_digits (n := n) (hrest ▸ List.mem_cons_self)
    exact absurd this (by decide)
  unfold word64?
  split
  · next rest hrest => exact absurd hrest (hplus rest)
  · simp [natural?_digits, h]

end Text

namespace Template

open Json (Value)

/-! ## Segments -/

/-- The segments of a path. The path of the scope itself has none. -/
def segments (path : Text) : List Text := if path = thisWord then [] else Text.split '.' path

theorem resolve_eq_foldlM (scope : Value) (path : Text) :
    resolve scope path = (segments (Text.trim path)).foldlM child scope := by
  simp only [resolve, segments]
  split <;> rfl

/-- The path from the scope of a block over `p` to what `q` names for the item at a position. -/
def itemPath (p : Text) (position : Nat) (q : Text) : Text :=
  Text.join ['.'] ((if p = thisWord then [] else [p]) ++ [Number.digits position] ++
    if q = thisWord then [] else [q])

section
variable (p q : Text) (position : Nat)

theorem split_itemPath :
    Text.split '.' (itemPath p position q) =
      segments p ++ Number.digits position :: segments q := by
  have hpoint : '.' ∉ Number.digits position := fun h =>
    absurd (Text.isDigit_of_mem_digits h) (by decide)
  have hpart : ∀ r : Text, (if r = thisWord then [] else [r]).flatMap (Text.split '.') =
      segments r := by
    intro r
    rw [segments]
    split <;> simp
  rw [itemPath, Text.split_join '.' (by simp), List.flatMap_append, List.flatMap_append, hpart,
    hpart, List.flatMap_singleton, Text.split_of_not_mem hpoint, List.append_assoc]
  rfl

theorem segments_itemPath :
    segments (itemPath p position q) = segments p ++ Number.digits position :: segments q := by
  have hthis : itemPath p position q ≠ thisWord := by
    intro h
    -- the word would be its own only segment, and the digits of the position are one of them
    have hsplit : [thisWord] = segments p ++ Number.digits position :: segments q := by
      rw [← split_itemPath, h]
      rfl
    have hmem : Number.digits position ∈ [thisWord] := by simp [hsplit]
    have ht : 't' ∈ Number.digits position := List.mem_singleton.1 hmem ▸ List.mem_cons_self
    exact absurd (Text.isDigit_of_mem_digits ht) (by decide)
  rw [segments, if_neg hthis, split_itemPath]

variable {p q}

theorem trim_itemPath (hp : Text.trim p = p) (hq : Text.trim q = q) :
    Text.trim (itemPath p position q) = itemPath p position q := by
  have hpart : ∀ r : Text, Text.trim r = r →
      ∀ t ∈ if r = thisWord then [] else [r], Text.trim t = t := by
    intro r hr t ht
    split at ht
    · cases ht
    · rwa [List.mem_singleton.1 ht]
  have hpoint : isBlank '.' = false := by decide
  refine Text.trim_join hpoint fun t ht => ?_
  rcases List.mem_append.1 ht with ht | ht
  · rcases List.mem_append.1 ht with ht | ht
    · exact hpart p hp t ht
    · rw [List.mem_singleton.1 ht, Text.trim_digits]
  · exact hpart q hq t ht

/-- A path through an item is walked in three parts. -/
theorem resolve_itemPath (hp : Text.trim p = p) (hq : Text.trim q = q) (scope : Value) :
    resolve scope (itemPath p position q) =
      (resolve scope p).bind fun v =>
        (child v (Number.digits position)).bind fun item => resolve item q := by
  have hpath := trim_itemPath position hp hq
  simp only [resolve_eq_foldlM, hpath, hp, hq, segments_itemPath, List.foldlM_append,
    List.foldlM_cons]
  rfl

end

/-! ## Steps down a value -/

/-- One segment leads to an item of an array or to a member of an object. -/
theorem mem_of_child {v w : Value} {segment : Text} (h : child v segment = some w) :
    (∃ items, v = .array items ∧ w ∈ items) ∨
      ∃ members, v = .object members ∧ (segment, w) ∈ members := by
  unfold child at h
  split at h
  · next members => exact .inr ⟨members, rfl, mem_of_lookup h⟩
  · next items =>
    obtain ⟨i, -, hi⟩ := Option.bind_eq_some_iff.1 h
    exact .inl ⟨items, rfl, List.mem_of_getElem? hi⟩
  · cases h

/-- What every step down keeps, a whole path keeps. -/
theorem resolve_induction {motive : Value → Prop} {scope w : Value}
    (h : resolve scope path = some w) (start : motive scope)
    (step : ∀ {segment v w}, child v segment = some w → motive v → motive w) : motive w := by
  rw [resolve_eq_foldlM] at h
  generalize segments (Text.trim path) = path at h
  induction path generalizing scope with
  | nil =>
    cases h
    exact start
  | cons segment rest ih =>
    rw [List.foldlM_cons] at h
    obtain ⟨v, hv, h⟩ := Option.bind_eq_some_iff.1 h
    exact ih (step hv start) h

end Template

namespace Json.Value

mutual
/-- The length of the longest array in a value. -/
def longest : Value → Nat
  | .array items => max items.length (longestOfItems items)
  | .object members => longestOfMembers members
  | _ => 0

/-- The length of the longest array in some items. -/
def longestOfItems : List Value → Nat
  | [] => 0
  | v :: vs => max v.longest (longestOfItems vs)

/-- The length of the longest array in some members. -/
def longestOfMembers : Members → Nat
  | [] => 0
  | (_, v) :: ms => max v.longest (longestOfMembers ms)
end

theorem longest_le_of_mem_items {items : List Value} (h : v ∈ items) :
    v.longest ≤ longestOfItems items := by
  induction items with
  | nil => cases h
  | cons w ws ih =>
    rw [longestOfItems]
    rcases List.mem_cons.1 h with rfl | h
    · exact Nat.le_max_left ..
    · exact (ih h).trans (Nat.le_max_right ..)

theorem longest_le_of_mem_members {members : Members} (h : (key, v) ∈ members) :
    v.longest ≤ longestOfMembers members := by
  induction members with
  | nil => cases h
  | cons m ms ih =>
    rw [longestOfMembers]
    rcases List.mem_cons.1 h with rfl | h
    · exact Nat.le_max_left ..
    · exact (ih h).trans (Nat.le_max_right ..)

theorem longest_le_of_resolve {scope v : Value} (h : Template.resolve scope path = some v) :
    v.longest ≤ scope.longest := by
  refine Template.resolve_induction (motive := fun v => v.longest ≤ scope.longest) h
    (Nat.le_refl _) fun hchild hle => ?_
  rcases Template.mem_of_child hchild with ⟨items, rfl, hmem⟩ | ⟨members, rfl, hmem⟩
  · rw [longest] at hle
    exact (longest_le_of_mem_items hmem).trans ((Nat.le_max_right ..).trans hle)
  · rw [longest] at hle
    exact (longest_le_of_mem_members hmem).trans hle

/-- An array that a path finds is not longer than the longest one. -/
theorem length_le_longest {scope : Value} (h : Template.resolve scope path = some (.array items)) :
    items.length ≤ scope.longest := by
  have := longest_le_of_resolve h
  rw [longest] at this
  exact (Nat.le_max_left ..).trans this

end Json.Value

end Curriculum
