import Curriculum.Text.Utf8
import Mathlib.Tactic.IntervalCases

/-! # Reading UTF-8

What is read of bytes is found step by step, with at most one character under way, and such a
character is past ASCII (`Pending.Sound`). So an ASCII byte is always read as its character and parts
the bytes before it from those behind it (`Utf8.pieces_append_cons`), and a text is read back from its
own bytes (`Utf8.decodeLossy_encode`). -/

namespace Curriculum.Utf8

/-- However the character goes on, it is past ASCII. -/
structure Pending.Sound (p : Pending) : Prop where
  low_le : 0x80 ≤ p.low.toNat
  high_le : p.high.toNat ≤ 0xBF
  wide : 0x80 ≤ (p.bits * 0x40 + p.low.toNat % 0x40) * 0x40 ^ (p.owed - 1)

/-- Nothing is under way, or a character past ASCII. -/
def Sound (pending : Option Pending) : Prop := ∀ p ∈ pending, p.Sound

/-- A character that is read of one byte. NUL is left out, which also stands for no character. -/
def IsLow (c : Char) : Prop := c.toNat < 0x80 ∧ c ≠ '\x00'

instance : Decidable (IsLow c) := inferInstanceAs (Decidable (_ ∧ _))

/-! ## Single bytes -/

theorem ofFirst_ascii (h : b.toNat < 0x80) : Pending.ofFirst b = some ⟨b.toNat, 0, 0x80, 0xBF⟩ :=
  if_pos (UInt8.lt_iff_toNat_lt.2 h)

/-- Past ASCII a first byte announces more. -/
theorem ofFirst_sound (hb : 0x80 ≤ b.toNat) (h : Pending.ofFirst b = some p) :
    p.owed ≠ 0 ∧ p.Sound := by
  unfold Pending.ofFirst at h
  simp only [UInt8.lt_iff_toNat_lt, ← UInt8.toNat_inj, UInt8.reduceToNat] at h
  rw [if_neg (Nat.not_lt.2 hb)] at h
  split at h
  · cases h
  split at h
  · cases h
    exact ⟨Nat.succ_ne_zero _, by simp, by simp, by simp; omega⟩
  split at h
  · cases h
    refine ⟨Nat.succ_ne_zero _, ?_, ?_, ?_⟩
    · dsimp only; split <;> simp
    · dsimp only; split <;> simp
    · dsimp only; split <;> simp <;> omega
  split at h
  · cases h
    refine ⟨Nat.succ_ne_zero _, ?_, ?_, ?_⟩
    · dsimp only; split <;> simp
    · dsimp only; split <;> simp
    · dsimp only; split <;> simp <;> omega
  · cases h

theorem not_isLow_ofNat (h : 0x80 ≤ n) : ¬IsLow (Char.ofNat n) := by
  rintro ⟨hlow, hnul⟩
  by_cases hvalid : n.isValidChar
  · rw [Char.ofNat, dif_pos hvalid] at hlow
    exact absurd hlow (Nat.not_lt.2 h)
  · rw [Char.ofNat, dif_neg hvalid] at hnul
    exact hnul rfl

/-- An ASCII byte completes its character, and ends what is under way. -/
theorem next_ascii (hpending : Sound pending) (hb : b.toNat < 0x80) :
    next pending b =
      ((pending.map fun _ => none).toList ++ [some (Char.ofNat b.toNat)], none) := by
  have hfirst : first b = ([some (Char.ofNat b.toNat)], none) := by
    rw [first, ofFirst_ascii hb]
    rfl
  cases pending with
  | none => exact hfirst
  | some p =>
    have hlow := (hpending p rfl).low_le
    have hends : ¬(p.low ≤ b && b ≤ p.high) = true := by
      simp only [Bool.and_eq_true, decide_eq_true_eq, UInt8.le_iff_toNat_le]
      omega
    rw [next, if_neg hends, hfirst]
    rfl

/-- A byte past ASCII completes no ASCII character. -/
theorem next_sound (hpending : Sound pending) (hb : 0x80 ≤ b.toNat) :
    Sound (next pending b).2 ∧ ∀ c, some c ∈ (next pending b).1 → ¬IsLow c := by
  have hfirst : Sound (first b).2 ∧ ∀ c, some c ∈ (first b).1 → ¬IsLow c := by
    unfold first
    split
    · exact ⟨fun _ h => (Option.not_mem_none _ h).elim, by simp⟩
    · next p hp =>
      obtain ⟨howed, hsound⟩ := ofFirst_sound hb hp
      rw [if_neg howed]
      refine ⟨?_, by simp⟩
      rintro _ ⟨⟩
      exact hsound
  cases pending with
  | none => exact hfirst
  | some p =>
    obtain ⟨hlow, hhigh, hwide⟩ := hpending p rfl
    rw [next]
    split
    · next hgoes =>
      simp only [Bool.and_eq_true, decide_eq_true_eq, UInt8.le_iff_toNat_le] at hgoes
      have hbits : p.bits * 0x40 + p.low.toNat % 0x40 ≤ p.bits * 0x40 + b.toNat % 0x40 := by omega
      dsimp only
      split
      · next howed =>
        refine ⟨fun _ h => (Option.not_mem_none _ h).elim, fun c hc => ?_⟩
        have hread : some c = some (Char.ofNat (p.bits * 0x40 + b.toNat % 0x40)) :=
          List.mem_singleton.1 hc
        cases hread
        rw [Nat.sub_eq_zero_of_le howed, Nat.pow_zero, Nat.mul_one] at hwide
        exact not_isLow_ofNat (Nat.le_trans hwide hbits)
      · next howed =>
        refine ⟨?_, by simp⟩
        rintro _ ⟨⟩
        refine ⟨Nat.le_refl _, Nat.le_refl _, Nat.le_trans hwide ?_⟩
        obtain ⟨owed, howed⟩ := Nat.exists_eq_add_of_lt (Nat.not_le.1 howed)
        simp only [howed, UInt8.reduceToNat, Nat.reduceMod, Nat.add_zero]
        rw [Nat.mul_assoc, ← Nat.pow_succ']
        refine Nat.mul_le_mul hbits (Nat.pow_le_pow_right (by decide) ?_)
        omega
    · refine ⟨hfirst.1, fun c hc => ?_⟩
      exact hfirst.2 c ((List.mem_cons.1 hc).resolve_left nofun)

theorem next_some (h : (next pending b).1 = []) : (next pending b).2 ≠ none := by
  have hfirst : (first b).1 = [] → (first b).2 ≠ none := by
    unfold first
    split
    · simp
    · split <;> simp
  cases pending with
  | none => exact hfirst h
  | some p =>
    rw [next] at h ⊢
    split at h
    · next hgoes =>
      rw [if_pos hgoes]
      dsimp only at h ⊢
      split at h
      · cases h
      · next howed => simp [howed]
    · cases h

theorem sound_none : Sound none := fun _ h => (Option.not_mem_none _ h).elim

/-! ## Sequences of bytes -/

theorem piecesFrom_cons (pending : Option Pending) (b : UInt8) (bs : Bytes) :
    piecesFrom pending (b :: bs) = (next pending b).1 ++ piecesFrom (next pending b).2 bs := by
  cases pending <;> rfl

theorem piecesFrom_append_cons (hpending : Sound pending) (hb : b.toNat < 0x80) (bs cs : Bytes) :
    piecesFrom pending (bs ++ b :: cs) =
      piecesFrom pending bs ++ some (Char.ofNat b.toNat) :: pieces cs := by
  induction bs generalizing pending with
  | nil =>
    rw [List.nil_append, piecesFrom_cons, next_ascii hpending hb]
    cases pending <;> rfl
  | cons x bs ih =>
    have hunder : Sound (next pending x).2 := by
      by_cases hx : x.toNat < 0x80
      · rw [next_ascii hpending hx]
        exact sound_none
      · exact (next_sound hpending (Nat.not_lt.1 hx)).1
    rw [List.cons_append, piecesFrom_cons, ih hunder, piecesFrom_cons, List.append_assoc]

/-- An ASCII byte parts what is read before it from what is read behind it. -/
theorem pieces_append_cons (hb : b.toNat < 0x80) (bs cs : Bytes) :
    pieces (bs ++ b :: cs) = pieces bs ++ some (Char.ofNat b.toNat) :: pieces cs :=
  piecesFrom_append_cons sound_none hb bs cs

theorem toNat_inj_of_ofNat {b : UInt8} (h : Char.ofNat b.toNat = c) : UInt8.ofNat c.toNat = b := by
  have hvalid : b.toNat.isValidChar := .inl (Nat.lt_trans b.toNat_lt (by decide))
  subst h
  rw [Char.ofNat, dif_pos hvalid]
  exact UInt8.ofNat_toNat

/-- An ASCII character is read of its byte only. -/
theorem mem_of_mem_piecesFrom (hpending : Sound pending) (hc : IsLow c)
    (h : some c ∈ piecesFrom pending bs) : UInt8.ofNat c.toNat ∈ bs := by
  induction bs generalizing pending with
  | nil => cases pending <;> simp [piecesFrom] at h
  | cons b bs ih =>
    rw [piecesFrom_cons, List.mem_append] at h
    by_cases hb : b.toNat < 0x80
    · rw [next_ascii hpending hb] at h
      rcases h with h | h
      · rcases List.mem_append.1 h with h | h
        · cases pending <;> simp at h
        · have hread := List.mem_singleton.1 h
          exact List.mem_cons.2 (.inl (toNat_inj_of_ofNat (Option.some.inj hread).symm))
      · exact List.mem_cons_of_mem _ (ih sound_none h)
    · obtain ⟨hunder, hnot⟩ := next_sound hpending (Nat.not_lt.1 hb)
      exact List.mem_cons_of_mem _ (ih hunder (h.resolve_left fun h => hnot c h hc))

/-- What starts with an ASCII character is read of its byte and what follows. -/
theorem eq_cons_of_piecesFrom (hpending : Sound pending) (hc : IsLow c)
    (h : piecesFrom pending bs = some c :: ps) :
    pending = none ∧ ∃ rest, bs = UInt8.ofNat c.toNat :: rest ∧ pieces rest = ps := by
  induction bs generalizing pending with
  | nil => cases pending <;> simp [piecesFrom] at h
  | cons b bs ih =>
    rw [piecesFrom_cons] at h
    by_cases hb : b.toNat < 0x80
    · rw [next_ascii hpending hb] at h
      cases pending with
      | some p => cases h
      | none =>
        obtain ⟨hread, hrest⟩ := List.cons.inj h
        exact ⟨rfl, bs, by rw [toNat_inj_of_ofNat (Option.some.inj hread)], hrest⟩
    · obtain ⟨hunder, hnot⟩ := next_sound hpending (Nat.not_lt.1 hb)
      cases hcomplete : (next pending b).1 with
      | nil =>
        rw [hcomplete] at h
        exact absurd (ih hunder h).1 (next_some hcomplete)
      | cons p _ =>
        rw [hcomplete] at h
        obtain ⟨rfl, -⟩ := List.cons.inj h
        exact absurd hc (hnot c (by rw [hcomplete]; exact List.mem_cons_self))

theorem pieces_eq_nil (h : pieces bs = []) : bs = [] := by
  have hnever (bs : Bytes) (p : Pending) : piecesFrom (some p) bs ≠ [] := by
    induction bs generalizing p with
    | nil => simp [piecesFrom]
    | cons b bs ih =>
      rw [piecesFrom_cons]
      cases hunder : (next (some p) b).2 with
      | some q => exact fun h => ih q (List.append_eq_nil_iff.1 h).2
      | none => exact fun h => next_some (List.append_eq_nil_iff.1 h).1 hunder
  cases bs with
  | nil => rfl
  | cons b bs =>
    rw [pieces, piecesFrom_cons] at h
    obtain ⟨hcomplete, hrest⟩ := List.append_eq_nil_iff.1 h
    obtain ⟨p, hunder⟩ := Option.ne_none_iff_exists'.1 (next_some hcomplete)
    rw [hunder] at hrest
    exact absurd hrest (hnever bs p)

/-- No other bytes are read as ASCII characters only. -/
theorem eq_of_pieces {t : Text} (ht : ∀ c ∈ t, IsLow c) (h : pieces bs = t.map some) :
    bs = t.map fun c => UInt8.ofNat c.toNat := by
  induction t generalizing bs with
  | nil => exact pieces_eq_nil h
  | cons c t ih =>
    obtain ⟨-, rest, rfl, hrest⟩ := eq_cons_of_piecesFrom sound_none (ht c List.mem_cons_self) h
    rw [ih (fun d hd => ht d (List.mem_cons_of_mem _ hd)) hrest, List.map_cons]

/-- The replacement character is none of ASCII. -/
theorem eq_some_of_getD (hc : IsLow c) (h : Option.getD p '\uFFFD' = c) : p = some c := by
  cases p with
  | some d => rw [← h, Option.getD_some]
  | none =>
    subst h
    exact absurd hc.1 (by decide)

theorem mem_of_mem_decodeLossy (hc : IsLow c) (h : c ∈ decodeLossy bs) :
    UInt8.ofNat c.toNat ∈ bs := by
  obtain ⟨p, hp, hread⟩ := List.mem_map.1 h
  rw [eq_some_of_getD hc hread] at hp
  exact mem_of_mem_piecesFrom sound_none hc hp

theorem eq_of_decodeLossy {t : Text} (ht : ∀ c ∈ t, IsLow c) (h : decodeLossy bs = t) :
    bs = t.map fun c => UInt8.ofNat c.toNat := by
  refine eq_of_pieces ht ?_
  rw [decodeLossy] at h
  generalize pieces bs = ps at h ⊢
  induction ps generalizing t with
  | nil => rw [← h]; rfl
  | cons p ps ih =>
    subst h
    rw [List.map_cons, List.map_cons, ← ih (fun d hd => ht d (List.mem_cons_of_mem _ hd)) rfl,
      eq_some_of_getD (ht _ List.mem_cons_self) rfl]
    rfl

/-! ## Reading texts back -/

theorem toNat_tail (h : k < 0x40) : (UInt8.ofNat (k + 0x80)).toNat = k + 0x80 := by
  rw [UInt8.toNat_ofNat', Nat.mod_eq_of_lt (by omega)]

section
variable {low high : UInt8} (h : k < 0x40) (hlow : low.toNat ≤ k + 0x80) (hhigh : k + 0x80 ≤ high.toNat)
include h hlow hhigh

theorem next_tail (bits owed : Nat) :
    next (some ⟨bits, owed, low, high⟩) (UInt8.ofNat (k + 0x80)) =
      if owed ≤ 1 then ([some (Char.ofNat (bits * 0x40 + k))], none)
      else ([], some ⟨bits * 0x40 + k, owed - 1, 0x80, 0xBF⟩) := by
  have hgoes : (low ≤ UInt8.ofNat (k + 0x80) && UInt8.ofNat (k + 0x80) ≤ high) = true := by
    simp only [Bool.and_eq_true, decide_eq_true_eq, UInt8.le_iff_toNat_le, toNat_tail h]
    exact ⟨hlow, hhigh⟩
  have hbits : (UInt8.ofNat (k + 0x80)).toNat % 0x40 = k := by
    rw [toNat_tail h]
    omega
  rw [next, if_pos hgoes, hbits]

theorem piecesFrom_last (bits : Nat) (bs : Bytes) :
    piecesFrom (some ⟨bits, 1, low, high⟩) (UInt8.ofNat (k + 0x80) :: bs) =
      some (Char.ofNat (bits * 0x40 + k)) :: pieces bs := by
  rw [piecesFrom_cons, next_tail h hlow hhigh]
  rfl

theorem piecesFrom_more (bits owed : Nat) (bs : Bytes) :
    piecesFrom (some ⟨bits, owed + 2, low, high⟩) (UInt8.ofNat (k + 0x80) :: bs) =
      piecesFrom (some ⟨bits * 0x40 + k, owed + 1, 0x80, 0xBF⟩) bs := by
  rw [piecesFrom_cons, next_tail h hlow hhigh]
  rfl

end

theorem pieces_two (hlow : 2 ≤ k) (h : k < 0x20) (bs : Bytes) :
    pieces (UInt8.ofNat (k + 0xC0) :: bs) = piecesFrom (some ⟨k, 1, 0x80, 0xBF⟩) bs := by
  interval_cases k <;> rfl

theorem pieces_three (h : k < 0x10) (bs : Bytes) :
    pieces (UInt8.ofNat (k + 0xE0) :: bs) =
      piecesFrom (some ⟨k, 2, if k = 0 then 0xA0 else 0x80, if k = 13 then 0x9F else 0xBF⟩) bs := by
  interval_cases k <;> rfl

theorem pieces_four (h : k < 5) (bs : Bytes) :
    pieces (UInt8.ofNat (k + 0xF0) :: bs) =
      piecesFrom (some ⟨k, 3, if k = 0 then 0x90 else 0x80, if k = 4 then 0x8F else 0xBF⟩) bs := by
  interval_cases k <;> rfl

/-- A character is read of its bytes. -/
theorem pieces_encodeChar (c : Char) (bs : Bytes) :
    pieces (String.utf8EncodeChar c ++ bs) = some c :: pieces bs := by
  have hc : Char.ofNat c.val.toNat = c := Char.ofNat_toNat c
  have hvalid : c.val.toNat < 0xD800 ∨ 0xDFFF < c.val.toNat ∧ c.val.toNat < 0x110000 := c.valid
  rw [String.utf8EncodeChar]
  generalize c.val.toNat = v at hc hvalid
  -- one case for each number of bytes
  split
  · have hb : (UInt8.ofNat v).toNat = v := by
      rw [UInt8.toNat_ofNat', Nat.mod_eq_of_lt (by omega)]
    have hread := pieces_append_cons (b := UInt8.ofNat v) (by omega) [] bs
    rwa [hb, hc] at hread
  split
  · have hbits : v / 64 % 32 * 0x40 + v % 64 = v := by omega
    simp only [List.cons_append, List.nil_append]
    rw [pieces_two (by omega) (by omega), piecesFrom_last (by omega) (by simp) (by simp; omega),
      hbits, hc]
  split
  · have hbits : (v / 4096 % 16 * 0x40 + v / 64 % 64) * 0x40 + v % 64 = v := by omega
    simp only [List.cons_append, List.nil_append]
    rw [pieces_three (by omega), piecesFrom_more (by omega) (by split <;> simp; omega)
        (by split <;> simp <;> omega), piecesFrom_last (by omega) (by simp) (by simp; omega),
      hbits, hc]
  · have hbits :
        ((v / 262144 % 8 * 0x40 + v / 4096 % 64) * 0x40 + v / 64 % 64) * 0x40 + v % 64 = v := by
      omega
    simp only [List.cons_append, List.nil_append]
    rw [pieces_four (by omega), piecesFrom_more (by omega) (by split <;> simp; omega)
        (by split <;> simp <;> omega), piecesFrom_more (by omega) (by simp) (by simp; omega),
      piecesFrom_last (by omega) (by simp) (by simp; omega), hbits, hc]

/-- Past ASCII no byte of a character is one of ASCII. -/
theorem le_of_mem_encodeChar (h : 0x80 ≤ c.toNat) (hb : b ∈ String.utf8EncodeChar c) :
    0x80 ≤ b.toNat := by
  have hv : c.val.toNat = c.toNat := rfl
  rw [String.utf8EncodeChar, hv, if_neg (by omega)] at hb
  split at hb
  · simp only [List.mem_cons, List.not_mem_nil, or_false] at hb
    rcases hb with rfl | rfl <;> rw [UInt8.toNat_ofNat'] <;> omega
  split at hb
  · simp only [List.mem_cons, List.not_mem_nil, or_false] at hb
    rcases hb with rfl | rfl | rfl <;> rw [UInt8.toNat_ofNat'] <;> omega
  · simp only [List.mem_cons, List.not_mem_nil, or_false] at hb
    rcases hb with rfl | rfl | rfl | rfl <;> rw [UInt8.toNat_ofNat'] <;> omega

theorem pieces_encode (t : Text) : pieces (encode t) = t.map some := by
  induction t with
  | nil => rfl
  | cons c t ih =>
    rw [encode, List.flatMap_cons, pieces_encodeChar, List.map_cons, ← ih]
    rfl

/-- A text is read back from its bytes. -/
theorem decodeLossy_encode (t : Text) : decodeLossy (encode t) = t := by
  rw [decodeLossy, pieces_encode, List.map_map]
  exact List.map_id t

end Curriculum.Utf8
