import Curriculum.Text.Utf8

/-! # The order of texts

Texts are compared character by character (`Text.before_iff`). UTF-8 keeps this order, so comparing
two texts is comparing their bytes (`Utf8.encode_lt_iff`). -/

namespace Curriculum

namespace Text

variable {t u : Text}

theorem before_iff : before t u = true ↔ t < u := by
  induction t generalizing u with
  | nil => cases u <;> simp [before]
  | cons c t ih =>
    cases u with
    | nil => simp [before]
    | cons d u =>
      rw [before, List.cons_lt_cons_iff]
      split
      · next hcd =>
        subst hcd
        rw [ih]
        exact ⟨fun h => .inr ⟨rfl, h⟩, fun h => (h.resolve_left (Char.lt_irrefl c)).2⟩
      · next hcd => simp [hcd]

theorem lt_trichotomy (t u : Text) : t < u ∨ t = u ∨ u < t := by
  by_cases h : t < u
  · exact .inl h
  · exact .inr ((List.le_iff_lt_or_eq.1 (List.not_lt.1 h)).symm.imp_left Eq.symm)

end Text

namespace Utf8

variable {t u : Text}

/-- The bytes of two characters differ before either ends, so what follows them does not matter. -/
theorem encodeChar_append_lt (h : c < d) (bs cs : Bytes) :
    String.utf8EncodeChar c ++ bs < String.utf8EncodeChar d ++ cs := by
  have hlt : c.val.toNat < d.val.toNat := UInt32.lt_iff_toNat_lt.1 h
  have hvalid : d.val.toNat < 0x110000 := by
    rcases d.valid with hd | ⟨-, hd⟩
    · omega
    · exact hd
  simp only [String.utf8EncodeChar]
  -- The first byte tells how many there are, so only characters of one length share it.
  repeat' split
  all_goals
    simp (disch := omega) only [List.cons_append, List.nil_append, List.cons_lt_cons_iff,
      UInt8.lt_iff_toNat_lt, ← UInt8.toNat_inj, UInt8.toNat_ofNat', Nat.mod_eq_of_lt]
    omega

theorem encode_lt (h : t < u) : encode t < encode u := by
  induction t generalizing u with
  | nil =>
    cases u with
    | nil => exact absurd h (List.not_lt_nil _)
    | cons d u =>
      obtain ⟨b, bs, hd⟩ := List.exists_cons_of_ne_nil (String.utf8EncodeChar_ne_nil (c := d))
      rw [encode, encode, List.flatMap_cons, hd]
      exact List.nil_lt_cons ..
  | cons c t ih =>
    cases u with
    | nil => exact absurd h (List.not_lt_nil _)
    | cons d u =>
      rw [encode, encode, List.flatMap_cons, List.flatMap_cons]
      rcases List.cons_lt_cons_iff.1 h with hcd | ⟨rfl, htu⟩
      · exact encodeChar_append_lt hcd ..
      · exact List.append_left_lt (ih htu)

theorem encode_lt_iff : encode t < encode u ↔ t < u := by
  refine ⟨fun h => ?_, encode_lt⟩
  rcases Text.lt_trichotomy t u with htu | rfl | hut
  · exact htu
  · exact absurd h (List.lt_irrefl _)
  · exact absurd (List.lt_trans h (encode_lt hut)) (List.lt_irrefl _)

end Utf8

end Curriculum
