import Curriculum.Proofs.Files.Place
import Curriculum.Proofs.Text.Utf8

/-! # Paths as they are shown

A path that is not text is shown with another character for what is lost, and the path that is meant
then is another one (`Path.shown`). It has the same shape, as nothing else is taken for a slash or
a dot: name by name it is what the names are shown as (`Path.names_shown`). Only text is shown as it
is (`Path.shown_eq_iff`). -/

namespace Curriculum.Path

open Utf8 (IsLow)

variable {path other name t : Text}

/-! ## Bytes -/

theorem toNat_stray (b : UInt8) : (stray b).toNat = 0x10FF00 + b.toNat := by
  have hb := b.toNat_lt
  have hvalid : (0x10FF00 + b.toNat).isValidChar := .inr ⟨by omega, by omega⟩
  rw [stray, Char.ofNat, dif_pos hvalid]
  rfl

theorem charBytes_stray (h : 0x80 ≤ b.toNat) : charBytes (stray b) = [b] := by
  have hstray : isStray (stray b) = true := by
    rw [isStray, decide_eq_true_eq, toNat_stray]
    omega
  rw [charBytes, hstray, if_pos rfl, toNat_stray]
  congr 1
  rw [← UInt8.toNat_inj, UInt8.toNat_ofNat']
  have hb := b.toNat_lt
  omega

theorem charBytes_low (h : c.toNat < 0x80) : charBytes c = [UInt8.ofNat c.toNat] := by
  have hstray : isStray c = false := by
    rw [isStray, decide_eq_false_iff_not]
    omega
  rw [charBytes, hstray, if_neg Bool.false_ne_true, String.utf8EncodeChar]
  exact if_pos (Nat.le_of_lt_succ h)

theorem charBytes_ne_nil (c : Char) : charBytes c ≠ [] := by
  unfold charBytes
  split
  · exact List.cons_ne_nil _ _
  · exact String.utf8EncodeChar_ne_nil

/-- Past ASCII no byte of a character is one of ASCII. -/
theorem le_of_mem_charBytes (h : 0x80 ≤ c.toNat) (hb : b ∈ charBytes c) : 0x80 ≤ b.toNat := by
  have hc : c.toNat < 0x110000 := by
    rcases c.valid with hc | hc
    · exact Nat.lt_trans hc (by decide)
    · exact hc.2
  unfold charBytes at hb
  split at hb
  · next hstray =>
    rw [isStray, decide_eq_true_eq] at hstray
    rw [List.mem_singleton.1 hb, UInt8.toNat_ofNat']
    omega
  · exact Utf8.le_of_mem_encodeChar h hb

theorem eq_of_ofNat_eq {c d : Char} (hc : c.toNat < 0x80) (hd : d.toNat < 0x80)
    (h : UInt8.ofNat c.toNat = UInt8.ofNat d.toNat) : c = d := by
  rw [← UInt8.toNat_inj, UInt8.toNat_ofNat', UInt8.toNat_ofNat'] at h
  rw [← Char.toNat_inj]
  omega

theorem eq_of_mem_charBytes {c d : Char} (hc : c.toNat < 0x80)
    (h : UInt8.ofNat c.toNat ∈ charBytes d) : d = c := by
  by_cases hd : d.toNat < 0x80
  · rw [charBytes_low hd, List.mem_singleton] at h
    exact (eq_of_ofNat_eq hc hd h).symm
  · have hle := le_of_mem_charBytes (Nat.not_lt.1 hd) h
    rw [UInt8.toNat_ofNat'] at hle
    omega

/-- No other path has the bytes of ASCII characters. -/
theorem eq_of_bytes (ht : ∀ c ∈ t, c.toNat < 0x80)
    (h : bytes path = t.map fun c => UInt8.ofNat c.toNat) : path = t := by
  induction path generalizing t with
  | nil => exact (List.map_eq_nil_iff.1 h.symm).symm
  | cons d path ih =>
    rw [bytes, List.flatMap_cons] at h
    obtain ⟨b, bs, hd⟩ := List.exists_cons_of_ne_nil (charBytes_ne_nil d)
    cases t with
    | nil => simp [hd] at h
    | cons c t =>
      have hc := ht c List.mem_cons_self
      have hfirst : UInt8.ofNat c.toNat ∈ charBytes d := by
        rw [hd, List.map_cons, List.cons_append] at h
        rw [hd, (List.cons.inj h).1]
        exact List.mem_cons_self
      obtain rfl := eq_of_mem_charBytes hc hfirst
      rw [charBytes_low hc, List.singleton_append, List.map_cons] at h
      rw [ih (fun e he => ht e (List.mem_cons_of_mem _ he)) (List.cons.inj h).2]

theorem bytes_append (path other : Text) : bytes (path ++ other) = bytes path ++ bytes other :=
  List.flatMap_append

/-! ## Texts -/

theorem ofText_append (t u : Text) : ofText (t ++ u) = ofText t ++ ofText u := List.flatMap_append

theorem bytes_ofText (t : Text) : bytes (ofText t) = Utf8.encode t := by
  rw [bytes, ofText, List.flatMap_assoc, Utf8.encode]
  congr 1
  funext c
  split
  · next hstray =>
    rw [isStray, decide_eq_true_eq] at hstray
    have hbytes : ∀ b ∈ String.utf8EncodeChar c, charBytes (stray b) = [b] := fun b hb =>
      charBytes_stray (Utf8.le_of_mem_encodeChar (Nat.le_trans (by decide) hstray) hb)
    rw [List.flatMap_map]
    generalize String.utf8EncodeChar c = bs at hbytes
    induction bs with
    | nil => rfl
    | cons b bs ih =>
      rw [List.flatMap_cons, hbytes b List.mem_cons_self,
        ih fun b hb => hbytes b (List.mem_cons_of_mem _ hb)]
      rfl
  · next hstray => simp [charBytes, hstray]

/-- Text is shown as it is. -/
@[simp] theorem display_ofText (t : Text) : display (ofText t) = t := by
  rw [display, bytes_ofText, Utf8.decodeLossy_encode]

@[simp] theorem shown_ofText (t : Text) : shown (ofText t) = ofText t := by
  rw [shown, display_ofText]

/-- What is shown as it is, is text. -/
theorem shown_eq_iff : shown path = path ↔ ∃ t, path = ofText t := by
  constructor
  · exact fun h => ⟨display path, h.symm⟩
  · rintro ⟨t, rfl⟩
    exact shown_ofText t

theorem ofText_low (h : ∀ c ∈ t, c.toNat < 0x80) : ofText t = t := by
  induction t with
  | nil => rfl
  | cons c t ih =>
    have hstray : isStray c = false := by
      have hc := h c List.mem_cons_self
      rw [isStray, decide_eq_false_iff_not]
      omega
    rw [ofText, List.flatMap_cons, hstray, if_neg Bool.false_ne_true, List.singleton_append]
    exact congrArg (c :: ·) (ih fun d hd => h d (List.mem_cons_of_mem _ hd))

/-! ## The shape -/

theorem display_append_cons (path other : Text) :
    display (path ++ '/' :: other) = display path ++ '/' :: display other := by
  have hslash : bytes (path ++ '/' :: other) = bytes path ++ 0x2F :: bytes other :=
    bytes_append ..
  rw [display, hslash, Utf8.decodeLossy, Utf8.pieces_append_cons (by decide), List.map_append]
  rfl

theorem shown_append_cons (path other : Text) :
    shown (path ++ '/' :: other) = shown path ++ '/' :: shown other := by
  rw [shown, display_append_cons, ofText_append]
  rfl

/-- ASCII is shown only where it is. -/
theorem mem_of_mem_display (hc : IsLow c) (h : c ∈ display path) : c ∈ path := by
  obtain ⟨d, hd, hb⟩ := List.mem_flatMap.1 (Utf8.mem_of_mem_decodeLossy hc h)
  exact eq_of_mem_charBytes hc.1 hb ▸ hd

theorem not_mem_ofText (h : '/' ∉ t) : '/' ∉ ofText t := by
  intro hmem
  obtain ⟨start, rest, heq⟩ := List.append_of_mem hmem
  have hdisplay : t = display start ++ '/' :: display rest := by
    rw [← display_append_cons, ← heq, display_ofText]
  exact h (by simp [hdisplay])

theorem not_mem_shown (h : '/' ∉ path) : '/' ∉ shown path :=
  not_mem_ofText fun hmem => h (mem_of_mem_display (by decide) hmem)

theorem ofText_eq_low (ht : ∀ c ∈ t, c.toNat < 0x80) : ofText u = t ↔ u = t := by
  constructor
  · rintro rfl
    rw [← display_ofText (ofText u), ofText_low ht, display_ofText]
  · rintro rfl
    exact ofText_low ht

/-- ASCII is shown as it is, and nothing else is shown so. -/
theorem display_eq_low (ht : ∀ c ∈ t, IsLow c) : display path = t ↔ path = t := by
  have hlow : ∀ c ∈ t, c.toNat < 0x80 := fun c hc => (ht c hc).1
  constructor
  · exact fun h => eq_of_bytes hlow (Utf8.eq_of_decodeLossy ht h)
  · rintro rfl
    exact (congrArg display (ofText_low hlow).symm).trans (display_ofText path)

theorem shown_eq_low (ht : ∀ c ∈ t, IsLow c) : shown path = t ↔ path = t := by
  rw [shown, ofText_eq_low fun c hc => (ht c hc).1, display_eq_low ht]

@[simp] theorem shown_nil : shown [] = [] := rfl

@[simp] theorem shown_nil_iff : shown path = [] ↔ path = [] := shown_eq_low (by simp)

@[simp] theorem shown_dot_iff : shown path = ['.'] ↔ path = ['.'] :=
  shown_eq_low (by simp [IsLow])

@[simp] theorem shown_up_iff : shown path = ['.', '.'] ↔ path = ['.', '.'] :=
  shown_eq_low (by simp [IsLow])

theorem split_shown (path : Text) : Text.split '/' (shown path) = (Text.split '/' path).map shown := by
  by_cases h : '/' ∈ path
  · obtain ⟨word, rest, rfl, hword⟩ := List.eq_append_cons_of_mem h
    rw [shown_append_cons, Text.split_append_cons, Text.split_append_cons, List.map_append,
      Text.split_of_not_mem hword, Text.split_of_not_mem (not_mem_shown hword), split_shown rest]
    rfl
  · rw [Text.split_of_not_mem h, Text.split_of_not_mem (not_mem_shown h)]
    rfl
termination_by path.length

/-- The names of what is shown are those of the path, each as it is shown. -/
theorem names_shown (path : Text) : names (shown path) = (names path).map shown := by
  rw [names_eq_filter, names_eq_filter, split_shown, List.filter_map]
  congr 1
  refine List.filter_congr fun name _ => ?_
  simp [Function.comp_apply]

theorem isAbsolute_iff_split :
    isAbsolute path = true ↔ ∃ next rest, Text.split '/' path = [] :: next :: rest := by
  cases path with
  | nil => simp [isAbsolute, Text.split]
  | cons c path =>
    obtain ⟨next, rest, hsplit⟩ := List.exists_cons_of_ne_nil (Text.split_ne_nil '/' path)
    by_cases hc : c = '/' <;> simp [isAbsolute, Text.split, hc, hsplit]

theorem isAbsolute_shown (path : Text) : isAbsolute (shown path) = isAbsolute path := by
  rw [Bool.eq_iff_iff, isAbsolute_iff_split, isAbsolute_iff_split, split_shown]
  cases Text.split '/' path with
  | nil => simp
  | cons first rest => cases rest <;> simp

theorem isPlain_ofText (h : IsPlain name) : IsPlain (ofText name) := by
  obtain ⟨hslash, hne, hdot, hup⟩ := h
  exact ⟨not_mem_ofText hslash, (ofText_eq_low (by simp)).not.2 hne,
    (ofText_eq_low (by simp)).not.2 hdot, (ofText_eq_low (by simp)).not.2 hup⟩

theorem descends_shown (h : Descends path) : Descends (shown path) := by
  rw [Descends, names_shown, List.mem_map]
  rintro ⟨name, hname, heq⟩
  exact h (shown_up_iff.1 heq ▸ hname)

/-- What a path is shown as lies as deep. -/
theorem length_place_shown (here : Place) (path : Text) :
    (place here (shown path)).length = (place here path).length := by
  rw [place, place, isAbsolute_shown, names_shown, List.length_append, List.length_append,
    List.length_map]

/-! ## All bytes -/

/-- A character that some bytes start with is spelled by the first of them. -/
theorem isPrefix_of_decode {bs : Bytes} (h : bs.toByteArray.utf8DecodeChar? 0 = some c) :
    String.utf8EncodeChar c <+: bs := by
  obtain ⟨rest, heq⟩ := ByteArray.exists_of_utf8DecodeChar?_eq_some h
  have hrest : rest = rest.data.toList.toByteArray :=
    ByteArray.ext (by rw [List.data_toByteArray, Array.toArray_toList])
  rw [hrest, ← List.toByteArray_append, List.toByteArray_inj] at heq
  exact ⟨_, heq.symm⟩

theorem le_of_decode_eq_none {bs : Bytes} (h : (b :: bs).toByteArray.utf8DecodeChar? 0 = none) :
    0x80 ≤ b.toNat := by
  refine Nat.not_lt.1 fun hb => ?_
  have hvalid : b.toNat.isValidChar := .inl (Nat.lt_trans hb (by decide))
  have hbyte : String.utf8EncodeChar (Char.ofNat b.toNat) = [b] := by
    have hnat : (Char.ofNat b.toNat).val.toNat = b.toNat := by
      rw [Char.ofNat, dif_pos hvalid]
      rfl
    rw [String.utf8EncodeChar, hnat, if_pos (Nat.le_of_lt_succ hb), UInt8.ofNat_toNat]
  rw [← List.singleton_append, ← hbyte, List.toByteArray_append,
    ByteArray.utf8DecodeChar?_utf8EncodeChar_append] at h
  cases h

theorem bytes_ofBytesFrom (skipped : Nat) (bs : Bytes) :
    bytes (ofBytesFrom skipped bs) = bs.drop skipped := by
  fun_induction ofBytesFrom skipped bs with
  | case1 => rw [List.drop_nil]; rfl
  | case2 skipped b rest ih => rw [ih, List.drop_succ_cons]
  | case3 b rest c hread ih =>
    obtain ⟨after, hafter⟩ := (isPrefix_of_decode hread).trans (List.take_prefix 4 _)
    obtain ⟨size, hsize⟩ := Nat.exists_eq_add_of_lt (Char.utf8Size_pos c)
    have hdrop : (b :: rest).drop c.utf8Size = after := by
      rw [← hafter, ← String.length_utf8EncodeChar, List.drop_left]
    have hspelled : Utf8.encode [c] = String.utf8EncodeChar c := List.append_nil _
    rw [hsize, Nat.zero_add, List.drop_succ_cons] at hdrop
    rw [bytes_append, bytes_ofText, hspelled, ih, hsize, Nat.zero_add, Nat.add_sub_cancel, hdrop,
      List.drop_zero, hafter]
  | case4 b rest hread ih =>
    have hstray : bytes (stray b :: ofBytesFrom 0 rest) =
        charBytes (stray b) ++ bytes (ofBytesFrom 0 rest) := List.flatMap_cons
    rw [hstray, charBytes_stray (le_of_decode_eq_none hread), ih]
    rfl

/-- All bytes are those of a path. -/
theorem bytes_ofBytes (bs : Bytes) : bytes (ofBytes bs) = bs := bytes_ofBytesFrom 0 bs

end Curriculum.Path
