import Curriculum.Proofs.Files.Shown
import Curriculum.Proofs.Text.Order
import Curriculum.Registry.Basic

/-! # Looking up templates

A registry is made by insertions, and these keep its templates in the order of their ids
(`IsOrdered.insert`) and change what is found under one id only (`find?_insert`). What else can be
asked of a registry follows from these two facts. -/

namespace Curriculum

theorem toNat_of_isIdChar (h : isIdChar c) : 0x20 < c.toNat ∧ c.toNat < 0x7F := by
  simp only [isIdChar, Bool.or_eq_true, decide_eq_true_eq] at h
  rcases h with (h | rfl) | rfl
  · have hvalue : c.toNat = c.val.toNat := rfl
    change ((decide (c.val ≥ 65 ∧ c.val ≤ 90) || (c.val ≥ 97 && c.val ≤ 122)) ||
      (c.val ≥ 48 && c.val ≤ 57)) = true at h
    simp only [Bool.or_eq_true, Bool.and_eq_true, decide_eq_true_eq, UInt32.le_iff_toNat_le,
      ge_iff_le, UInt32.reduceToNat] at h
    omega
  all_goals decide

namespace TemplateId

/-- Text that an id may have. -/
def IsWellFormed (t : Text) : Prop := t ≠ [] ∧ ∀ c ∈ t, c.isAlphanum ∨ c = '-' ∨ c = '_'

theorem text_inj {a b : TemplateId} : a.text = b.text ↔ a = b :=
  ⟨fun h => by cases a; cases b; cases h; rfl, congrArg _⟩

theorem isWellFormed_iff : IsWellFormed t ↔ (!t.isEmpty && t.all isIdChar) = true := by
  simp [IsWellFormed, isIdChar, or_assoc]

theorem IsWellFormed.isIdChar_of_mem (h : IsWellFormed t) (hc : c ∈ t) : isIdChar c = true := by
  have hall := isWellFormed_iff.1 h
  rw [Bool.and_eq_true, List.all_eq_true] at hall
  exact hall.2 c hc

theorem IsWellFormed.isLow_of_mem (h : IsWellFormed t) (hc : c ∈ t) : Utf8.IsLow c := by
  obtain ⟨hlow, hhigh⟩ := toNat_of_isIdChar (h.isIdChar_of_mem hc)
  refine ⟨Nat.lt_trans hhigh (by decide), ?_⟩
  rintro rfl
  exact absurd hlow (by decide)

/-- A name that starts with an id is the same as a path. -/
theorem IsWellFormed.ofText_append {ending : Text} (h : IsWellFormed t)
    (hending : ∀ c ∈ ending, c.toNat < 0x80) : Path.ofText (t ++ ending) = t ++ ending := by
  refine Path.ofText_low fun c hc => ?_
  rcases List.mem_append.1 hc with hc | hc
  · exact (h.isLow_of_mem hc).1
  · exact hending c hc

theorem isWellFormed_text (id : TemplateId) : IsWellFormed id.text := isWellFormed_iff.2 id.valid

theorem ofText?_of_isWellFormed (h : IsWellFormed t) :
    ofText? t = some ⟨t, isWellFormed_iff.1 h⟩ :=
  ofText?_text ⟨t, isWellFormed_iff.1 h⟩

theorem ofText?_eq_none_iff : ofText? t = none ↔ ¬IsWellFormed t := by
  rw [isWellFormed_iff, ofText?]
  split <;> simp_all

/-- Only an id is shown as one. -/
theorem ofText?_display (name : Text) : ofText? (Path.display name) = ofText? name := by
  by_cases h : IsWellFormed (Path.display name)
  · rw [← (Path.display_eq_low fun _ => h.isLow_of_mem).1 rfl]
  · have hname : ¬IsWellFormed name := by
      intro hname
      rw [(Path.display_eq_low fun _ => hname.isLow_of_mem).2 rfl] at h
      exact h hname
    rw [ofText?_eq_none_iff.2 h, ofText?_eq_none_iff.2 hname]

end TemplateId

namespace Registry

variable {r base own : Registry} {id : Text} {t : Template}

/-! ## Insertion -/

theorem mem_insertOrdered {new : Template} (h : t ∈ insertOrdered new ts) : t = new ∨ t ∈ ts := by
  fun_induction insertOrdered new ts with
  | case1 => exact .inl (List.mem_singleton.1 h)
  | case2 u ts hid => exact (List.mem_cons.1 h).imp_right (List.mem_cons_of_mem u)
  | case3 u ts hid hbefore => exact List.mem_cons.1 h
  | case4 u ts hid hbefore ih =>
    rcases List.mem_cons.1 h with rfl | h
    · exact .inr List.mem_cons_self
    · exact (ih h).imp_right (List.mem_cons_of_mem u)

/-- The templates are in the order of their ids, each id once. -/
def IsOrdered (r : Registry) : Prop :=
  r.templates.Pairwise fun t u => t.definition.id.text < u.definition.id.text

theorem IsOrdered.insert (h : r.IsOrdered) (new : Template) : (r.insert new).IsOrdered := by
  obtain ⟨ts⟩ := r
  simp only [IsOrdered, Registry.insert] at h ⊢
  fun_induction insertOrdered new ts with
  | case1 => exact List.pairwise_singleton ..
  | case2 t ts hid =>
    obtain ⟨hhead, htail⟩ := List.pairwise_cons.1 h
    exact List.pairwise_cons.2 ⟨fun u hu => hid ▸ hhead u hu, htail⟩
  | case3 t ts hid hbefore =>
    refine List.pairwise_cons.2 ⟨fun u hu => ?_, h⟩
    have hlt := Text.before_iff.1 hbefore
    rcases List.mem_cons.1 hu with rfl | hu
    · exact hlt
    · exact List.lt_trans hlt ((List.pairwise_cons.1 h).1 u hu)
  | case4 t ts hid hbefore ih =>
    obtain ⟨hhead, htail⟩ := List.pairwise_cons.1 h
    refine List.pairwise_cons.2 ⟨fun u hu => ?_, ih htail⟩
    rcases mem_insertOrdered hu with rfl | hu
    · have hne := mt TemplateId.text_inj.1 hid
      have hnot := mt Text.before_iff.2 hbefore
      exact ((Text.lt_trichotomy _ _).resolve_left hnot).resolve_left hne
    · exact hhead u hu

theorem IsOrdered.insertAll (h : r.IsOrdered) (new : List Template) :
    (r.insertAll new).IsOrdered := by
  induction new generalizing r with
  | nil => exact h
  | cons t new ih => exact ih (h.insert t)

/-- The template of an id, if there is one. -/
def find? (r : Registry) (id : TemplateId) : Option Template :=
  r.templates.find? fun t => t.definition.id = id

theorem find?_insert (r : Registry) (new : Template) (id : TemplateId) :
    (r.insert new).find? id = if new.definition.id = id then some new else r.find? id := by
  -- The order of the templates plays no part: the new one goes before or in place of all of its id.
  obtain ⟨ts⟩ := r
  simp only [insert, find?]
  fun_induction insertOrdered new ts with
  | case1 => simp [List.find?_singleton]
  | case2 t ts hid => grind
  | case3 t ts hid hbefore => grind
  | case4 t ts hid hbefore ih => grind

/-- Where one registry answers before another does, it still does so after both have grown. -/
theorem find?_insertAll {r : Registry} (h : ∀ id, r.find? id = (own.find? id).or (base.find? id))
    (new : List Template) (id : TemplateId) :
    (r.insertAll new).find? id = ((own.insertAll new).find? id).or (base.find? id) := by
  induction new generalizing r own with
  | nil => exact h id
  | cons t new ih =>
    refine ih fun id => ?_
    rw [find?_insert, find?_insert, h id]
    split <;> rfl

theorem mem_insertAll {r : Registry} (h : t ∈ (r.insertAll new).templates) :
    t ∈ new ∨ t ∈ r.templates := by
  induction new generalizing r with
  | nil => exact .inr h
  | cons u new ih =>
    rcases ih (r := r.insert u) h with h | h
    · exact .inl (List.mem_cons_of_mem u h)
    · rcases mem_insertOrdered h with rfl | h
      · exact .inl List.mem_cons_self
      · exact .inr h

/-! ## Questions -/

theorem template_eq (r : Registry) (id : Text) :
    r.template id = match (TemplateId.ofText? id).bind r.find? with
      | some t => .ok t
      | none => .error (.notFound id) := rfl

theorem of_template_eq_ok (h : r.template id = .ok t) :
    t ∈ r.templates ∧ t.definition.id.text = id := by
  rw [template_eq] at h
  split at h
  · next hfind =>
    cases h
    obtain ⟨i, hi, hfind⟩ := Option.bind_eq_some_iff.1 hfind
    have hid : t.definition.id = i := by simpa using List.find?_some hfind
    exact ⟨List.mem_of_find?_eq_some hfind, hid ▸ TemplateId.text_of_ofText? hi⟩
  · cases h

theorem of_template_eq_error (h : r.template id = .error e) :
    e = .notFound id ∧ ∀ t ∈ r.templates, t.definition.id.text ≠ id := by
  rw [template_eq] at h
  split at h
  · cases h
  · next hfind =>
    cases h
    refine ⟨rfl, ?_⟩
    rintro t ht rfl
    rw [TemplateId.ofText?_text, Option.bind_some] at hfind
    simpa using List.find?_eq_none.1 hfind t ht

/-- The texts of the ids in the order of the listing. -/
def ids (r : Registry) : List Text := r.list.map fun d => d.id.text

theorem mem_ids : id ∈ r.ids ↔ ∃ t ∈ r.templates, t.definition.id.text = id := by
  simp [ids, list]

theorem mem_ids_iff_isSome {i : TemplateId} : i.text ∈ r.ids ↔ (r.find? i).isSome := by
  simp [mem_ids, find?, TemplateId.text_inj]

theorem mem_ids_insertAll {new : List Template} {i : TemplateId} :
    i.text ∈ (r.insertAll new).ids ↔ (∃ t ∈ new, t.definition.id = i) ∨ i.text ∈ r.ids := by
  induction new generalizing r with
  | nil => simp [insertAll]
  | cons t new ih =>
    have hinsert : i.text ∈ (r.insert t).ids ↔ t.definition.id = i ∨ i.text ∈ r.ids := by
      rw [mem_ids_iff_isSome, mem_ids_iff_isSome, find?_insert]
      split <;> simp_all
    rw [insertAll, List.foldl_cons, ← insertAll, ih, hinsert]
    simp [or_assoc, or_left_comm]

theorem template_ok_iff : (∃ t, r.template id = .ok t) ↔ id ∈ r.ids := by
  rw [mem_ids]
  refine ⟨fun ⟨t, ht⟩ => ⟨t, of_template_eq_ok ht⟩, fun ⟨t, ht, hid⟩ => ?_⟩
  cases hfound : r.template id with
  | ok u => exact ⟨u, rfl⟩
  | error e => exact absurd hid ((of_template_eq_error hfound).2 t ht)

theorem template_of_not_mem (h : id ∉ r.ids) : r.template id = .error (.notFound id) := by
  cases hfound : r.template id with
  | ok t => exact absurd (template_ok_iff.1 ⟨t, hfound⟩) h
  | error e => rw [(of_template_eq_error hfound).1]

/-- All ways of asking a registry agree on what there is. -/
structure IsConsistent (r : Registry) : Prop where
  found : ∀ id ∈ r.ids, ∃ t, r.template id = .ok t ∧ r.definition id = .ok t.definition ∧
    r.body id = .ok t.body ∧ t.definition ∈ r.list ∧ t.definition.id.text = id
  notFound : ∀ id ∉ r.ids, r.template id = .error (.notFound id) ∧
    r.definition id = .error (.notFound id) ∧ r.body id = .error (.notFound id)
  wellFormed : ∀ id ∈ r.ids, TemplateId.IsWellFormed id
  increasing : (r.ids.map Utf8.encode).Pairwise (· < ·)
  size_eq : r.size = r.list.length

theorem IsOrdered.isConsistent (h : r.IsOrdered) : r.IsConsistent where
  found id hid := by
    obtain ⟨t, ht⟩ := template_ok_iff.2 hid
    obtain ⟨hmem, htext⟩ := of_template_eq_ok ht
    refine ⟨t, ht, ?_, ?_, List.mem_map_of_mem hmem, htext⟩
    · rw [definition, ht]
      rfl
    · rw [body, ht]
      rfl
  notFound id hid := by
    have hmissing := template_of_not_mem hid
    refine ⟨hmissing, ?_, ?_⟩
    · rw [definition, hmissing]
      rfl
    · rw [body, hmissing]
      rfl
  wellFormed id hid := by
    obtain ⟨t, -, rfl⟩ := mem_ids.1 hid
    exact t.definition.id.isWellFormed_text
  increasing := by
    rw [ids, list, List.map_map, List.map_map, List.pairwise_map]
    exact h.imp Utf8.encode_lt
  size_eq := (List.length_map _).symm

end Registry

end Curriculum
