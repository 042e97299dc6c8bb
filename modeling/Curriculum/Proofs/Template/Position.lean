import Curriculum.Proofs.Template.Path

/-! # Positions of a value

A position is reached by steps through objects and arrays. Written as a path, the steps resolve to
what is there, and a path after another one resolves where that has led (`resolve_positions`). -/

namespace Curriculum.Template

open Json (Value)
open Json.Value (longest longest_le_of_mem_items longest_le_of_mem_members)

/-- A step into an object by a key, or into an array by an index. -/
inductive Step where
  | key (name : Text)
  | index (i : Nat)

/-- Steps lead from a value to one that lies in it. -/
inductive Leads : Value → List Step → Value → Prop
  | here : Leads v [] v
  | key (h : lookup name members = some v) (hrest : Leads v steps w) :
      Leads (.object members) (.key name :: steps) w
  | index (h : items[i]? = some v) (hrest : Leads v steps w) :
      Leads (.array items) (.index i :: steps) w

def Step.segment : Step → Text
  | .key name => name
  | .index i => Number.digits i

/-- The segments of the steps, with indices in decimal digits and points between all of them. -/
def pathOf (steps : List Step) : Text := Text.join ['.'] (steps.map Step.segment)

/-! ## Steps as segments -/

theorem child_digits (items : List Value) (h : i < 0x10000000000000000) :
    child (.array items) (Number.digits i) = items[i]? := by
  rw [child, Text.word64?_digits h, Option.bind_some]

/-- An index is read back from its digits as long as it fits a word, so no array may be longer than
words can count. -/
theorem foldlM_child_segments (h : Leads v steps w) (hv : v.longest ≤ 0x10000000000000000) :
    (steps.map Step.segment).foldlM child v = some w := by
  induction h with
  | here => rfl
  | key h _ ih =>
    have hle := longest_le_of_mem_members (mem_of_lookup h)
    rw [longest] at hv
    rw [List.map_cons, List.foldlM_cons, Step.segment, child, h]
    exact ih (hle.trans hv)
  | @index items i v steps w h _ ih =>
    have hle := longest_le_of_mem_items (List.mem_of_getElem? h)
    obtain ⟨hi, -⟩ := List.getElem?_eq_some_iff.1 h
    rw [longest] at hv
    rw [List.map_cons, List.foldlM_cons, Step.segment, child_digits items (by omega), h]
    apply ih
    omega

theorem point_not_mem_segment {step : Step} (h : ∀ name, step = .key name → '.' ∉ name) :
    '.' ∉ step.segment := by
  cases step with
  | key name => exact h name rfl
  | index i =>
    intro hmem
    exact absurd (Text.isDigit_of_mem_digits hmem) (by decide)

theorem split_pathOf (hne : steps ≠ []) (h : ∀ name, .key name ∈ steps → '.' ∉ name) :
    Text.split '.' (pathOf steps) = steps.map Step.segment := by
  apply Text.split_join_of_not_mem '.' (by simpa using hne)
  intro segment hsegment
  obtain ⟨step, hstep, rfl⟩ := List.mem_map.1 hsegment
  apply point_not_mem_segment
  rintro name rfl
  exact h name hstep

theorem resolve_eq_of_trim (hpath : Text.trim path = path) (hthis : path ≠ thisWord) (v : Value) :
    resolve v path = (Text.split '.' path).foldlM child v := by
  rw [resolve_eq_foldlM, hpath, segments, if_neg hthis]

theorem resolve_pathOf (h : Leads v steps w) (hv : v.longest ≤ 0x10000000000000000)
    (hne : steps ≠ []) (hkeys : ∀ name, .key name ∈ steps → '.' ∉ name)
    (hpath : Text.trim (pathOf steps) = pathOf steps) (hthis : pathOf steps ≠ thisWord) :
    resolve v (pathOf steps) = some w := by
  rw [resolve_eq_of_trim hpath hthis, split_pathOf hne hkeys]
  exact foldlM_child_segments h hv

/-! ## Paths after one another -/

theorem resolve_point (hp : Text.trim p = p) (hq : Text.trim q = q) (hpthis : p ≠ thisWord)
    (hqthis : q ≠ thisWord) (v : Value) :
    resolve v (p ++ '.' :: q) = (resolve v p).bind fun w => resolve w q := by
  have hpath : Text.trim (p ++ '.' :: q) = p ++ '.' :: q := Text.trim_append_cons hp (by decide) hq
  have hthis : p ++ '.' :: q ≠ thisWord := by
    intro h
    have hmem : '.' ∈ thisWord := by simp [← h]
    exact absurd hmem (by decide)
  rw [resolve_eq_of_trim hpath hthis, Text.split_append_cons, List.foldlM_append,
    resolve_eq_of_trim hp hpthis]
  simp only [resolve_eq_of_trim hq hqthis]
  rfl

/-- Every position of a value has a path, unless a key stands in the way of writing it down, and
what a path finds is the scope of a path after it. -/
theorem resolve_positions (v : Value) :
    (v.longest ≤ 0x10000000000000000 → ∀ steps w, Leads v steps w → steps ≠ [] →
      (∀ name, .key name ∈ steps → '.' ∉ name) → Text.trim (pathOf steps) = pathOf steps →
      pathOf steps ≠ thisWord → resolve v (pathOf steps) = some w) ∧
    ∀ p q, Text.trim p = p → Text.trim q = q → p ≠ thisWord → q ≠ thisWord →
      (∀ w, resolve v p = some w → resolve v (p ++ '.' :: q) = resolve w q) ∧
      (resolve v p = none → resolve v (p ++ '.' :: q) = none) := by
  refine ⟨fun hv steps w h hne hkeys hpath hthis => resolve_pathOf h hv hne hkeys hpath hthis, ?_⟩
  intro p q hp hq hpthis hqthis
  have hpoint := resolve_point hp hq hpthis hqthis v
  refine ⟨fun w hw => ?_, fun hnone => ?_⟩
  · rw [hpoint, hw, Option.bind_some]
  · rw [hpoint, hnone, Option.bind_none]

/-- An empty key, an array, and a key of a digit. -/
def shelf : Value :=
  .object [([], .array [.null, .object [("1".toList, .string "x".toList)]])]

theorem resolve_positions_shelf :
    let steps : List Step := [.key [], .index 1, .key "1".toList]
    Leads shelf steps (.string "x".toList) ∧ pathOf steps = ".1.1".toList ∧
      resolve shelf (pathOf steps) = some (.string "x".toList) ∧
      resolve shelf (".1".toList ++ '.' :: "1".toList) = some (.string "x".toList) := by
  intro steps
  obtain ⟨hposition, hpoint⟩ := resolve_positions shelf
  have hleads : Leads shelf steps (.string "x".toList) :=
    .key rfl (.index rfl (.key rfl .here))
  have hkeys : ∀ name, .key name ∈ steps → '.' ∉ name := by
    intro name hname
    simp only [steps, List.mem_cons, Step.key.injEq, reduceCtorEq, List.not_mem_nil, false_or,
      or_false] at hname
    rcases hname with rfl | rfl <;> decide
  refine ⟨hleads, by decide, ?_, ?_⟩
  · exact hposition (by decide) steps _ hleads (by decide) hkeys (by decide) (by decide)
  · obtain ⟨hsome, -⟩ := hpoint ".1" "1" (by decide) (by decide) (by decide) (by decide)
    exact hsome (.object [("1".toList, .string "x".toList)]) rfl

end Curriculum.Template
