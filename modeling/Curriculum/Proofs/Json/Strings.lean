import Curriculum.Latex.Escape
import Curriculum.Text.Entries

/-! # Values with other strings

`Value.mapStrings` changes the strings of a value and keeps its keys, its numbers and its shape, so
that looking up a member or an item comes to the same before and after the change. Sanitizing is
the case of escaping. -/

namespace Curriculum

theorem mem_of_lookup {entries : List (Text × α)} (h : lookup name entries = some a) :
    (name, a) ∈ entries := by
  induction entries with
  | nil => simp [lookup] at h
  | cons entry rest ih =>
    obtain ⟨key, b⟩ := entry
    rw [lookup] at h
    split at h
    · next hk =>
      cases h
      exact hk ▸ List.mem_cons_self
    · exact List.mem_cons_of_mem _ (ih h)

namespace Json.Value

mutual
/-- The value with `f` applied to each of its strings. Keys are not strings of the value. -/
def mapStrings (f : Text → Text) : Value → Value
  | .string s => .string (f s)
  | .array items => .array (mapStringsItems f items)
  | .object members => .object (mapStringsMembers f members)
  | .null => .null
  | .bool b => .bool b
  | .number n => .number n

/-- The items with `f` applied to their strings. -/
def mapStringsItems (f : Text → Text) : List Value → List Value
  | [] => []
  | v :: vs => v.mapStrings f :: mapStringsItems f vs

/-- The members with `f` applied to the strings of their values. -/
def mapStringsMembers (f : Text → Text) : Members → Members
  | [] => []
  | (key, v) :: ms => (key, v.mapStrings f) :: mapStringsMembers f ms
end

theorem mapStringsItems_eq_map (f : Text → Text) (items : List Value) :
    mapStringsItems f items = items.map (mapStrings f) := by
  induction items with
  | nil => rw [mapStringsItems, List.map_nil]
  | cons v vs ih => rw [mapStringsItems, ih, List.map_cons]

theorem mapStringsMembers_eq_map (f : Text → Text) (members : Members) :
    mapStringsMembers f members = members.map fun (key, v) => (key, v.mapStrings f) := by
  induction members with
  | nil => rw [mapStringsMembers, List.map_nil]
  | cons m ms ih => rw [mapStringsMembers, ih, List.map_cons]

end Json.Value

namespace Latex

open Json.Value

mutual
theorem sanitize_eq_mapStrings : ∀ v : Json.Value, sanitize v = v.mapStrings escape
  | .string _ | .null | .bool _ | .number _ => by rw [sanitize, mapStrings]
  | .array items => by rw [sanitize, mapStrings, sanitizeItems_eq_mapStringsItems items]
  | .object members => by rw [sanitize, mapStrings, sanitizeMembers_eq_mapStringsMembers members]

theorem sanitizeItems_eq_mapStringsItems :
    ∀ items : List Json.Value, sanitizeItems items = mapStringsItems escape items
  | [] => by rw [sanitizeItems, mapStringsItems]
  | v :: vs => by
    rw [sanitizeItems, mapStringsItems, sanitize_eq_mapStrings v,
      sanitizeItems_eq_mapStringsItems vs]

theorem sanitizeMembers_eq_mapStringsMembers :
    ∀ members : Json.Members, sanitizeMembers members = mapStringsMembers escape members
  | [] => by rw [sanitizeMembers, mapStringsMembers]
  | (_, v) :: ms => by
    rw [sanitizeMembers, mapStringsMembers, sanitize_eq_mapStrings v,
      sanitizeMembers_eq_mapStringsMembers ms]
end

end Latex

end Curriculum
