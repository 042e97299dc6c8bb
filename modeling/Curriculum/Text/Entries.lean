import Curriculum.Text.Basic

/-! # Named entries

Objects, settings and environments are lists of entries with names, in which the first entry of a
name counts. -/

namespace Curriculum

/-- What stands under a name: the first entry with that name counts. -/
def lookup (name : Text) : List (Text × α) → Option α
  | [] => none
  | (key, a) :: rest => if key = name then some a else lookup name rest

/-- The entries with `a` under `name`, in place when the name is there and else at the end. -/
def bindName (name : Text) (a : α) : List (Text × α) → List (Text × α)
  | [] => [(name, a)]
  | (key, b) :: rest => if key = name then (key, a) :: rest else (key, b) :: bindName name a rest

theorem lookup_append (name : Text) (entries more : List (Text × α)) :
    lookup name (entries ++ more) = (lookup name entries).or (lookup name more) := by
  induction entries with
  | nil => rfl
  | cons entry rest ih =>
    obtain ⟨key, a⟩ := entry
    by_cases hkey : key = name <;> simp [lookup, hkey, ih]

theorem lookup_map (g : Text → α → β) (name : Text) (entries : List (Text × α)) :
    lookup name (entries.map fun (key, a) => (key, g key a)) =
      (lookup name entries).map (g name) := by
  induction entries with
  | nil => rfl
  | cons entry rest ih =>
    obtain ⟨key, a⟩ := entry
    simp only [List.map_cons, lookup]
    split
    · next h => rw [h, Option.map_some]
    · exact ih

theorem lookup_filter (p : Text → Bool) (name : Text) (entries : List (Text × α)) :
    lookup name (entries.filter fun entry => p entry.1) =
      if p name then lookup name entries else none := by
  induction entries with
  | nil => simp [lookup]
  | cons entry rest ih =>
    obtain ⟨key, a⟩ := entry
    by_cases hkey : key = name <;> by_cases hp : p key <;> grind [lookup]

theorem lookup_bindName (name other : Text) (a : α) (entries : List (Text × α)) :
    lookup other (bindName name a entries) =
      if name = other then some a else lookup other entries := by
  induction entries with
  | nil => rfl
  | cons m rest ih =>
    obtain ⟨key, b⟩ := m
    by_cases hk : key = name <;> by_cases ho : name = other <;> grind [bindName, lookup]

end Curriculum
