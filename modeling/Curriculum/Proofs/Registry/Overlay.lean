import Curriculum.Proofs.Registry.Directory
import Curriculum.Registry.BuiltIn

/-! # Templates over the built-in one

A registry that is loaded answers as the directory does, and where that has nothing as the built-in
registry does (`Registry.Overlays`). Whichever way a registry is made, its templates are in order,
so all ways of asking it agree (`Registry.load_overlays`). -/

namespace Curriculum.Registry

/-- The registries that can be made with a reader of schema files. -/
inductive Built (read : SchemaReader) : Registry → Prop where
  | builtIn : Built read builtIn
  | ofDirectory (h : (ofDirectoryBy read view dir).1 = .ok r) : Built read r
  | load (h : (loadBy read view dir).1 = .ok r) : Built read r

/-- A registry answers as another does, and where that has nothing as the base does. -/
structure Overlays (r own base : Registry) : Prop where
  of_own : ∀ id t, own.template id = .ok t → r.template id = .ok t
  of_base : ∀ id t, (∀ u, own.template id ≠ .ok u) → base.template id = .ok t →
    r.template id = .ok t
  of_neither : ∀ id, (∀ u, own.template id ≠ .ok u) → (∀ u, base.template id ≠ .ok u) →
    r.template id = .error (.notFound id)

variable {read : SchemaReader} {r own base : Registry}

theorem overlays_of_find? (h : ∀ id, r.find? id = (own.find? id).or (base.find? id)) :
    r.Overlays own base := by
  have hfind : ∀ id, (TemplateId.ofText? id).bind r.find? =
      ((TemplateId.ofText? id).bind own.find?).or ((TemplateId.ofText? id).bind base.find?) := by
    intro id
    cases TemplateId.ofText? id with
    | none => rfl
    | some i => exact h i
  constructor <;> intro id <;> simp only [template_eq, hfind] <;> grind

theorem overlays_insertAll (base : Registry) (new : List Template) :
    (base.insertAll new).Overlays (insertAll {} new) base :=
  overlays_of_find? (find?_insertAll (fun _ => rfl) new)

theorem ofDirectoryBy_eq (read : SchemaReader) (view : FileView) (dir : Text) :
    (ofDirectoryBy read view dir).1 =
      (view.templates read dir).1.map fun new => insertAll {} new := rfl

theorem loadBy_some (read : SchemaReader) (view : FileView) (dir : Text) :
    (loadBy read view (some dir)).1 =
      (view.templates read dir).1.map fun new => builtIn.insertAll new := rfl

theorem isOrdered_empty : IsOrdered {} := List.Pairwise.nil

theorem isOrdered_builtIn : builtIn.IsOrdered := List.pairwise_singleton ..

theorem isOrdered_of_map {templates : Except RegistryError (List Template)} (hbase : base.IsOrdered)
    (h : templates.map (fun new => base.insertAll new) = .ok r) : r.IsOrdered := by
  cases templates with
  | error e => cases h
  | ok new =>
    cases h
    exact hbase.insertAll new

theorem Built.isOrdered (h : Built read r) : r.IsOrdered := by
  cases h with
  | builtIn => exact isOrdered_builtIn
  | ofDirectory h => exact isOrdered_of_map isOrdered_empty h
  | @load view dir made h =>
    cases dir with
    | none =>
      cases h
      exact isOrdered_builtIn
    | some dir => exact isOrdered_of_map isOrdered_builtIn h

/-- Loading a directory lays its templates over the built-in one, and fails where the directory
does. In every registry that can be made, all ways of asking agree. -/
theorem load_overlays (read : SchemaReader) (view : FileView) (dir : Text) :
    (∀ e, (ofDirectoryBy read view dir).1 = .error e →
      (loadBy read view (some dir)).1 = .error e) ∧
    (∀ own, (ofDirectoryBy read view dir).1 = .ok own →
      ∃ r, (loadBy read view (some dir)).1 = .ok r ∧ r.Overlays own builtIn) ∧
    ∀ r, Built read r → r.IsConsistent := by
  rw [ofDirectoryBy_eq, loadBy_some]
  cases (view.templates read dir).1 with
  | error other => exact ⟨fun _ h => h, nofun, fun _ h => h.isOrdered.isConsistent⟩
  | ok new =>
    refine ⟨nofun, fun own h => ?_, fun _ h => h.isOrdered.isConsistent⟩
    cases h
    exact ⟨builtIn.insertAll new, rfl, overlays_insertAll builtIn new⟩

/-- A directory with a template of the id that the built-in one has. -/
def drawer : FileTree :=
  let file (t : Text) : Entry := .file (Utf8.encode t) false
  let entries : List (Place × Entry) := [(["classic"], .directory),
    (["classic", "schema.yaml"], file "name: Own"), (["classic", "template.tex"], file "x")]
  entries.foldl (fun t e => t.put e.1 e.2) ∅

/-- The template of the directory takes the place of the built-in one. -/
theorem load_overlays_drawer :
    let view := drawer.view []
    ∃ own r t, (ofDirectory view "/").1 = .ok own ∧ own.template "classic" = .ok t ∧
      (load view (some "/")).1 = .ok r ∧ r.template "classic" = .ok t ∧ t.body = "x".toList := by
  intro view
  have hinspect : (match view.inspect Descriptor.parse? "/" "classic" with
      | .loaded t => decide (t.definition.id.text = "classic".toList ∧ t.body = "x".toList)
      | _ => false) = true := by decide +kernel
  cases hfinding : view.inspect Descriptor.parse? "/" "classic" with
  | loaded t =>
    rw [hfinding] at hinspect
    obtain ⟨hid, hbody⟩ := of_decide_eq_true hinspect
    have htemplates : (view.templates Descriptor.parse? "/").1 = .ok [t] := by
      have hlisted : view.subdirectories "/" = some [("classic" : Text)] := by decide +kernel
      rw [FileView.templates_eq, if_pos (by decide +kernel), hlisted]
      dsimp only
      rw [Path.inOrder_singleton, FileView.inspectAll, hfinding]
      rfl
    have hown : (ofDirectory view "/").1 = .ok ⟨[t]⟩ := by
      rw [ofDirectory, ofDirectoryBy_eq, htemplates]
      rfl
    have ht : Registry.template ⟨[t]⟩ "classic" = .ok t := by
      rw [template_eq, ← hid, TemplateId.ofText?_text]
      simp [find?]
    obtain ⟨r, hr, hover⟩ := (load_overlays Descriptor.parse? view "/").2.1 _ hown
    exact ⟨_, r, t, hown, ht, hr, hover.of_own _ _ ht, hbody⟩
  | skipped w =>
    rw [hfinding] at hinspect
    cases hinspect
  | failed e =>
    rw [hfinding] at hinspect
    cases hinspect

end Curriculum.Registry
