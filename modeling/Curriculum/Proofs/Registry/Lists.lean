import Curriculum.Proofs.Latex.List
import Curriculum.Proofs.Registry.Classic
import Curriculum.Proofs.Template.Skeleton

/-! # Lists in the built-in template

The lists of a source are told by the résumé: one for the coursework of each school, one for the
points of each job and each project, and one around the headings of each section
(`Classic.lists_source`). The coursework alone is left out with its list where there is none. So a
source has an empty list unless there are entries in all three sections and points in each job and
each project (`Classic.render_lists`). -/

namespace Curriculum

open Json (Value)
open Latex (Closed Fills HasNoEmptyList ListKind Mark Spans documentBody? lists sanitize)
open Template (Node Piece expand literals parse repeated resolve same skeleton traceAll)

namespace Classic

/-! ## The skeleton of the document -/

/-- A command that has to do with lists. -/
def isListCommand (command : Text) : Bool := (Mark.ofCommand? command).isSome

/-- The nodes of a template that begins with a literal, from the body of the document on. -/
def document? : List Node → Option (List Node)
  | .literal t :: nodes => (documentBody? t).map fun body => .literal body :: nodes
  | _ => none

def startCommand : ListKind → Text
  | .items => "resumeItemListStart"
  | .headings => "resumeSubHeadingListStart"

def endCommand : ListKind → Text
  | .items => "resumeItemListEnd"
  | .headings => "resumeSubHeadingListEnd"

/-- A list with an entry for each item of a block, and more below each entry. -/
def listOver (kind : ListKind) (path entry : Text) (below : List Node) : List Node :=
  [.literal (startCommand kind), .each path (.literal entry :: below), .literal (endCommand kind)]

/-- A list of one entry. -/
def listOfOne (kind : ListKind) (entry : Text) : List Node :=
  [.literal (startCommand kind), .literal entry, .literal (endCommand kind)]

/-- The commands of the template that have to do with lists. -/
def sections : List Node :=
  listOver .headings "education" "resumeSubheading"
      [.each "coursework_items" (listOfOne .items "resumeItem")] ++
    listOver .headings "experience" "resumeSubheading" (listOver .items "points" "resumeItem" []) ++
    listOver .headings "projects" "resumeProjectHeading" (listOver .items "points" "resumeItem" [])

set_option maxRecDepth 100000 in
theorem document_body : ∃ nodes, document? (parse body) = some nodes ∧
    (∀ t ∈ literals nodes, Closed t) ∧ skeleton isListCommand nodes = sections := by
  have hcheck : (document? (parse body)).any (fun nodes =>
      (literals nodes).all (fun t => decide (Closed t)) &&
        same (skeleton isListCommand nodes) sections) = true := by
    apply Spells.of (P := fun ts =>
      (document? (parse (bracesFor (Text.join ['\n'] ts)))).any (fun nodes =>
        (literals nodes).all (fun t => decide (Closed t)) &&
          same (skeleton isListCommand nodes) sections) = true)
    · dsimp only [lines]
      repeat constructor
    · decide +kernel
  obtain ⟨nodes, hnodes, hcheck⟩ := (Option.any_eq_true ..).1 hcheck
  rw [Bool.and_eq_true, List.all_eq_true] at hcheck
  exact ⟨nodes, hnodes, fun t ht => of_decide_eq_true (hcheck.1 t ht),
    Template.eq_of_same hcheck.2⟩

theorem documentBody?_expand {nodes below : List Node} (h : document? nodes = some below)
    (scope : Value) : documentBody? (expand nodes scope) = some (expand below scope) := by
  match nodes, h with
  | .literal t :: nodes, h =>
    obtain ⟨body, hbody, rfl⟩ := Option.map_eq_some_iff.1 h
    rw [Template.expand_literal, Template.expand_literal]
    exact Latex.behind?_append hbody _

/-! ## Marks of the skeleton -/

theorem filterMap_isListCommand (commands : List Text) :
    (commands.filter isListCommand).filterMap Mark.ofCommand? =
      commands.filterMap Mark.ofCommand? := by
  rw [List.filterMap_filter]
  congr 1
  funext command
  unfold isListCommand
  cases Mark.ofCommand? command <;> rfl

/-- What the commands of a skeleton do to lists. -/
def marks (nodes : List Node) (scope : Value) : List Mark :=
  ((traceAll nodes scope).map Piece.text).filterMap Mark.ofCommand?

theorem ofCommand?_startCommand (kind : ListKind) :
    Mark.ofCommand? (startCommand kind) = some (.opens kind) := by
  cases kind <;> decide +kernel

theorem ofCommand?_endCommand (kind : ListKind) :
    Mark.ofCommand? (endCommand kind) = some (.closes kind) := by
  cases kind <;> decide +kernel

section
variable {nodes children below : List Node} {scope : Value} {path entry command : Text}
  {kind : ListKind}

theorem marks_append (nodes nodes' : List Node) (scope : Value) :
    marks (nodes ++ nodes') scope = marks nodes scope ++ marks nodes' scope := by
  rw [marks, Template.traceAll_append, List.map_append, List.filterMap_append]
  rfl

theorem marks_nil : marks [] scope = [] := by
  rw [marks, Template.traceAll_nil]
  rfl

theorem marks_literal (h : Mark.ofCommand? command = some mark) :
    marks (.literal command :: nodes) scope = mark :: marks nodes scope := by
  rw [marks, Template.traceAll_literal, List.map_cons, Piece.text, List.filterMap_cons_some h]
  rfl

theorem marks_each : marks (.each path children :: nodes) scope =
    (repeated (resolve scope path)).flatMap (marks children) ++ marks nodes scope := by
  rw [marks, Template.traceAll_each, List.map_append, List.filterMap_append, List.map_flatMap,
    List.filterMap_flatMap]
  rfl

variable (hentry : Mark.ofCommand? entry = some (.entry kind))
include hentry

theorem spans_listOfOne : Spans [(kind, 1)] (marks (listOfOne kind entry) scope) := by
  rw [listOfOne, marks_literal (ofCommand?_startCommand kind), marks_literal hentry,
    marks_literal (ofCommand?_endCommand kind), marks_nil]
  exact Fills.entry.list

theorem spans_listOver {records : List α} {toValue : α → Value}
    {found : α → List (ListKind × Nat)}
    (hrecords : resolve scope path = some (.array (records.map toValue)))
    (hbelow : ∀ r, Spans (found r) (marks below (toValue r))) :
    Spans (records.flatMap found ++ [(kind, records.length)])
      (marks (listOver kind path entry below) scope) := by
  have hfills : Fills kind records.length (records.flatMap found)
      (records.flatMap fun r => marks (.literal entry :: below) (toValue r)) := by
    refine .flatMap fun r _ => ?_
    rw [marks_literal hentry]
    exact Fills.entry.append (hbelow r).fills
  rw [listOver, marks_literal (ofCommand?_startCommand kind), marks_each, hrecords,
    marks_literal (ofCommand?_endCommand kind), marks_nil, repeated, List.flatMap_map]
  exact hfills.list

end

/-! ## Lists of a source -/

/-- The lists of a résumé with the number of their entries, each behind those below it. -/
def listCounts (m : Resume) : List (ListKind × Nat) :=
  (m.education.flatMap fun e => e.courseworkItems.map fun _ => (.items, 1)) ++
    [(.headings, m.education.length)] ++
    ((m.experience.map fun e => (.items, e.points.length)) ++ [(.headings, m.experience.length)]) ++
    ((m.projects.map fun p => (.items, p.points.length)) ++ [(.headings, m.projects.length)])

theorem ofCommand?_resumeItem : Mark.ofCommand? "resumeItem" = some (.entry .items) := by
  decide +kernel

theorem ofCommand?_resumeSubheading :
    Mark.ofCommand? "resumeSubheading" = some (.entry .headings) := by decide +kernel

theorem ofCommand?_resumeProjectHeading :
    Mark.ofCommand? "resumeProjectHeading" = some (.entry .headings) := by decide +kernel

theorem spans_points {scope : Value} {points : List Text}
    (h : resolve scope "points" = some (Text.listValue points)) :
    Spans [(.items, points.length)] (marks (listOver .items "points" "resumeItem" []) scope) := by
  have hnone : points.flatMap (fun _ => ([] : List (ListKind × Nat))) = [] :=
    List.flatMap_eq_nil_iff.2 fun _ _ => rfl
  have hbelow : ∀ point : Text, Spans [] (marks [] (.string point)) := fun _ => marks_nil ▸ .nil
  have hspans := spans_listOver ofCommand?_resumeItem h hbelow
  rwa [hnone] at hspans

theorem spans_coursework (e : Education) :
    Spans (e.courseworkItems.map fun _ => (.items, 1))
      (marks [.each "coursework_items" (listOfOne .items "resumeItem")] e.toValue) := by
  have hitems : resolve e.toValue "coursework_items" =
      some (.array (e.courseworkItems.map Value.string)) := rfl
  rw [marks_each, hitems, marks_nil, List.append_nil, repeated, List.flatMap_map,
    List.map_eq_flatMap]
  exact .flatMap fun _ _ => spans_listOfOne ofCommand?_resumeItem

theorem spans_sections (m : Resume) : Spans (listCounts m) (marks sections m.toValue) := by
  have heducation : resolve m.toValue "education" =
      some (.array (m.education.map Education.toValue)) := rfl
  have hexperience : resolve m.toValue "experience" =
      some (.array (m.experience.map Experience.toValue)) := rfl
  have hprojects : resolve m.toValue "projects" =
      some (.array (m.projects.map Project.toValue)) := rfl
  rw [sections, marks_append, marks_append, listCounts, List.map_eq_flatMap, List.map_eq_flatMap]
  refine .append (.append ?_ ?_) ?_
  · exact spans_listOver ofCommand?_resumeSubheading heducation spans_coursework
  · exact spans_listOver ofCommand?_resumeSubheading hexperience fun e => spans_points rfl
  · exact spans_listOver ofCommand?_resumeProjectHeading hprojects fun p => spans_points rfl

theorem lists_source (submission : Value) :
    lists (Template.source body submission) = some (listCounts (Resume.build submission)) := by
  obtain ⟨nodes, hdocument, hclosed, hskeleton⟩ := document_body
  refine Latex.lists_eq_some (documentBody?_expand hdocument _) ?_
  have hspans := spans_sections (Resume.build submission)
  rw [← hskeleton, marks, ← Template.commands_expand_sanitize hclosed,
    filterMap_isListCommand] at hspans
  exact hspans

theorem hasNoEmptyList_source (submission : Value) :
    HasNoEmptyList (Template.source body submission) ↔
      ∀ list ∈ listCounts (Resume.build submission), 0 < list.2 := by
  constructor
  · rintro ⟨counts, hcounts, hall⟩
    cases (lists_source submission).symm.trans hcounts
    exact hall
  · exact fun hall => ⟨_, lists_source submission, hall⟩

theorem listCounts_pos_iff (m : Resume) : (∀ list ∈ listCounts m, 0 < list.2) ↔
    m.education ≠ [] ∧ (m.experience ≠ [] ∧ ∀ e ∈ m.experience, e.points ≠ []) ∧
      m.projects ≠ [] ∧ ∀ p ∈ m.projects, p.points ≠ [] := by
  simp only [listCounts, List.forall_mem_append, List.forall_mem_flatMap, List.forall_mem_map,
    List.forall_mem_singleton, List.length_pos_iff, Nat.zero_lt_one, implies_true, true_and]
  rw [and_comm (a := ∀ e ∈ m.experience, e.points ≠ []),
    and_comm (a := ∀ p ∈ m.projects, p.points ≠ []), and_assoc]

/-- The source of a submission has the lists of its résumé. Each of them has an entry exactly if
there are entries in every section and points in each job and each project. -/
theorem render_lists (c : Compiler) (submission : Value) :
    let m := Resume.build submission
    ∃ text, Registry.builtIn.render c "classic" submission .source =
        .done (.ok ⟨"classic", .source text⟩) ∧
      lists text = some (listCounts m) ∧
      (HasNoEmptyList text ↔ m.education ≠ [] ∧
        (m.experience ≠ [] ∧ ∀ e ∈ m.experience, e.points ≠ []) ∧
        m.projects ≠ [] ∧ ∀ p ∈ m.projects, p.points ≠ []) := by
  intro m
  refine ⟨Template.source body submission, rfl, lists_source submission, ?_⟩
  rw [hasNoEmptyList_source, listCounts_pos_iff]

/-- The source of an empty submission has empty lists. -/
theorem render_lists_empty :
    ∃ text, Registry.builtIn.render ⟨"pdflatex", 0⟩ "classic" (.object []) .source =
        .done (.ok ⟨"classic", .source text⟩) ∧ ¬HasNoEmptyList text := by
  refine ⟨Template.source body (.object []), rfl, ?_⟩
  rw [hasNoEmptyList_source, listCounts_pos_iff]
  have hnone : (Resume.build (.object [])).experience = [] := by decide +kernel
  exact fun h => h.2.1.1 hnone

end Classic

end Curriculum
