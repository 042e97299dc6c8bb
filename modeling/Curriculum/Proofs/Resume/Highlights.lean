import Curriculum.Proofs.Resume.Submit
import Curriculum.Render

/-! # Entering highlights

The points of a group are entered as a list, or as one text with a line for each of them. Whichever
line ends are typed, and whether there is one behind the last line or not, the points are the same,
and so is all that is rendered (`Resume.render_highlights`). -/

namespace Curriculum.Resume

open Json (Members Value)

/-- A group with `v` for its points. -/
def withPoints (group : Members) (v : Value) : Members := bindName "points" v group

/-- A group of a submission, among the items of the list in a field. -/
structure GroupSite where
  fields : Members
  key : Text
  before : List Value
  group : Members
  after : List Value

namespace GroupSite

variable (site : GroupSite) (v : Value)

/-- The items of the list with `v` for the points of the group. -/
def items : List Value := site.before ++ .object (withPoints site.group v) :: site.after

def members : Members := bindName site.key (.array (site.items v)) site.fields

/-- The submission with `v` for the points of the group. -/
def submission : Value := .object (site.members v)

end GroupSite

/-! ## Points -/

section
variable (group : Members) {ts : List Text} {t final : Text}

theorem points_withPoints (v : Value) :
    points (withPoints group v) = (candidates (some v)).filter fun t => !Text.allBlank t := by
  rw [points, withPoints, lookup_bindName, if_pos rfl]

theorem points_listed (ts : List Text) :
    points (withPoints group (Text.listValue ts)) = ts.filter fun t => !Text.allBlank t := by
  rw [points_withPoints, candidates_listValue]

theorem points_typed (hts : ∀ t ∈ ts, t.IsLine) (ht : Text.JoinsLines ts t)
    (hfinal : final = [] ∨ Text.IsLineEnd final) :
    points (withPoints group (.string (t ++ final))) = ts.filter fun t => !Text.allBlank t := by
  rw [points_withPoints]
  exact ht.filter_lines rfl hts hfinal

end

/-! ## The same résumé -/

/-- A résumé hangs on the texts of the fields and on what the groups tell. -/
theorem ofFields_congr {fields fields' : Members} (hscalar : scalar fields = scalar fields')
    (hexperience : (groups fields "experience").map experienceOf =
      (groups fields' "experience").map experienceOf)
    (hprojects : (groups fields "projects").map projectOf =
      (groups fields' "projects").map projectOf) : ofFields fields = ofFields fields' := by
  have heducation : educationOf fields = educationOf fields' := by
    rw [educationOf, hscalar, educationOf]
  have hpresent : hasEducation fields = hasEducation fields' := by
    rw [hasEducation, hscalar, hasEducation]
  rw [ofFields, hscalar, hexperience, hprojects, heducation, hpresent, ofFields]

section
variable {v v' : Value} {group : Members}

theorem scalar_withPoints {key : Text} (h : "points".toList ≠ key) :
    scalar (withPoints group v) key = scalar group key := by
  rw [scalar, withPoints, lookup_bindName, if_neg h, scalar]

theorem experienceOf_withPoints (h : points (withPoints group v) = points (withPoints group v')) :
    experienceOf (withPoints group v) = experienceOf (withPoints group v') := by
  simp (disch := decide +kernel) only [experienceOf, scalar_withPoints, h]

theorem projectOf_withPoints (h : points (withPoints group v) = points (withPoints group v')) :
    projectOf (withPoints group v) = projectOf (withPoints group v') := by
  simp (disch := decide +kernel) only [projectOf, scalar_withPoints, h]

end

section
variable {site : GroupSite} {v v' : Value}

/-- Where a text is read, groups say nothing. -/
theorem scalar_members (v v' : Value) : scalar (site.members v) = scalar (site.members v') := by
  funext key
  rw [scalar, scalar, GroupSite.members, GroupSite.members, lookup_bindName, lookup_bindName]
  by_cases hkey : site.key = key
  · simp only [if_pos hkey, scalarText, GroupSite.items, List.filterMap_append,
      List.filterMap_cons, itemText?]
  · simp only [if_neg hkey]

theorem map_groups_members {f : Members → α}
    (h : f (withPoints site.group v) = f (withPoints site.group v')) (key : Text) :
    (groups (site.members v) key).map f = (groups (site.members v') key).map f := by
  rw [groups, groups, GroupSite.members, GroupSite.members, lookup_bindName, lookup_bindName]
  by_cases hkey : site.key = key
  · simp only [if_pos hkey, GroupSite.items, List.filterMap_append, List.filterMap_cons,
      Value.members?, List.map_append, List.map_cons, h]
  · simp only [if_neg hkey]

theorem build_submission (h : points (withPoints site.group v) = points (withPoints site.group v')) :
    build (site.submission v) = build (site.submission v') :=
  ofFields_congr (scalar_members v v') (map_groups_members (experienceOf_withPoints h) _)
    (map_groups_members (projectOf_withPoints h) _)

end

/-- Nothing is rendered of a submission but its résumé. -/
theorem render_congr {s s' : Value} (h : build s = build s') :
    (∀ body, Template.source body s = Template.source body s') ∧ summaryOf s = summaryOf s' ∧
      ∀ (r : Registry) c id format, r.render c id s format = r.render c id s' format := by
  have hsource (body) : Template.source body s = Template.source body s' := by
    rw [Template.source, Template.source, h]
  have hsummary : summaryOf s = summaryOf s' := by rw [summaryOf, summaryOf, h]
  refine ⟨hsource, hsummary, fun r c id format => ?_⟩
  rw [Registry.render, Registry.render]
  split
  · cases format <;> simp only [Template.render, hsource, hsummary]
  · rfl

/-- Highlights that are lines may be entered as a list, or as a text with a line end of any kind
between them and perhaps one behind the last. Either way the points are those of them that are not
blank, and the résumé and all that is rendered of it are the same. -/
theorem render_highlights {ts : List Text} {t final : Text} (hts : ∀ t ∈ ts, t.IsLine)
    (ht : Text.JoinsLines ts t) (hfinal : final = [] ∨ Text.IsLineEnd final) (site : GroupSite) :
    let listed := Text.listValue ts
    let typed := Value.string (t ++ final)
    points (withPoints site.group listed) = (ts.filter fun t => ¬t.IsBlank) ∧
      points (withPoints site.group typed) = points (withPoints site.group listed) ∧
      build (site.submission typed) = build (site.submission listed) ∧
      (∀ body, Template.source body (site.submission typed) =
        Template.source body (site.submission listed)) ∧
      summaryOf (site.submission typed) = summaryOf (site.submission listed) ∧
      ∀ (r : Registry) c id format, r.render c id (site.submission typed) format =
        r.render c id (site.submission listed) format := by
  intro listed typed
  have hlisted := points_listed site.group ts
  have hpoints : points (withPoints site.group typed) = points (withPoints site.group listed) :=
    (points_typed site.group hts ht hfinal).trans hlisted.symm
  have hbuild := build_submission hpoints
  refine ⟨?_, hpoints, hbuild, render_congr hbuild⟩
  simp only [listed, hlisted, Text.allBlank_eq_decide, decide_not]

/-- Highlights with a carriage return inside, an empty one, a blank one, and an empty one last. -/
def galleyHighlights : List Text := ["Set\rtype.", "", " \t", "Cut punches.", ""]

/-- Lines with both kinds of line ends. -/
def galleyText : Text := "Set\rtype.\r\n\n \t\r\nCut punches.\n"

def galleySite : GroupSite where
  fields := [("full_name", .string "Tess"), ("experience", .null)]
  key := "experience"
  before := [.null, .object []]
  group := [("company", .string "Type & Sons"), ("points", .bool true), ("role", .string "Setter")]
  after := [.string "none"]

theorem render_highlights_galley :
    (∀ t ∈ galleyHighlights, t.IsLine) ∧ Text.JoinsLines galleyHighlights galleyText ∧
      Text.IsLineEnd ['\r', '\n'] ∧
      points (withPoints galleySite.group (.string (galleyText ++ ['\r', '\n']))) =
        ["Set\rtype.".toList, "Cut punches.".toList] ∧
      build (galleySite.submission (.string (galleyText ++ ['\r', '\n']))) =
        build (galleySite.submission (Text.listValue galleyHighlights)) := by
  have hts : ∀ t ∈ galleyHighlights, t.IsLine := by decide +kernel
  have ht : Text.JoinsLines galleyHighlights galleyText :=
    .cons "Set\rtype." .returnFeed <| .cons "" .feed <| .cons " \t" .returnFeed <|
      .cons "Cut punches." .feed <| .single ""
  have h := render_highlights hts ht (.inr .returnFeed) galleySite
  exact ⟨hts, ht, .returnFeed, h.2.1.trans (h.1.trans (by decide +kernel)), h.2.2.1⟩

end Curriculum.Resume
