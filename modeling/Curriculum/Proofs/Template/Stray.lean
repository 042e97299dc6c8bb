import Curriculum.Proofs.Template.Scan
import Curriculum.Proofs.Template.Step

/-! # Tags that stay text

Every tag of a body does something, but for closing tags where no block is open. A literal below a
block therefore holds no tag, and any other literal holds closing tags at most (`strays_parse`).
Along the stack of open blocks this is `Reading.Held`; it needs to be known that text which is added
to a literal makes no tag with what stands there, since that text follows a whole tag (`Whole`). -/

namespace Curriculum.Template

/-- No tag stands in a literal, at any depth. -/
def Untagged (nodes : List Node) : Prop :=
  ∀ t ∈ literals nodes, ∀ inside, .tag inside ∉ scan t

/-- A node outside of blocks: its text holds closing tags at most, and its children hold no tag. -/
def Node.Strays : Node → Prop
  | .literal t => ∀ inside, .tag inside ∈ scan t → Text.trim inside = endWord
  | .var _ => True
  | .each _ children => Untagged children

variable {nodes current children : List Node} {blocks : List OpenBlock}
  {t u before inner inside path rest : Text}

theorem untagged_nil : Untagged [] := by simp [Untagged]

theorem untagged_cons : Untagged (node :: nodes) ↔ Untagged [node] ∧ Untagged nodes := by
  cases node <;> simp [Untagged, or_imp, forall_and]

theorem untagged_literal (h : scan t = [.text t]) : Untagged [.literal t] := by
  simp [Untagged, h]

theorem untagged_var : Untagged [.var path] := by simp [Untagged]

theorem untagged_each : Untagged [.each path children] ↔ Untagged children := by
  simp [Untagged]

theorem untagged_reverse : Untagged nodes.reverse ↔ Untagged nodes := by
  simp only [Untagged, mem_literals, List.mem_reverse]

theorem strays_of_untagged (h : Untagged [node]) : node.Strays := by
  cases node with
  | literal t => exact fun inside hmem => absurd hmem (h t (by simp) inside)
  | var => trivial
  | each path children => exact untagged_each.1 h

/-! ## Text behind a tag -/

/-- The text ends with a whole tag, and all its tags are closing ones. -/
def Whole (u : Text) : Prop :=
  ∃ tokens, (∀ inside, .tag inside ∈ tokens → Text.trim inside = endWord) ∧
    ∀ t, scan (u ++ t) = tokens ++ scan t

theorem whole_nil : Whole [] := ⟨[], by simp, by simp⟩

theorem Whole.tag (hu : Whole u) (h : cutOpening t = some (before, inner))
    (h' : cutClosing inner = some (inside, rest)) (hend : Text.trim inside = endWord) :
    Whole (u ++ (before ++ (Token.tag inside).source)) := by
  obtain ⟨tokens, htokens, hscan⟩ := hu
  refine ⟨tokens ++ [.text before, .tag inside], fun i hi => ?_, fun v => ?_⟩
  · rcases List.mem_append.1 hi with hi | hi
    · exact htokens i hi
    · simp only [List.mem_cons, reduceCtorEq, Token.tag.injEq, List.not_mem_nil, or_false,
        false_or] at hi
      exact hi ▸ hend
  · rw [List.append_assoc, hscan, scan_tag_append h h' v, List.append_assoc]
    rfl

theorem Whole.strays (hu : Whole u) (ht : scan t = [.text t]) :
    (Node.literal (u ++ t)).Strays := by
  obtain ⟨tokens, htokens, hscan⟩ := hu
  intro inside hmem
  rw [hscan, ht] at hmem
  exact htokens inside (by simpa using hmem)

/-! ## The stack -/

namespace Reading

/-- No tag has stayed text in an open block, and nothing but closing tags has outside. -/
def Held (current : List Node) : List OpenBlock → Prop
  | [] => ∀ node ∈ current, node.Strays
  | block :: blocks => Untagged current ∧ Held block.before blocks

/-- A literal to which text would be added ends with a whole tag, and no block is open. -/
def Fresh (r : Reading) : Prop :=
  ∀ u rest, r.current = .literal u :: rest → r.blocks = [] ∧ Whole u

theorem Held.cons (h : Held current blocks) (hnode : Untagged [node]) :
    Held (node :: current) blocks := by
  cases blocks with
  | nil => exact List.forall_mem_cons.2 ⟨strays_of_untagged hnode, h⟩
  | cons block blocks => exact ⟨untagged_cons.2 ⟨hnode, h.1⟩, h.2⟩

theorem Held.close {block : OpenBlock} (h : Held current (block :: blocks)) :
    Held (.each block.path current.reverse :: block.before) blocks :=
  h.2.cons (untagged_each.2 (untagged_reverse.2 h.1))

theorem Held.text {r : Reading} (h : Held r.current r.blocks) (hr : r.Fresh)
    (ht : scan t = [.text t]) : Held (r.step (.text t)).current r.blocks := by
  show Held (addText t r.current) r.blocks
  rcases addText_cases t r.current with ⟨-, hadd⟩ | ⟨u, rest, hcurrent, hadd⟩ | ⟨-, -, hadd⟩
  · rw [hadd]
    exact h
  · obtain ⟨hblocks, hu⟩ := hr u rest hcurrent
    rw [hadd, hblocks]
    rw [hcurrent, hblocks] at h
    exact List.forall_mem_cons.2 ⟨hu.strays ht, (List.forall_mem_cons.1 h).2⟩
  · rw [hadd]
    exact h.cons (untagged_literal ht)

theorem held_literal (hu : Whole u) (hnodes : ∀ node ∈ nodes, node.Strays) :
    Held (.literal u :: nodes) [] ∧ Fresh ⟨.literal u :: nodes, []⟩ := by
  have hstrays : (Node.literal u).Strays := by
    simpa using hu.strays (t := []) (scan_of_cutOpening rfl)
  refine ⟨List.forall_mem_cons.2 ⟨hstrays, hnodes⟩, ?_⟩
  rintro v rest ⟨⟩
  exact ⟨rfl, hu⟩

/-- A closing tag without an open block leaves a whole tag at the end of a literal. -/
theorem held_stray {r : Reading} (h : Held r.current r.blocks) (hr : r.Fresh)
    (hcut : cutOpening t = some (before, inner))
    (hcut' : cutClosing inner = some (inside, rest)) (hend : Text.trim inside = endWord)
    (hblocks : r.blocks = []) :
    Held (r.step (.text (before ++ (Token.tag inside).source))).current r.blocks ∧
      (r.step (.text (before ++ (Token.tag inside).source))).Fresh := by
  obtain ⟨current, blocks⟩ := r
  cases hblocks
  simp only [step]
  rcases addText_cases (before ++ (Token.tag inside).source) current with ⟨hnil, -⟩ |
    ⟨u, nodes, rfl, hadd⟩ | ⟨-, -, hadd⟩
  · simp [Token.source, opening] at hnil
  · obtain ⟨-, hu⟩ := hr u nodes rfl
    rw [hadd]
    exact held_literal (hu.tag hcut hcut' hend) (List.forall_mem_cons.1 h).2
  · rw [hadd]
    exact held_literal (whole_nil.tag hcut hcut' hend) h

/-- A text with the tag behind it keeps the stack in order. -/
theorem held_tag {r : Reading} (h : Held r.current r.blocks) (hr : r.Fresh)
    (hcut : cutOpening t = some (before, inner))
    (hcut' : cutClosing inner = some (inside, rest)) :
    Held ((r.step (.text before)).step (.tag inside)).current
        ((r.step (.text before)).step (.tag inside)).blocks ∧
      ((r.step (.text before)).step (.tag inside)).Fresh := by
  have htext := h.text hr (scan_before hcut)
  rcases (r.step (.text before)).step_tag_cases inside with ⟨path, -, hstep⟩ |
    ⟨block, blocks, -, hblocks, hstep⟩ | ⟨hend, hblocks, hstep⟩ | ⟨-, -, hstep⟩
  · rw [hstep]
    exact ⟨⟨untagged_nil, htext⟩, by rintro u rest ⟨⟩⟩
  · have hopen : Held (r.step (.text before)).current (block :: blocks) := hblocks ▸ htext
    rw [hstep]
    exact ⟨hopen.close, by rintro u rest ⟨⟩⟩
  · rw [hstep, step_text_text]
    exact held_stray h hr hcut hcut' hend hblocks
  · rw [hstep]
    exact ⟨htext.cons untagged_var, by rintro u rest ⟨⟩⟩

theorem held_read {r : Reading} (h : Held r.current r.blocks) (hr : r.Fresh) (t : Text) :
    Held (r.read t).current (r.read t).blocks := by
  unfold read
  fun_induction scan t generalizing r with
  | case1 t hcut => exact h.text hr (scan_of_cutOpening hcut)
  | case2 t before inner hcut hcut' => exact h.text hr (scan_of_cutClosing hcut hcut')
  | case3 t before inner hcut inside rest hcut' ih =>
    obtain ⟨h, hr⟩ := held_tag h hr hcut hcut'
    exact ih h hr

theorem strays_closeAll (h : Held current blocks) :
    ∀ node ∈ closeAll current blocks, node.Strays := by
  induction blocks generalizing current with
  | nil => exact fun node hmem => h node (List.mem_reverse.1 hmem)
  | cons block blocks ih => exact ih h.close

end Reading

/-- Whatever stays text holds no tag below a block and closing tags at most elsewhere. -/
theorem strays_parse (body : Text) : ∀ node ∈ parse body, node.Strays := by
  rw [Reading.parse_eq_finish_read]
  refine Reading.strays_closeAll (Reading.held_read ?_ ?_ body)
  · exact List.forall_mem_nil _
  · rintro u rest ⟨⟩

end Curriculum.Template
