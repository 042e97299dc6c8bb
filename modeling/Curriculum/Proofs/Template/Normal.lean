import Curriculum.Proofs.Template.Forest
import Curriculum.Template.Parse
import Mathlib.Data.List.Chain
import Mathlib.Data.List.Infix
import Mathlib.Data.List.DropRight

/-! # Forests in normal form

In a normal forest no literal is empty and none stands beside another, and the paths are such as a
tag can hold. The condition is local: it is one on each list of siblings (`normal_iff`), and the
order of the siblings does not matter (`normal_reverse`). -/

namespace Curriculum.Template

mutual
/-- The lists of siblings below a node. -/
def Node.levels : Node → List (List Node)
  | .literal _ | .var _ => []
  | .each _ children => children :: levelsBelow children

/-- The lists of siblings below some nodes. -/
def levelsBelow : List Node → List (List Node)
  | [] => []
  | node :: nodes => node.levels ++ levelsBelow nodes
end

/-- All lists of siblings of a forest, at every depth. -/
def levels (nodes : List Node) : List (List Node) := nodes :: levelsBelow nodes

theorem Node.levels_each : (Node.each path children).levels = Template.levels children := by
  rw [Node.levels, Template.levels]

theorem mem_levelsBelow {nodes level : List Node} :
    level ∈ levelsBelow nodes ↔
      ∃ path children, .each path children ∈ nodes ∧ level ∈ levels children := by
  induction nodes with
  | nil => simp [levelsBelow]
  | cons node nodes ih =>
    rw [levelsBelow, List.mem_append, ih]
    cases node with
    | literal | var => simp [Node.levels]
    | each path children =>
      simp only [Node.levels_each, List.mem_cons]
      constructor
      · rintro (h | ⟨path', children', h, h'⟩)
        · exact ⟨path, children, .inl rfl, h⟩
        · exact ⟨path', children', .inr h, h'⟩
      · rintro ⟨path', children', h | h, h'⟩
        · cases h
          exact .inl h'
        · exact .inr ⟨path', children', h, h'⟩

/-! ## Paths -/

/-- A path that a tag can hold: without blanks at its ends and without a closing pair. -/
def IsPath (path : Text) : Prop := Text.trim path = path ∧ ¬closing <:+: path

instance : Decidable (IsPath path) := inferInstanceAs (Decidable (_ ∧ _))

/-- The tag opens a block: it is the word, alone or with a blank behind it. -/
def OpensBlock (tag : Text) : Prop :=
  tag = eachWord ∨ ∃ c rest, isBlank c ∧ tag = eachWord ++ c :: rest

theorem eachPath?_eachWord : eachPath? eachWord = some [] := rfl

theorem eachPath?_append (hc : isBlank c) (rest : Text) :
    eachPath? (eachWord ++ c :: rest) = some (Text.trim (c :: rest)) := by
  have h : eachWord.isPrefixOf? (eachWord ++ c :: rest) = some (c :: rest) :=
    List.isPrefixOf?_eq_some_iff_append_eq.2 rfl
  rw [eachPath?, h]
  exact if_pos hc

/-- What a tag says that opens a block. -/
theorem eachPath?_eq_some_iff {tag path : Text} :
    eachPath? tag = some path ↔ (tag = eachWord ∧ path = []) ∨
      ∃ c rest, isBlank c ∧ tag = eachWord ++ c :: rest ∧ path = Text.trim (c :: rest) := by
  constructor
  · intro h
    unfold eachPath? at h
    split at h
    · next hw =>
      cases h
      exact .inl ⟨by simpa using (List.isPrefixOf?_eq_some_iff_append_eq.1 hw).symm, rfl⟩
    · next c rest hw =>
      split at h
      · next hc =>
        cases h
        exact .inr ⟨c, rest, hc, (List.isPrefixOf?_eq_some_iff_append_eq.1 hw).symm, rfl⟩
      · cases h
    · cases h
  · rintro (⟨rfl, rfl⟩ | ⟨c, rest, hc, rfl, rfl⟩)
    · exact eachPath?_eachWord
    · exact eachPath?_append hc rest

theorem isSome_eachPath?_iff {tag : Text} : (eachPath? tag).isSome ↔ OpensBlock tag := by
  simp only [Option.isSome_iff_exists, eachPath?_eq_some_iff, OpensBlock]
  constructor
  · rintro ⟨path, ⟨h, _⟩ | ⟨c, rest, hc, h, _⟩⟩
    · exact .inl h
    · exact .inr ⟨c, rest, hc, h⟩
  · rintro (h | ⟨c, rest, hc, h⟩)
    · exact ⟨[], .inl ⟨h, rfl⟩⟩
    · exact ⟨_, .inr ⟨c, rest, hc, h, rfl⟩⟩

theorem eachPath?_eq_none_iff {tag : Text} : eachPath? tag = none ↔ ¬OpensBlock tag := by
  rw [← isSome_eachPath?_iff, Option.not_isSome_iff_eq_none]

instance : Decidable (OpensBlock tag) := decidable_of_iff _ isSome_eachPath?_iff

/-! ## Normal forests -/

/-- A node that reading a body can give, apart from its children. -/
def Node.Proper : Node → Prop
  | .literal text => text ≠ []
  | .var path => IsPath path ∧ ¬OpensBlock path ∧ path ≠ endWord
  | .each path _ => IsPath path

instance : ∀ node : Node, Decidable node.Proper
  | .literal text => inferInstanceAs (Decidable (text ≠ []))
  | .var path => inferInstanceAs (Decidable (IsPath path ∧ ¬OpensBlock path ∧ path ≠ endWord))
  | .each path _ => inferInstanceAs (Decidable (IsPath path))

def Node.isLiteral : Node → Bool
  | .literal _ => true
  | .var _ | .each .. => false

/-- Neighbours that are not both literals. -/
def Apart (a b : Node) : Prop := ¬(a.isLiteral ∧ b.isLiteral)

instance : DecidableRel Apart := fun a b => inferInstanceAs (Decidable ¬(a.isLiteral ∧ b.isLiteral))

theorem apart_of_isLiteral_eq_false {a b : Node} (h : a.isLiteral = false) : Apart a b := by
  simp [Apart, h]

theorem Apart.symm {a b : Node} (h : Apart a b) : Apart b a := fun ⟨hb, ha⟩ => h ⟨ha, hb⟩

/-- All nodes are proper, and siblings that are both literals do not stand side by side. -/
def Normal (nodes : List Node) : Prop :=
  ∀ level ∈ levels nodes, (∀ node ∈ level, node.Proper) ∧ level.IsChain Apart

instance : Decidable (Normal nodes) :=
  inferInstanceAs (Decidable (∀ level ∈ levels nodes, _ ∧ _))

theorem normal_iff {nodes : List Node} :
    Normal nodes ↔ (∀ node ∈ nodes, node.Proper) ∧ nodes.IsChain Apart ∧
      ∀ path children, .each path children ∈ nodes → Normal children := by
  constructor
  · intro h
    obtain ⟨hproper, hchain⟩ := h nodes List.mem_cons_self
    refine ⟨hproper, hchain, fun path children hmem level hlevel => ?_⟩
    exact h level (List.mem_cons_of_mem _ (mem_levelsBelow.2 ⟨path, children, hmem, hlevel⟩))
  · rintro ⟨hproper, hchain, hbelow⟩ level hlevel
    rcases List.mem_cons.1 hlevel with rfl | hlevel
    · exact ⟨hproper, hchain⟩
    · obtain ⟨path, children, hmem, hlevel⟩ := mem_levelsBelow.1 hlevel
      exact hbelow path children hmem level hlevel

theorem normal_nil : Normal [] := normal_iff.2 ⟨by simp, .nil, by simp⟩

theorem normal_reverse {nodes : List Node} : Normal nodes.reverse ↔ Normal nodes := by
  have hflip : (fun a b => Apart b a) = Apart := by
    funext a b
    exact propext ⟨Apart.symm, Apart.symm⟩
  rw [@normal_iff nodes.reverse, @normal_iff nodes, List.isChain_reverse, hflip]
  simp only [List.mem_reverse]

theorem normal_cons {node : Node} {nodes : List Node} :
    Normal (node :: nodes) ↔ node.Proper ∧ (∀ next ∈ nodes.head?, Apart node next) ∧
      (∀ path children, node = .each path children → Normal children) ∧ Normal nodes := by
  rw [@normal_iff (node :: nodes), @normal_iff nodes, List.forall_mem_cons, List.isChain_cons]
  simp only [List.mem_cons]
  constructor
  · rintro ⟨⟨hnode, hnodes⟩, ⟨hhead, hchain⟩, hbelow⟩
    exact ⟨hnode, hhead, fun path children h => hbelow path children (.inl h.symm), hnodes, hchain,
      fun path children h => hbelow path children (.inr h)⟩
  · rintro ⟨hnode, hhead, hown, hnodes, hchain, hbelow⟩
    refine ⟨⟨hnode, hnodes⟩, ⟨hhead, hchain⟩, fun path children h => ?_⟩
    rcases h with h | h
    · exact hown path children h.symm
    · exact hbelow path children h

end Curriculum.Template
