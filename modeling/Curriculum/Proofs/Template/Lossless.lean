import Curriculum.Proofs.Template.Print
import Curriculum.Proofs.Template.Stray

/-! # Parsing keeps the whole body

A body is a printing of the nodes that it is read as, whatever is wrong with it: only blocks that
are open at its end lack their closing tags. While the body is read, the state is a printing of the
part that has been read (`Reading.Shows`), and what it holds is normal (`Reading.Sound`). -/

namespace Curriculum.Template

/-- The forest written as a body in which blocks that are open at its end lack their closing
tags. -/
inductive PrintsOpen (s : Spelling) : List Node → Text → Prop
  | closed {nodes : List Node} {body : Text} : Prints s nodes body → PrintsOpen s nodes body
  | block {before children : List Node} {body path inside rest : Text} :
    Prints s before body → s.each path inside → PrintsOpen s children rest →
    PrintsOpen s (before ++ [.each path children]) (body ++ (Token.tag inside).source ++ rest)

/-- The open blocks, from the inside out, written up to the start of the innermost one. -/
inductive PrintsBlocks (s : Spelling) : List OpenBlock → Text → Prop
  | nil : PrintsBlocks s [] []
  | cons {block : OpenBlock} {blocks : List OpenBlock} {outer body inside : Text} :
    PrintsBlocks s blocks outer → Prints s block.before.reverse body → s.each block.path inside →
    PrintsBlocks s (block :: blocks) (outer ++ body ++ (Token.tag inside).source)

variable {s : Spelling} {nodes nodes' children : List Node} {inside path body t : Text}

/-! ## What a tag says -/

theorem isPath_trim (h : ¬closing <:+: inside) : IsPath (Text.trim inside) := by
  obtain ⟨w, w', -, -, hsplit⟩ := Text.trim_split inside
  exact ⟨Text.trim_trim inside, fun hpair => h (hpair.trans ⟨w, w', hsplit.symm⟩)⟩

theorem isPath_of_eachPath? (h : eachPath? (Text.trim inside) = some path)
    (hclose : ¬closing <:+: inside) : IsPath path := by
  rcases eachPath?_eq_some_iff.1 h with ⟨-, rfl⟩ | ⟨c, rest, -, hsay, rfl⟩
  · decide
  · refine isPath_trim fun hpair => (isPath_trim hclose).2 ?_
    rw [hsay]
    exact hpair.trans (List.suffix_append eachWord (c :: rest)).isInfix

/-- What opens a block is the word and the path with blanks around them and between them. -/
theorem loose_each_of_eachPath? (h : eachPath? (Text.trim inside) = some path) :
    Spelling.loose.each path inside := by
  rcases eachPath?_eq_some_iff.1 h with ⟨hsay, rfl⟩ | ⟨c, rest, hc, hsay, rfl⟩
  · refine ⟨[], rfl, by simp, ?_⟩
    rw [List.append_nil, List.append_nil, ← hsay]
    exact around_trim inside
  obtain ⟨v, v', hv, hv', hinside⟩ := Text.trim_split inside
  obtain ⟨w, w', hw, hw', hrest⟩ := Text.trim_split (c :: rest)
  have hblank : Text.allBlank (w' ++ v') := by rw [Text.allBlank_append, hw', hv', Bool.and_self]
  refine ⟨w, hw, Text.ne_nil_of_trim_split hc hrest, v, w' ++ v', hv, hblank, ?_⟩
  calc inside = v ++ Text.trim inside ++ v' := hinside
    _ = v ++ (eachWord ++ (w ++ Text.trim (c :: rest) ++ w')) ++ v' := by rw [hsay, ← hrest]
    _ = v ++ (eachWord ++ w ++ Text.trim (c :: rest)) ++ (w' ++ v') := by simp

/-! ## More text -/

theorem prints_append_iff :
    Prints s (nodes ++ nodes') body ↔
      ∃ t u, Prints s nodes t ∧ Prints s nodes' u ∧ body = t ++ u := by
  constructor
  · intro h
    induction nodes generalizing body with
    | nil => exact ⟨[], body, .nil, h, rfl⟩
    | cons node nodes ih =>
      cases h with
      | literal hrest =>
        obtain ⟨t, u, ht, hu, rfl⟩ := ih hrest
        exact ⟨_, u, ht.literal, hu, (List.append_assoc ..).symm⟩
      | var hvar hrest =>
        obtain ⟨t, u, ht, hu, rfl⟩ := ih hrest
        exact ⟨_, u, .var hvar ht, hu, (List.append_assoc ..).symm⟩
      | each heach hchildren hclose hrest =>
        obtain ⟨t, u, ht, hu, rfl⟩ := ih hrest
        exact ⟨_, u, .each heach hchildren hclose ht, hu, (List.append_assoc ..).symm⟩
  · rintro ⟨t, u, ht, hu, rfl⟩
    exact ht.append hu

theorem prints_literal_iff : Prints s [.literal t] body ↔ body = t := by
  constructor
  · rintro ⟨⟩
    next h =>
      cases h
      exact List.append_nil t
  · rintro rfl
    simpa using Prints.literal (s := s) .nil

theorem Prints.addText (h : Prints s nodes.reverse body) (t : Text) :
    Prints s (addText t nodes).reverse (body ++ t) := by
  rcases addText_cases t nodes with ⟨rfl, hadd⟩ | ⟨u, rest, rfl, hadd⟩ | ⟨-, -, hadd⟩
  · rw [hadd, List.append_nil]
    exact h
  · rw [List.reverse_cons, prints_append_iff] at h
    obtain ⟨v, w, hv, hw, rfl⟩ := h
    rw [hadd, List.reverse_cons, prints_literal_iff.1 hw, List.append_assoc]
    exact hv.append (prints_literal_iff.2 rfl)
  · rw [hadd, List.reverse_cons]
    exact h.append (prints_literal_iff.2 rfl)

theorem normal_addText (h : Normal nodes) (t : Text) : Normal (addText t nodes) := by
  rcases addText_cases t nodes with ⟨-, hadd⟩ | ⟨u, rest, rfl, hadd⟩ | ⟨ht, hlast, hadd⟩
  · rw [hadd]
    exact h
  · obtain ⟨hu, hnext, -, hrest⟩ := normal_cons.1 h
    rw [hadd]
    exact normal_cons.2 ⟨List.append_ne_nil_of_left_ne_nil hu t, hnext, by simp, hrest⟩
  · rw [hadd]
    refine normal_cons.2 ⟨ht, fun next hnext => ?_, by simp, h⟩
    cases next with
    | literal u =>
      obtain ⟨rest, rfl⟩ := List.head?_eq_some_iff.1 hnext
      exact absurd rfl (hlast u rest)
    | var | each => exact Apart.symm (apart_of_isLiteral_eq_false rfl)

theorem normal_each_cons (hpath : IsPath path) (hchildren : Normal children) (h : Normal nodes) :
    Normal (.each path children :: nodes) := by
  refine normal_cons.2 ⟨hpath, fun _ _ => apart_of_isLiteral_eq_false rfl, ?_, h⟩
  rintro _ _ ⟨⟩
  exact hchildren

theorem normal_var_cons (hpath : (Node.var path).Proper) (h : Normal nodes) :
    Normal (.var path :: nodes) :=
  normal_cons.2 ⟨hpath, fun _ _ => apart_of_isLiteral_eq_false rfl, by simp, h⟩

/-! ## Steps -/

namespace Reading

variable {r : Reading} {token : Token} {current : List Node} {blocks : List OpenBlock}
  {outer : Text}

/-- What the state holds is normal. -/
structure Sound (r : Reading) : Prop where
  current : Normal r.current
  blocks : ∀ block ∈ r.blocks, IsPath block.path ∧ Normal block.before

theorem Sound.text (h : r.Sound) (t : Text) : (r.step (.text t)).Sound :=
  ⟨normal_addText h.current t, h.blocks⟩

theorem Sound.step (h : r.Sound) (htag : ∀ inside, token = .tag inside → ¬closing <:+: inside) :
    (r.step token).Sound := by
  cases token with
  | text t => exact h.text t
  | tag inside =>
    have hclose := htag inside rfl
    rcases r.step_tag_cases inside with ⟨path, heach, hstep⟩ | ⟨block, blocks, -, hblocks, hstep⟩ |
      ⟨-, -, hstep⟩ | ⟨hopen, hend, hstep⟩
    · rw [hstep]
      have hpath := isPath_of_eachPath? heach hclose
      exact ⟨normal_nil, List.forall_mem_cons.2 ⟨⟨hpath, h.current⟩, h.blocks⟩⟩
    · obtain ⟨⟨hpath, hbefore⟩, hrest⟩ := List.forall_mem_cons.1 (hblocks ▸ h.blocks)
      rw [hstep]
      exact ⟨normal_each_cons hpath (normal_reverse.2 h.current) hbefore, hrest⟩
    · rw [hstep]
      exact h.text _
    · rw [hstep]
      exact ⟨normal_var_cons ⟨isPath_trim hclose, hopen, hend⟩ h.current, h.blocks⟩

/-- The state is a printing of the text that has been read. -/
def Shows (r : Reading) (t : Text) : Prop :=
  ∃ outer body, PrintsBlocks .loose r.blocks outer ∧ Prints .loose r.current.reverse body ∧
    t = outer ++ body

theorem Shows.text (h : r.Shows t) (u : Text) : (r.step (.text u)).Shows (t ++ u) := by
  obtain ⟨outer, body, houter, hbody, rfl⟩ := h
  exact ⟨outer, body ++ u, houter, hbody.addText u, List.append_assoc ..⟩

theorem Shows.step (h : r.Shows t) (token : Token) : (r.step token).Shows (t ++ token.source) := by
  cases token with
  | text u => exact h.text u
  | tag inside =>
    have hinside := around_trim inside
    rcases r.step_tag_cases inside with ⟨path, heach, hstep⟩ |
      ⟨block, blocks, hend, hblocks, hstep⟩ | ⟨-, -, hstep⟩ | ⟨-, -, hstep⟩
    · obtain ⟨outer, body, houter, hbody, rfl⟩ := h
      rw [hstep]
      exact ⟨_, [], houter.cons hbody (loose_each_of_eachPath? heach), .nil, by simp⟩
    · -- the block's children stand where the innermost block was
      obtain ⟨_, body, houter, hbody, rfl⟩ := h
      rw [hblocks] at houter
      obtain _ | ⟨houter, hbefore, heach⟩ := houter
      have hclosed := hbefore.append (.each heach hbody (hend ▸ hinside) .nil)
      rw [← List.reverse_cons] at hclosed
      rw [hstep]
      exact ⟨_, _, houter, hclosed, by simp⟩
    · rw [hstep]
      exact h.text _
    · obtain ⟨outer, body, houter, hbody, rfl⟩ := h
      have hvar := hbody.append (.var hinside .nil)
      rw [← List.reverse_cons] at hvar
      rw [hstep]
      exact ⟨outer, _, houter, hvar, by simp⟩

/-! ## Runs -/

theorem Sound.foldl {tokens : List Token} (h : r.Sound)
    (htags : ∀ inside, .tag inside ∈ tokens → ¬closing <:+: inside) :
    (tokens.foldl Reading.step r).Sound := by
  induction tokens generalizing r with
  | nil => exact h
  | cons token tokens ih =>
    refine ih (h.step fun inside htoken => htags inside ?_) fun inside hmem => htags inside ?_
    · exact htoken ▸ List.mem_cons_self
    · exact List.mem_cons_of_mem _ hmem

theorem Shows.foldl (h : r.Shows t) (tokens : List Token) :
    (tokens.foldl Reading.step r).Shows (t ++ tokens.flatMap Token.source) := by
  induction tokens generalizing r t with
  | nil => simpa using h
  | cons token tokens ih =>
    rw [List.flatMap_cons, ← List.append_assoc]
    exact ih (h.step token)

theorem normal_closeAll (hcurrent : Normal current)
    (hblocks : ∀ block ∈ blocks, IsPath block.path ∧ Normal block.before) :
    Normal (closeAll current blocks) := by
  induction blocks generalizing current with
  | nil => exact normal_reverse.2 hcurrent
  | cons block blocks ih =>
    obtain ⟨⟨hpath, hbefore⟩, hblocks⟩ := List.forall_mem_cons.1 hblocks
    exact ih (normal_each_cons hpath (normal_reverse.2 hcurrent) hbefore) hblocks

theorem printsOpen_closeAll (houter : PrintsBlocks s blocks outer)
    (hbody : PrintsOpen s current.reverse body) :
    PrintsOpen s (closeAll current blocks) (outer ++ body) := by
  induction houter generalizing current body with
  | nil => exact hbody
  | cons _ hbefore heach ih =>
    have := PrintsOpen.block hbefore heach hbody
    rw [← List.reverse_cons] at this
    simpa only [closeAll, List.append_assoc] using ih this

end Reading

open Reading

theorem normal_parse (body : Text) : Normal (parse body) := by
  have hsound : (Reading.mk [] []).Sound := ⟨normal_nil, by simp⟩
  obtain ⟨hcurrent, hblocks⟩ := hsound.foldl fun inside => not_infix_of_mem_scan
  exact normal_closeAll hcurrent hblocks

/-- Parsing keeps the whole body: the nodes are normal, the body is a printing of them in which only
the blocks that are open at its end lack their closing tags, and no tag is left in a literal but
closing tags outside of blocks. -/
theorem parse_lossless (body : Text) :
    Normal (parse body) ∧ PrintsOpen .loose (parse body) body ∧
      ∀ node ∈ parse body, node.Strays := by
  have hsound : (Reading.mk [] []).Sound := ⟨normal_nil, by simp⟩
  have hshows : (Reading.mk [] []).Shows [] := ⟨[], [], .nil, .nil, rfl⟩
  obtain ⟨hcurrent, hblocks⟩ := hsound.foldl fun inside => not_infix_of_mem_scan
  obtain ⟨outer, rest, houter, hrest, hbody⟩ := hshows.foldl (scan body)
  rw [List.nil_append, flatMap_source_scan] at hbody
  refine ⟨normal_closeAll hcurrent hblocks, ?_, strays_parse body⟩
  have := printsOpen_closeAll houter (.closed hrest)
  rwa [← hbody] at this

end Curriculum.Template
