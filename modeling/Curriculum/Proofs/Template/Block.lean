import Curriculum.Proofs.Template.Print
import Curriculum.Proofs.Template.Step

/-! # Blocks around whole bodies

A closed body leaves nothing open at its end: what stands behind it is read as it is alone, whatever
braces meet at the seam. A block around a balanced body is therefore one node between the nodes of
what stands before it and behind it, and it is expanded for each item (`parse_block`). While the
inside is read the blocks around it stay (`Reading.within`), and what is read later leaves the nodes
in front of it alone (`Reading.behind`). -/

namespace Curriculum.Template

variable {nodes front current : List Node} {blocks outer : List OpenBlock} {token : Token}
  {body pre post inside path t rest : Text}

/-! ## Closed and balanced bodies -/

/-- Whatever pair of braces opens a tag while the body is read, another pair closes the tag. -/
inductive Terminated : Text → Prop
  | text {body : Text} : cutOpening body = none → Terminated body
  | tag {body before inner inside rest : Text} :
    cutOpening body = some (before, inner) → cutClosing inner = some (inside, rest) →
    Terminated rest → Terminated body

/-- A closing tag where no block is open. -/
def Reading.IsStray (r : Reading) : Token → Prop
  | .text _ => False
  | .tag inside => r.blocks = [] ∧ Text.trim inside = endWord

/-- No closing tag is stray when the tokens are read one after the other. -/
def Reading.NoneStray (r : Reading) : List Token → Prop
  | [] => True
  | token :: tokens => ¬r.IsStray token ∧ (r.step token).NoneStray tokens

/-- Read alone, the body leaves no block open and no tag without its end. -/
structure ClosedBody (body : Text) : Prop where
  terminated : Terminated body
  blocks_eq : (Reading.read {} body).blocks = []

/-- Read alone, the body also has no closing tag outside of its blocks. -/
structure BalancedBody (body : Text) : Prop extends ClosedBody body where
  noneStray : Reading.NoneStray {} (scan body)

theorem not_terminated {before inner : Text} (hopen : cutOpening body = some (before, inner))
    (hclose : cutClosing inner = none) : ¬Terminated body := by
  rintro (hnone | ⟨hopen', hclose', -⟩)
  · cases hopen.symm.trans hnone
  · cases hopen.symm.trans hopen'
    cases hclose.symm.trans hclose'

theorem terminated_tag_iff {before inner : Text} (hopen : cutOpening body = some (before, inner))
    (hclose : cutClosing inner = some (inside, rest)) : Terminated body ↔ Terminated rest := by
  constructor
  · rintro (hnone | ⟨hopen', hclose', hrest⟩)
    · cases hopen.symm.trans hnone
    · cases hopen.symm.trans hopen'
      cases hclose.symm.trans hclose'
      exact hrest
  · exact .tag hopen hclose

theorem scan_ne_nil (body : Text) : scan body ≠ [] := by
  rw [scan]
  split
  · exact List.cons_ne_nil _ _
  · split <;> exact List.cons_ne_nil _ _

/-- No opening pair stands behind the last tag. -/
theorem terminated_iff :
    Terminated body ↔ ∀ token ∈ (scan body).getLast?, ¬opening <:+: token.source := by
  fun_induction scan body with
  | case1 body hopen =>
    have htext : ¬opening <:+: body := cutOpening_eq_none_iff.1 hopen
    simpa [Token.source, htext] using Terminated.text hopen
  | case2 body before inner hopen hclose =>
    have htext : opening <:+: body := by
      rw [← not_not (a := opening <:+: body), ← cutOpening_eq_none_iff, hopen]
      exact Option.some_ne_none _
    simpa [Token.source, htext] using not_terminated hopen hclose
  | case3 body before inner hopen inside rest hclose ih =>
    have hlast : (.text before :: .tag inside :: scan rest).getLast? = (scan rest).getLast? := by
      rw [List.getLast?_cons_of_ne_nil (List.cons_ne_nil _ _),
        List.getLast?_cons_of_ne_nil (scan_ne_nil rest)]
    rw [terminated_tag_iff hopen hclose, ih, hlast]

instance : Decidable (Terminated body) := decidable_of_iff _ terminated_iff.symm

instance : ∀ (r : Reading) (token : Token), Decidable (r.IsStray token)
  | _, .text _ => inferInstanceAs (Decidable False)
  | r, .tag inside => inferInstanceAs (Decidable (r.blocks = [] ∧ Text.trim inside = endWord))

instance Reading.decidableNoneStray :
    ∀ (tokens : List Token) (r : Reading), Decidable (r.NoneStray tokens)
  | [], _ => .isTrue trivial
  | token :: tokens, r =>
    have := decidableNoneStray tokens (r.step token)
    inferInstanceAs (Decidable (¬r.IsStray token ∧ (r.step token).NoneStray tokens))

instance : Decidable (ClosedBody body) :=
  decidable_of_iff (Terminated body ∧ (Reading.read {} body).blocks = [])
    ⟨fun h => ⟨h.1, h.2⟩, fun h => ⟨h.1, h.2⟩⟩

instance : Decidable (BalancedBody body) :=
  decidable_of_iff (ClosedBody body ∧ Reading.NoneStray {} (scan body))
    ⟨fun h => ⟨h.1, h.2⟩, fun h => ⟨h.1, h.2⟩⟩

/-- A block with a path around a body. -/
def block (path body : Text) : Text :=
  (Token.tag (eachWord ++ [' '] ++ path)).source ++ body ++ (Token.tag endWord).source

/-! ## Frames -/

theorem addText_append (hfront : ∀ node ∈ front.head?, node.isLiteral = false) (t : Text)
    (nodes : List Node) : addText t (nodes ++ front) = addText t nodes ++ front := by
  unfold addText
  split
  · rfl
  · cases nodes with
    | nil =>
      -- the text would join a literal at the end of `front`
      cases front with
      | nil => rfl
      | cons node front =>
        have hnode := hfront node rfl
        cases node with
        | literal => cases hnode
        | var | each => rfl
    | cons node nodes => cases node <;> rfl

namespace Reading

/-- The reading with more open blocks around all that has been read. -/
def within (r : Reading) (outer : List OpenBlock) : Reading := ⟨r.current, r.blocks ++ outer⟩

theorem step_within {r : Reading} (h : ¬r.IsStray token) (outer : List OpenBlock) :
    (r.within outer).step token = (r.step token).within outer := by
  cases token with
  | text t => rfl
  | tag inside =>
    rcases r.step_tag_cases inside with ⟨path, heach, hstep⟩ |
      ⟨block, blocks, hend, hblocks, hstep⟩ | ⟨hend, hblocks, -⟩ | ⟨hopen, hend, hstep⟩
    · rw [hstep, step_each _ heach]
      rfl
    · rw [hstep, within, hblocks, List.cons_append, step_close hend]
      rfl
    · exact absurd ⟨hblocks, hend⟩ h
    · rw [hstep, step_var _ rfl hopen hend]
      rfl

theorem foldl_step_within {tokens : List Token} {r : Reading} (h : r.NoneStray tokens)
    (outer : List OpenBlock) :
    tokens.foldl step (r.within outer) = (tokens.foldl step r).within outer := by
  induction tokens generalizing r with
  | nil => rfl
  | cons token tokens ih =>
    rw [List.foldl_cons, List.foldl_cons, step_within h.1, ih h.2]

/-- The reading with more nodes, the last one first, in front of all that has been read. -/
def behind (front current : List Node) : List OpenBlock → Reading
  | [] => ⟨current ++ front, []⟩
  | block :: blocks =>
    ⟨current, ⟨block.path, (behind front block.before blocks).current⟩ ::
      (behind front block.before blocks).blocks⟩

theorem behind_cons (front : List Node) (node : Node) (current : List Node)
    (blocks : List OpenBlock) :
    behind front (node :: current) blocks =
      ⟨node :: (behind front current blocks).current, (behind front current blocks).blocks⟩ := by
  cases blocks <;> rfl

section
variable (hfront : ∀ node ∈ front.head?, node.isLiteral = false)
include hfront

theorem step_text_behind (t : Text) (r : Reading) :
    (behind front r.current r.blocks).step (.text t) =
      behind front (r.step (.text t)).current (r.step (.text t)).blocks := by
  obtain ⟨current, _ | ⟨block, blocks⟩⟩ := r
  · exact congrArg (Reading.mk · []) (addText_append hfront t current)
  · rfl

theorem step_behind (token : Token) (r : Reading) :
    (behind front r.current r.blocks).step token =
      behind front (r.step token).current (r.step token).blocks := by
  cases token with
  | text t => exact step_text_behind hfront t r
  | tag inside =>
    rcases r.step_tag_cases inside with ⟨path, heach, hstep⟩ |
      ⟨block, blocks, hend, hblocks, hstep⟩ | ⟨hend, hblocks, hstep⟩ | ⟨hopen, hend, hstep⟩
    · rw [hstep, step_each _ heach]
      rfl
    · rw [hstep, hblocks, behind, step_close hend, behind_cons]
    · have htext := step_text_behind hfront (Token.tag inside).source r
      rw [hblocks, behind] at htext
      rw [hstep, hblocks, behind, step_stray hend, htext]
    · rw [hstep, step_var _ rfl hopen hend, behind_cons]

theorem foldl_step_behind (tokens : List Token) (r : Reading) :
    tokens.foldl step (behind front r.current r.blocks) =
      behind front (tokens.foldl step r).current (tokens.foldl step r).blocks := by
  induction tokens generalizing r with
  | nil => rfl
  | cons token tokens ih => rw [List.foldl_cons, List.foldl_cons, step_behind hfront, ih]

end

theorem finish_behind (front current : List Node) (blocks : List OpenBlock) :
    (behind front current blocks).finish = front.reverse ++ closeAll current blocks := by
  induction blocks generalizing current with
  | nil => exact List.reverse_append
  | cons block blocks ih =>
    have hclose := ih (.each block.path current.reverse :: block.before)
    rw [behind_cons] at hclose
    exact hclose

/-! ## Bodies in a row -/

/-- What stands behind a body without an unfinished tag is read after it. -/
theorem read_append (h : Terminated body) (hrest : Boundary rest) (r : Reading) :
    r.read (body ++ rest) = (r.read body).read rest := by
  induction h generalizing r with
  | text hopen =>
    rw [r.read_text (cutOpening_eq_none_iff.1 hopen) hrest, read, read, read,
      scan_of_cutOpening hopen]
    rfl
  | @tag body before inner inside after hopen hclose _ ih =>
    have hbody : body = before ++ (Token.tag inside).source ++ after := by
      rw [eq_of_cutOpening hopen, eq_of_cutClosing hclose]
      simp [Token.source]
    -- the tag ends inside the body, so what stands behind the body does not move its end
    have hwhole : scan (body ++ rest) = .text before :: .tag inside :: scan (after ++ rest) := by
      rw [hbody, List.append_assoc, scan_tag_append hopen hclose]
    have hread : r.read body = ((r.step (.text before)).step (.tag inside)).read after := by
      rw [read, scan_of_tag hopen hclose]
      rfl
    rw [hread, ← ih, read, hwhole]
    rfl

end Reading

open Reading

/-! ## Blocks -/

theorem eachPath?_trim_eachTag (path : Text) :
    eachPath? (Text.trim (eachWord ++ [' '] ++ path)) = some (Text.trim path) := by
  obtain ⟨w, w', hw, hw', hpath⟩ := Text.trim_split path
  have hgap : Text.allBlank (' ' :: w) := hw
  have hsplit : eachWord ++ [' '] ++ path =
      [] ++ (eachWord ++ ' ' :: w ++ Text.trim path) ++ w' := by
    calc eachWord ++ [' '] ++ path = eachWord ++ [' '] ++ (w ++ Text.trim path ++ w') := by
          rw [← hpath]
      _ = [] ++ (eachWord ++ ' ' :: w ++ Text.trim path) ++ w' := by simp
  rw [hsplit, Text.trim_append_blank rfl hw',
    eachPath?_trim_eachWord hgap (Text.trim_trim path) fun _ => List.cons_ne_nil _ _]

theorem ClosedBody.parse_eq (h : ClosedBody body) :
    parse body = (Reading.read {} body).current.reverse := by
  rw [parse_eq_finish_read, finish, h.blocks_eq, closeAll]

theorem boundary_block (path body rest : Text) : Boundary (block path body ++ rest) := by
  rw [block, List.append_assoc, List.append_assoc]
  exact boundary_tag (by simp [eachWord]) _

/-- Wherever a block around a balanced body stands, it is read as one more node. -/
theorem read_block (hbody : BalancedBody body) (hpath : ¬closing <:+: path)
    (hlast : path.getLast? ≠ some '\x7d') (r : Reading) (rest : Text) :
    r.read (block path body ++ rest) =
      (Reading.mk (.each (Text.trim path) (parse body) :: r.current) r.blocks).read rest := by
  have hinside : ¬closing <:+: eachWord ++ [' '] ++ path ++ ['\x7d'] := by
    rw [List.append_assoc]
    exact not_infix_append (by decide) (not_infix_concat hpath hlast)
  have hclose : Boundary ((Token.tag endWord).source ++ rest) := boundary_tag (by decide) rest
  have hread : (Reading.mk [] (⟨Text.trim path, r.current⟩ :: r.blocks)).read body =
      (Reading.read {} body).within (⟨Text.trim path, r.current⟩ :: r.blocks) :=
    foldl_step_within hbody.noneStray _
  rw [block, List.append_assoc, List.append_assoc, r.read_tag (by simp [eachWord]) hinside,
    r.step_each (eachPath?_trim_eachTag path), read_append hbody.terminated hclose, hread, within,
    hbody.blocks_eq, List.nil_append, read_tag _ (by decide) (by decide), step_close rfl,
    hbody.parse_eq]

/-- A block around a balanced body parts a template. What stands before it and behind it is read as
it is alone, and the body is expanded once for each item that its path leads to. -/
theorem parse_block (hpre : ClosedBody pre) (hbody : BalancedBody body)
    (hpath : ¬closing <:+: path) (hlast : path.getLast? ≠ some '\x7d') (post : Text) :
    parse (pre ++ block path body ++ post) =
        parse pre ++ .each (Text.trim path) (parse body) :: parse post ∧
      ∀ scope, expand (parse (pre ++ block path body ++ post)) scope =
        expand (parse pre) scope ++
          (repeated (resolve scope path)).flatMap (expand (parse body)) ++
          expand (parse post) scope := by
  have hparse : parse (pre ++ block path body ++ post) =
      parse pre ++ .each (Text.trim path) (parse body) :: parse post := by
    set front := Node.each (Text.trim path) (parse body) :: (Reading.read {} pre).current with hf
    -- no text behind the block joins a literal, for the block stands last in `front`
    have hfront : ∀ node ∈ front.head?, node.isLiteral = false := by
      rintro node ⟨⟩
      rfl
    have hpost : (Reading.mk front []).read post = _ := foldl_step_behind hfront (scan post) {}
    rw [parse_eq_finish_read, List.append_assoc,
      read_append hpre.terminated (boundary_block path body post), read_block hbody hpath hlast,
      hpre.blocks_eq, hpost, finish_behind, hpre.parse_eq, hf, List.reverse_cons, List.append_assoc]
    rfl
  refine ⟨hparse, fun scope => ?_⟩
  have hresolve : resolve scope (Text.trim path) = resolve scope path := by
    rw [resolve, resolve, Text.trim_trim]
  rw [hparse, expand_append, expand_each, hresolve, List.append_assoc]

/-- A body that ends in a brace behind a stray closing tag. -/
def strayHead : Text := "\x7b\x7b/each\x7d\x7d\x7b".toList

/-- A body with braces at both ends and a block between them. -/
def braced : Text :=
  "\x7d\x7b\x7b#each ys\x7d\x7d\x7b\x7b this \x7d\x7d\x7b\x7b/each\x7d\x7d\x7b".toList

/-- A body that starts with a brace, has a stray closing tag and leaves a tag without its end. -/
def strayTail : Text := "\x7d\x7b\x7b/each\x7d\x7d\x7b\x7b z".toList

/-- Two items, the first with two items of its own. -/
def nestedItems : Json.Value :=
  .object [("xs".toList, .array [
    .object [("ys".toList, .array [.string ['1'], .string ['2']])], .object []])]

theorem parse_block_braced :
    ClosedBody strayHead ∧ BalancedBody braced ∧ ¬closing <:+: " xs ".toList ∧
      " xs ".toList.getLast? ≠ some '\x7d' ∧
      parse (strayHead ++ block " xs " braced ++ strayTail) =
        parse strayHead ++ .each "xs" (parse braced) :: parse strayTail ∧
      expand (parse (strayHead ++ block " xs " braced ++ strayTail)) nestedItems =
        strayHead ++ "\x7d12\x7b".toList ++ "\x7d\x7b".toList ++ strayTail := by
  have hhead : ClosedBody strayHead := by decide +kernel
  have hbody : BalancedBody braced := by decide +kernel
  have hpath : ¬closing <:+: " xs ".toList := by decide +kernel
  have hlast : " xs ".toList.getLast? ≠ some '\x7d' := by decide +kernel
  obtain ⟨hparse, hexpand⟩ := parse_block hhead hbody hpath hlast strayTail
  exact ⟨hhead, hbody, hpath, hlast, hparse, (hexpand nestedItems).trans (by decide +kernel)⟩

end Curriculum.Template
