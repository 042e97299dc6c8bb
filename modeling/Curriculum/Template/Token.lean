import Curriculum.Template.Node

/-! # Tokens of a template body

A body is cut into text and tags. Of a run of braces the last two open a tag, so braces of the
surrounding markup stay text, and the tag reaches to the first pair of closing braces. A pair of
opening braces that no pair closes is text like the rest. -/

namespace Curriculum.Template

inductive Token where
  | text (text : Text)
  | tag (inside : Text)
  deriving Repr

/-- What a token was cut from. -/
def Token.source : Token → Text
  | .text t => t
  | .tag inside => opening ++ inside ++ closing

/-- A cut with one more character before it. -/
def later (c : Char) (cut : Text × Text) : Text × Text := (c :: cut.1, cut.2)

/-- The text before the first pair of opening braces that no further brace follows, and the text
after that pair. -/
def cutOpening : Text → Option (Text × Text)
  | [] => none
  | '\x7b' :: '\x7b' :: rest =>
    match rest with
    | '\x7b' :: _ => (cutOpening ('\x7b' :: rest)).map (later '\x7b')
    | _ => some ([], rest)
  | c :: rest => (cutOpening rest).map (later c)

/-- The text before the first pair of closing braces, and the text after it. -/
def cutClosing : Text → Option (Text × Text)
  | [] => none
  | '\x7d' :: '\x7d' :: rest => some ([], rest)
  | c :: rest => (cutClosing rest).map (later c)

private theorem eq_cons_of_later {c : Char} {t before after sep : Text} {cut? : Option (Text × Text)}
    (ih : ∀ {before after}, cut? = some (before, after) → t = before ++ sep ++ after)
    (h : cut?.map (later c) = some (before, after)) : c :: t = before ++ sep ++ after := by
  obtain ⟨⟨x, y⟩, hcut, hlater⟩ := Option.map_eq_some_iff.1 h
  cases hlater
  simp [ih hcut]

theorem eq_of_cutOpening {t before after : Text} (h : cutOpening t = some (before, after)) :
    t = before ++ opening ++ after := by
  fun_induction cutOpening t generalizing before after with
  | case1 => simp at h
  | case2 _ ih => exact eq_cons_of_later ih h
  | case3 => cases h; rfl
  | case4 _ _ _ ih => exact eq_cons_of_later ih h

theorem eq_of_cutClosing {t before after : Text} (h : cutClosing t = some (before, after)) :
    t = before ++ closing ++ after := by
  fun_induction cutClosing t generalizing before after with
  | case1 => simp at h
  | case2 => cases h; rfl
  | case3 _ _ _ ih => exact eq_cons_of_later ih h

/-- The tokens of a body. -/
def scan (t : Text) : List Token :=
  match _cut : cutOpening t with
  | none => [.text t]
  | some (before, inner) =>
    match _cut' : cutClosing inner with
    | none => [.text t]
    | some (inside, rest) => .text before :: .tag inside :: scan rest
termination_by t.length
decreasing_by
  have h₁ := congrArg List.length (eq_of_cutOpening _cut)
  have h₂ := congrArg List.length (eq_of_cutClosing _cut')
  simp [opening, closing] at h₁ h₂
  omega

end Curriculum.Template
