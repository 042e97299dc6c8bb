import Curriculum.Latex.Escape
import Curriculum.Template.Parse
import Curriculum.Template.Path

/-! # Expansion

Expanding a template writes a sequence of pieces: its literals, and for each variable the string it
names or the text of the number or truth value it names. What a variable inserts is not read
again. -/

namespace Curriculum.Template

/-- A piece of the expanded text. -/
inductive Piece where
  /-- Text of the template. -/
  | literal (text : Text)
  /-- A string of the scope. -/
  | string (text : Text)
  /-- A number or a truth value of the scope as text. -/
  | display (text : Text)
  deriving DecidableEq, Repr

def Piece.text : Piece → Text
  | .literal t | .string t | .display t => t

/-- The pieces that a variable inserts: one for a scalar, none for anything else. -/
def inserted : Option Json.Value → List Piece
  | some (.string s) => [.string s]
  | some (.number n) => [.display n.display]
  | some (.bool true) => [.display "true"]
  | some (.bool false) => [.display "false"]
  | _ => []

/-- The items that a block is repeated for. -/
def repeated : Option Json.Value → List Json.Value
  | some (.array items) => items
  | _ => []

mutual
/-- The pieces of one node against a scope. -/
def Node.trace : Node → Json.Value → List Piece
  | .literal t, _ => [.literal t]
  | .var path, scope => inserted (resolve scope path)
  | .each path children, scope =>
    (repeated (resolve scope path)).flatMap fun item => traceAll children item

def traceAll : List Node → Json.Value → List Piece
  | [], _ => []
  | node :: nodes, scope => node.trace scope ++ traceAll nodes scope
end

def expand (nodes : List Node) (scope : Json.Value) : Text :=
  (traceAll nodes scope).flatMap Piece.text

end Curriculum.Template
