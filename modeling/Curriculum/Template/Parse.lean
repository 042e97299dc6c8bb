import Curriculum.Template.Token

/-! # Parsing a template body

The tokens are read from left to right. Blocks that are still open wait on a stack with the nodes
that precede them; a closing tag without an open block is text, and the end of the body closes all
blocks that are open. -/

namespace Curriculum.Template

/-- A block that has not been closed, and the nodes before it, the last one first. -/
structure OpenBlock where
  path : Text
  before : List Node

/-- What has been read: the nodes of the innermost open block, the last one first, and the open
blocks from the inside out. -/
structure Reading where
  current : List Node := []
  blocks : List OpenBlock := []

/-- Text after the given nodes, where the last node comes first. It joins a literal, and empty text
adds nothing. -/
def addText (t : Text) (nodes : List Node) : List Node :=
  if t.isEmpty then nodes
  else match nodes with
    | .literal u :: rest => .literal (u ++ t) :: rest
    | nodes => .literal t :: nodes

/-- The path of a tag that opens a block: what follows the opening word, which a blank must part
from it. -/
def eachPath? (tag : Text) : Option Text :=
  match eachWord.isPrefixOf? tag with
  | some [] => some []
  | some (c :: rest) => if isBlank c then some (Text.trim (c :: rest)) else none
  | none => none

namespace Reading

def step (r : Reading) : Token → Reading
  | .text t => { r with current := addText t r.current }
  | .tag inside =>
    let tag := Text.trim inside
    match eachPath? tag with
    | some path => ⟨[], ⟨path, r.current⟩ :: r.blocks⟩
    | none =>
      if tag = endWord then
        match r.blocks with
        | [] => { r with current := addText (Token.source (.tag inside)) r.current }
        | block :: blocks => ⟨.each block.path r.current.reverse :: block.before, blocks⟩
      else { r with current := .var tag :: r.current }

/-- The nodes when the given blocks are closed around those of the innermost one. -/
def closeAll (current : List Node) : List OpenBlock → List Node
  | [] => current.reverse
  | block :: blocks => closeAll (.each block.path current.reverse :: block.before) blocks

def finish (r : Reading) : List Node := closeAll r.current r.blocks

end Reading

/-- The nodes of a body. Every text is the body of some template. -/
def parse (body : Text) : List Node := ((scan body).foldl Reading.step {}).finish

end Curriculum.Template
