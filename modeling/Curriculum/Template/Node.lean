import Curriculum.Text.Blank

/-! # Templates

A template body is text with tags between double braces. A tag names a path whose value takes its
place, or opens or closes a block that is repeated for each item of an array. -/

namespace Curriculum.Template

inductive Node where
  | literal (text : Text)
  | var (path : Text)
  | each (path : Text) (children : List Node)
  deriving Inhabited, Repr

/-- The braces before a tag. -/
def opening : Text := ['\x7b', '\x7b']

/-- The braces after a tag. -/
def closing : Text := ['\x7d', '\x7d']

def eachWord : Text := ['#', 'e', 'a', 'c', 'h']

/-- The word that closes a block. -/
def endWord : Text := ['/', 'e', 'a', 'c', 'h']

/-- The path of the scope itself. -/
def thisWord : Text := ['t', 'h', 'i', 's']

end Curriculum.Template
