import Curriculum.Decimal.Number
import Curriculum.Files.Tree
import Curriculum.Text.Entries

/-! # Fresh names

Directories for temporary files get names that nothing else has. -/

namespace Curriculum

/-- The directory for temporary files, which a variable of the environment may name. -/
def temporaryOf (bindings : List (Text × Text)) : Text := (lookup "TMPDIR" bindings).getD "/tmp"

namespace FileTree

/-- The text of a number in six characters at least. -/
def freshEnding (n : Nat) : Text :=
  let digits := Number.digits n
  List.replicate (6 - digits.length) '0' ++ digits

/-- A path for a fresh directory in a directory for temporary files: the first one with nothing
there. Among more paths than the directory has entries is a free one. -/
def freshPath (t : FileTree) (here : Place) (temporary stem : Text) : Text :=
  let dir := if Path.isAbsolute temporary then temporary
    else Path.join (Path.fromRoot here) temporary
  let taken := match t.list here dir with
    | .ok names => names.length
    | .error _ => 0
  let candidates := (List.range (taken + 1)).map fun n =>
    Path.join dir (stem ++ freshEnding n)
  (candidates.find? fun path => (t.entryAt here path).isNone).getD dir

end FileTree

end Curriculum
