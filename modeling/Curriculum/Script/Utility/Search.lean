import Curriculum.Script.Regex
import Curriculum.Script.Utility.Files
import Curriculum.Script.Utility.Lines

/-! # Searching lines

The lines of files that a pattern matches, or does not match, are printed, counted or only looked
for. -/

namespace Curriculum.Script

/-- The expression for matches that are whole words. -/
def Regex.wholeWord (r : Regex) : Regex :=
  .sequence (.place fun a _ => !Regex.isWordChar a)
    (.sequence r (.place fun _ b => !Regex.isWordChar b))

def Regex.wholeLine (r : Regex) : Regex :=
  .sequence Regex.lineStart (.sequence r Regex.lineEnd)

/-- The matches in a line that are not empty, one behind the other. -/
def matchesIn (r : Regex) (fuel : Nat) (before t : Text) : List Text :=
  match fuel with
  | 0 => []
  | fuel + 1 =>
    match r.findFrom before [] t with
    | none => []
    | some f =>
      let before := f.matched.reverse ++ (f.skipped.reverse ++ before)
      if f.matched.isEmpty then
        match f.rest with
        | [] => []
        | c :: rest => matchesIn r fuel (c :: before) rest
      else f.matched :: matchesIn r fuel before f.rest

structure Search where
  expression : Regex
  options : Options
  /-- The name of the file comes before each line. -/
  named : Bool

namespace Search

def has (s : Search) (letter : Char) (word : Text) : Bool := s.options.has letter word

def selects (s : Search) (line : Text) : Bool :=
  (s.expression.find? line).isSome != s.has 'v' "invert-match"

def number (s : Search) (letter : Char) (word : Text) : Nat :=
  ((s.options.value? letter word).bind Text.natural?).getD 0

def label (s : Search) (name : Text) (number : Nat) (mark : Char) : Text :=
  (if s.named then name ++ [mark] else []) ++
    if s.has 'n' "line-number" then Number.digits number ++ [mark] else []

/-- The lines to print with their neighbours. A gap between them is marked. -/
def printed (s : Search) (name : Text) (lines : List (Text × Nat × Bool)) : List Text :=
  let around := s.number 'C' "context"
  let behind := max around (s.number 'A' "after-context")
  let ahead := max around (s.number 'B' "before-context")
  let chosen := (lines.filter fun l => l.2.2).map fun l => l.2.1
  let shown := lines.filter fun (_, n, selected) =>
    selected || chosen.any fun m => (m < n && n ≤ m + behind) || (n < m && m ≤ n + ahead)
  let gaps := 0 < behind || 0 < ahead
  (shown.zip ((0 : Nat) :: shown.map fun l => l.2.1)).flatMap fun ((line, n, selected), last) =>
    (if gaps && last ≠ 0 && n ≠ last + 1 then ["--".toList] else []) ++
      if s.has 'o' "only-matching" then
        if selected && !s.has 'v' "invert-match" then
          (matchesIn s.expression (line.length + 1) [] line).map (s.label name n ':' ++ ·)
        else []
      else [s.label name n (if selected then ':' else '-') ++ line]

/-- The first lines up to so many that are selected. -/
def upTo (limit : Nat) : List (Text × Nat × Bool) → List (Text × Nat × Bool)
  | [] => []
  | l :: rest =>
    if !l.2.2 then l :: upTo limit rest
    else match limit with
      | 0 => []
      | limit + 1 => l :: upTo limit rest

/-- Searches one file; tells whether a line was selected. -/
def run (s : Search) (name content : Text) : Step Bool := do
  let lines := (linesOf content).zipIdx 1 |>.map fun (l, n) => (l, n, s.selects l)
  let lines := match (s.options.value? 'm' "max-count").bind Text.natural? with
    | some limit => upTo limit lines
    | none => lines
  let count := (lines.filter fun l => l.2.2).length
  let shown : Text := if name = ['-'] then "(standard input)" else name
  if s.has 'q' "quiet" || s.has '\x00' "silent" then return 0 < count
  if s.has 'l' "files-with-matches" then
    if 0 < count then Step.printLine shown else pure ()
  else if s.has 'L' "files-without-match" then
    if count = 0 then Step.printLine shown else pure ()
  else if s.has 'c' "count" then
    Step.printLine ((if s.named then shown ++ [':'] else []) ++ Number.digits count)
  else if content.contains '\x00' && 0 < count then
    Step.printLine ("grep: ".toList ++ shown ++ ": binary file matches".toList)
  else Step.print (unlines (s.printed shown lines))
  return 0 < count

end Search

/-- The expression that some patterns are, each on a line of its own. -/
def searched? (o : Options) (kind : Option Char) (patterns : List Text) : Option Regex := do
  let fold := o.has 'i' "ignore-case" || o.has 'y' []
  let plain := kind = some 'F' || o.has 'F' "fixed-strings"
  let extended := kind = some 'E' || o.has 'E' "extended-regexp" || o.has 'P' "perl-regexp"
  let read (t : Text) : Option Regex := do
    let r ← if plain then some (Regex.ofText fold t) else Regex.parse? extended fold t
    let r := if o.has 'w' "word-regexp" then r.wholeWord else r
    return if o.has 'x' "line-regexp" then r.wholeLine else r
  let all ← (patterns.flatMap fun p => p.splitOnP (· = '\n')).mapM read
  match all with
  | [] => return .place fun _ _ => false
  | first :: rest => return rest.foldl .either first

/-- Searches files and, when asked to, all that lies below directories. -/
def searchWith (kind : Option Char) (arguments : List Text) : Step Nat :=
  let o := Options.read "abcEFGhHiIlLnoPqrRsTuUvVwxyzZ" "ABCdDefm" arguments
  let usage : Text := "Usage: grep [OPTION]... PATTERNS [FILE]...\n" ++
    "Try 'grep --help' for more information."
  if let some c := o.unknown then
    complainAs "grep" ("invalid option -- '".toList ++ c :: "'\n".toList ++ usage) 2
  else do
    let given := (o.given.filter fun g => g.1 = ['e'] || g.1 = "regexp".toList).map (·.2)
    let fromFile ← match o.value? 'f' "file" with
      | none => pure []
      | some path => do
        match ← readPath path with
        | .ok t => pure (linesOf t)
        | .error _ => pure []
    let hasPatterns := !given.isEmpty || (o.value? 'f' "file").isSome
    if !hasPatterns && o.operands.isEmpty then
      return ← Step.complain usage 2
    let patterns := if hasPatterns then given ++ fromFile else o.operands.take 1
    let files := if hasPatterns then o.operands else o.operands.drop 1
    let deep := o.has 'r' "recursive" || o.has 'R' "dereference-recursive"
    let s ← get
    let w ← Step.world
    let paths := if !files.isEmpty then files else if deep then [['.']] else [['-']]
    let paths := if deep then paths.flatMap fun path =>
        match pathsBelow w s.here path with
        | [] => [path]
        | below => (below.filter fun e => e.2 ≠ .directory).map (·.1)
      else paths
    match searched? o kind patterns with
    | none => complainAs "grep" "Invalid regular expression" 2
    | some expression =>
      let named := (1 < paths.length || deep || o.has 'H' "with-filename") &&
        !o.has 'h' "no-filename"
      let search : Search := { expression, options := o, named }
      let mut found := false
      let mut failed := false
      for path in paths do
        match ← readPath path with
        | .ok content => if ← search.run path content then found := true
        | .error f =>
          failed := true
          if !o.has 's' "no-messages" then
            let _ ← complainAbout "grep" path f 2
      if found && (o.has 'q' "quiet" || !failed) then return 0
      return if failed then 2 else 1

end Curriculum.Script
