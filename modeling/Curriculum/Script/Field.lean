import Curriculum.Script.Arithmetic
import Curriculum.Script.Pattern

/-! # Fields

Words become fields: their parameters get their values, what is not quoted is split at separators,
and a field that is a pattern becomes the names of the files it matches. -/

namespace Curriculum.Script

/-- A character of a word whose segments have their values. -/
inductive Glyph where
  | char (c : Char) (quoted : Bool)
  /-- A character of a value outside of quotes, which may separate fields. -/
  | soft (c : Char)
  /-- There were quotes here, perhaps with nothing between them. -/
  | mark
  /-- One field ends and another one starts. -/
  | border
  deriving DecidableEq, Repr

namespace Glyph

def ofValue (quoted : Bool) (value : Text) : List Glyph :=
  if quoted then mark :: value.map (char · true) else value.map soft

/-- The arguments, each as a field of its own. -/
def ofArguments (quoted : Bool) (arguments : List Text) : List Glyph :=
  ((arguments.map (ofValue quoted)).intersperse [border]).flatten

/-- A word that stands for a value is split like one. -/
def soften : Glyph → Glyph
  | char c false => soft c
  | g => g

def marked? : Glyph → Option Marked
  | char c quoted => some (c, quoted)
  | soft c => some (c, false)
  | mark | border => none

def plain? : Glyph → Option Char
  | char c _ | soft c => some c
  | border => some ' '
  | mark => none

end Glyph

def parameterGlyphs (name : Text) (quoted : Bool) : Step (List Glyph) := do
  let s ← get
  let all := name = ['@'] || (name = ['*'] && !quoted)
  if all then return Glyph.ofArguments quoted s.arguments
  match s.value? name with
  | some value => return Glyph.ofValue quoted value
  | none =>
    if s.has 'u' && name ≠ ['*'] then Step.fail (name ++ ": parameter not set".toList) 2
    return Glyph.ofValue quoted []

/-- What is said of a parameter without a value. -/
def absenceText (empty : Bool) : Text :=
  if empty then "parameter not set or null" else "parameter not set"

mutual

/-- The glyphs of a segment, where `inner` runs a script and gives what it prints. -/
def segmentGlyphs (inner : Text → Step Text) : Segment → Step (List Glyph)
  | .text t quoted =>
    return if quoted then .mark :: t.map (.char · true) else t.map (.char · false)
  | .parameter name quoted => parameterGlyphs name quoted
  | .size name quoted => do
    let s ← get
    if name = ['@'] || name = ['*'] then
      return Glyph.ofValue quoted (Number.digits s.arguments.length)
    let value ← parameterGlyphs name true
    return Glyph.ofValue quoted (Number.digits (value.filterMap Glyph.plain?).length)
  | .cut name atEnd longest pattern quoted => do
    let value := (← parameterGlyphs name true).filterMap Glyph.plain?
    let p := Pattern.ofMarked ((← wordGlyphs inner pattern).filterMap Glyph.marked?)
    return Glyph.ofValue quoted (p.cut atEnd longest value)
  | .instead kind empty name word quoted => do
    let s ← get
    let present := match s.value? name with
      | some value => !(empty && value.isEmpty)
      | none => false
    match kind, present with
    | .present, false => return Glyph.ofValue quoted []
    | .useWord, false | .present, true =>
      return (← wordGlyphs inner word).map fun g => if quoted then g else g.soften
    | .assignWord, false =>
      let value := (← wordGlyphs inner word).filterMap Glyph.plain?
      Step.setVariable name value
      return Glyph.ofValue quoted value
    | .failWith, false =>
      let said := (← wordGlyphs inner word).filterMap Glyph.plain?
      Step.fail (name ++ ": ".toList ++ if said.isEmpty then absenceText empty else said) 2
    | _, true => parameterGlyphs name quoted
  | .output script quoted => return Glyph.ofValue quoted (← inner script)
  | .arithmetic body quoted => do
    let t := (← wordGlyphs inner body).filterMap Glyph.plain?
    return Glyph.ofValue quoted (← evaluate t)
  | .broken => Step.fail "Bad substitution" 2

def wordGlyphs (inner : Text → Step Text) : List Segment → Step (List Glyph)
  | [] => return []
  | segment :: rest => do return (← segmentGlyphs inner segment) ++ (← wordGlyphs inner rest)

end

/-- A tilde at the start of a word stands for the home directory. -/
def homeWord (s : Shell) : Word → Word
  | .text ['~'] false :: rest =>
    match s.bound? "HOME", rest with
    | some home, [] | some home, .text ['/'] false :: _ => .text home true :: rest
    | _, _ => .text ['~'] false :: rest
  | w => w

def wholeText (inner : Text → Step Text) (w : Word) : Step Text := do
  return (← wordGlyphs inner (homeWord (← get) w)).filterMap Glyph.plain?

def patternOf (inner : Text → Step Text) (w : Word) : Step Pattern := do
  return Pattern.ofMarked ((← wordGlyphs inner (homeWord (← get) w)).filterMap Glyph.marked?)

/-! ## Splitting -/

/-- The fields of some glyphs. `field` is the one that has been started, reversed; `absorbs` tells
that blanks have just ended one, so that a separator behind them belongs to them. -/
def splitGlyphs (separators : Text) (field : Option (List Marked)) (absorbs : Bool) :
    List Glyph → List (List Marked)
  | [] => (field.map List.reverse).toList
  | .border :: rest => (field.map List.reverse).toList ++ splitGlyphs separators none false rest
  | .mark :: rest => splitGlyphs separators (some (field.getD [])) false rest
  | .char c quoted :: rest =>
    splitGlyphs separators (some ((c, quoted) :: field.getD [])) false rest
  | .soft c :: rest =>
    if !separators.contains c then
      splitGlyphs separators (some ((c, false) :: field.getD [])) false rest
    else if " \t\n".toList.contains c then
      (field.map List.reverse).toList ++
        splitGlyphs separators none (absorbs || field.isSome) rest
    else if field.isNone && absorbs then splitGlyphs separators none false rest
    else (field.getD []).reverse :: splitGlyphs separators none false rest

/-! ## Names of files -/

/-- The names in a directory that a pattern matches, sorted by their bytes. -/
def matchingNames (w : World) (here : Place) (dir : Text) (p : Pattern) : List (Text × Entry) :=
  match w.tree.list here (if dir.isEmpty then ['.'] else Latin1.toPath dir) with
  | .error _ => []
  | .ok entries =>
    let entries := entries.map fun (name, e) => (Latin1.ofPath name, e)
    let entries := if p.head? = some (.char '.') then
      (['.'], Entry.directory) :: (['.', '.'], Entry.directory) :: entries else entries
    let found := entries.filter fun (name, _) =>
      p.matchesText name && (name.head? ≠ some '.' || p.head? = some (.char '.'))
    found.mergeSort fun a b => !Text.before b.1 a.1

/-- The paths that go on from `dir` by names that match. -/
def matchingPaths (w : World) (here : Place) (dir : Text) : List (List Marked) → List Text
  | [] => []
  | [last] =>
    let p := Pattern.ofMarked last
    let t := last.map (·.1)
    if p.isOpen then (matchingNames w here dir p).map fun (name, _) => dir ++ name
    else if (w.tree.entryAt here (Latin1.toPath (dir ++ t))).isSome then [dir ++ t] else []
  | name :: next :: rest =>
    let p := Pattern.ofMarked name
    if p.isOpen then
      let dirs := (matchingNames w here dir p).filter fun e => e.2 = .directory
      dirs.flatMap fun (t, _) => matchingPaths w here (dir ++ t ++ ['/']) (next :: rest)
    else matchingPaths w here (dir ++ name.map (·.1) ++ ['/']) (next :: rest)

def fieldTexts (w : World) (s : Shell) (field : List Marked) : List Text :=
  let t := field.map (·.1)
  if s.has 'f' || !(Pattern.ofMarked field).isOpen then [t]
  else match matchingPaths w s.here [] (field.splitOnP fun m => m.1 = '/') with
    | [] => [t]
    | paths => paths

def fieldsOf (inner : Text → Step Text) : List Word → Step (List Text)
  | [] => return []
  | w :: rest => do
    let glyphs ← wordGlyphs inner (homeWord (← get) w)
    let s ← get
    let world ← Step.world
    let fields := (splitGlyphs s.separators none false glyphs).flatMap (fieldTexts world s)
    return fields ++ (← fieldsOf inner rest)

end Curriculum.Script
