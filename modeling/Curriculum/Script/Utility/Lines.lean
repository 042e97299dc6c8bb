import Curriculum.Script.Pattern
import Curriculum.Script.Utility.Print

/-! # Utilities for lines

What these utilities read are lines; most of them print some of the lines, or lines that they have
made of them. -/

namespace Curriculum.Script

def unlines (ls : List Text) : Text := ls.flatMap fun l => l ++ ['\n']

/-- The lines of a text with their ends. A last line may have none. -/
def linesWithEnds (t : Text) : List Text :=
  let parts := t.splitOnP (· = '\n')
  parts.dropLast.map (· ++ ['\n']) ++ parts.getLast?.toList.filter fun l => !l.isEmpty

def padLeft (width : Nat) (t : Text) : Text := List.replicate (width - t.length) ' ' ++ t

def openFile? (stream : Nat) : Step (Option OpenFile) := do
  let w ← Step.world
  return (w.stream? (← get).id stream).bind fun file => w.opened.lookup file

/-! ## Whole files -/

/-- The output is the file at a path, which holds something already. -/
def isOutput (path : Text) : Step Bool := do
  let w ← Step.world
  match ← openFile? 1, w.locate (← get).here path with
  | some { source := .file place, .. }, .ok target => return place = target && !(w.content place).isEmpty
  | _, _ => return false

/-- Numbers lines from a count on; blank lines may stay without. -/
def numberLines (all : Bool) (count : Nat) : List Text → List Text
  | [] => []
  | l :: ls =>
    if all || (l ≠ ['\n'] && l ≠ []) then
      (padLeft 6 (Number.digits count) ++ '\t' :: l) :: numberLines all (count + 1) ls
    else l :: numberLines all count ls

def cat (arguments : List Text) : Step Nat :=
  withOptions "cat" "AbeEnstTuv" [] 1 arguments fun o => do
    let numbered := o.has 'n' "number" || o.has 'b' "number-nonblank"
    eachOf (fun path => do
      if path ≠ ['-'] && (← isOutput path) then
        return ← complainAs "cat" (path ++ ": input file is output file".toList) 1
      match ← readPath path with
      | .error f => complainAbout "cat" path f 1
      | .ok content =>
        let ls := linesWithEnds content
        let ls := if numbered then numberLines (!o.has 'b' "number-nonblank") 1 ls else ls
        let ls := if o.has 'E' "show-ends" || o.has 'A' "show-all" || o.has 'e' [] then
          ls.map fun l => if l.getLast? = some '\n' then l.dropLast ++ ['$', '\n'] else l else ls
        Step.print ls.flatten
        return 0) (if o.operands.isEmpty then [['-']] else o.operands)

def tee (arguments : List Text) : Step Nat :=
  withOptions "tee" "aip" [] 1 arguments fun o => do
    let content ← Step.readAll 0
    Step.print content
    eachOf (fun path => do
      match ← openStream 9 path (if o.has 'a' "append" then .append else .write) with
      | some f => complainAbout "tee" path f 1
      | none =>
        Step.write 9 content
        let s ← get
        Step.changeWorld fun w => w.closeStream s.id 9
        return 0) o.operands

def counts (t : Text) : Nat × Nat × Nat :=
  let words := t.splitOnP fun c => c = ' ' || ('\t' ≤ c && c ≤ '\r')
  (t.count '\n', (words.filter fun w => !w.isEmpty).length, t.length)

def wordCount (arguments : List Text) : Step Nat :=
  withOptions "wc" "clmwL" [] 1 arguments fun o => do
    let lines := o.has 'l' "lines"
    let words := o.has 'w' "words"
    let bytes := o.has 'c' "bytes" || o.has 'm' "chars"
    let all := !(lines || words || bytes)
    let select (c : Nat × Nat × Nat) : List Nat :=
      (if lines || all then [c.1] else []) ++ (if words || all then [c.2.1] else []) ++
        (if bytes || all then [c.2.2] else [])
    let paths := if o.operands.isEmpty then [['-']] else o.operands
    let regular ← match ← openFile? 0 with
      | some { source := .file _, .. } => pure true
      | _ => pure false
    let mut rows : List (Except Fault (Nat × Nat × Nat) × Text) := []
    for path in paths do
      rows := rows ++ [((← readPath path).map counts, path)]
    let found := rows.filterMap fun r => r.1.toOption
    let total := found.foldl (fun a b => (a.1 + b.1, a.2.1 + b.2.1, a.2.2 + b.2.2)) (0, 0, 0)
    let width := if paths.length = 1 && (select total).length = 1 then 1
      else if paths.contains ['-'] && !regular then 7
      else (Number.digits total.2.2).length
    let row (c : Nat × Nat × Nat) (name : Text) : Text :=
      Text.join [' '] ((select c).map fun n => padLeft width (Number.digits n)) ++ name
    let status ← eachOf (fun (c, path) => do
      match c with
      | .ok c =>
        Step.printLine (row c (if o.operands.isEmpty then [] else ' ' :: path))
        return 0
      | .error f => complainAbout "wc" path f 1) rows
    if 1 < paths.length then Step.printLine (row total " total")
    return status

/-! ## The first and the last lines -/

/-- The arguments with a count that is given as an option itself spelled out. -/
def spellCount : List Text → List Text
  | ('-' :: c :: digits) :: rest =>
    if c.isDigit then
      let number := c :: digits.takeWhile Char.isDigit
      match (c :: digits).drop number.length with
      | [] => "-n".toList :: number :: rest
      | letters => "-n".toList :: number :: ('-' :: letters) :: rest
    else ('-' :: c :: digits) :: rest
  | arguments => arguments

/-- Prints lines of a stream as they come, as many as wanted. -/
def printFirst (stream : Nat) : Nat → Step Unit
  | 0 => return
  | count + 1 => do
    let (line, ended) ← Step.readLine 1000000 stream
    if ended then
      Step.printLine line
      printFirst stream count
    else Step.print line

/-- Writes so many bytes of a stream at most to another one, as they come, and gives how many there
were. -/
def passBytes (fuel source target count : Nat) : Step Nat := do
  match fuel, count with
  | 0, _ | _, 0 => return 0
  | fuel + 1, count =>
    let part := (← Step.readSome source).take count
    if part.isEmpty then return 0
    Step.consume source part.length
    Step.write target part
    return part.length + (← passBytes fuel source target (count - part.length))

def firstOf (c : Count) (parts : List α) : List α :=
  if c.sign = some '-' then parts.take (parts.length - c.number) else parts.take c.number

/-- The last parts: so many of them, or those from a number on. -/
def lastOf (c : Count) (parts : List α) : List α :=
  if c.sign = some '+' then parts.drop (c.number - 1) else parts.drop (parts.length - c.number)

def headOrTail (last : Bool) (arguments : List Text) : Step Nat :=
  let name : Text := if last then "tail" else "head"
  withOptions name (if last then "fFqvz".toList else "qvz".toList) "cn" 1 (spellCount arguments)
    fun o => do
      let given := (o.value? 'c' "bytes" <|> o.value? 'n' "lines").getD "10"
      let ofBytes := (o.value? 'c' "bytes").isSome
      match count? given with
      | none => complainAs name ("invalid number of ".toList ++
          (if ofBytes then "bytes" else "lines" : String).toList ++ ": '".toList ++ given ++ ['\'']) 1
      | some c =>
        let paths := if o.operands.isEmpty then [['-']] else o.operands
        let titled := (1 < paths.length && !o.has 'q' "quiet") || o.has 'v' "verbose"
        let select (t : Text) : Text :=
          if ofBytes then if last then lastOf c t else firstOf c t
          else (if last then lastOf c (linesWithEnds t) else firstOf c (linesWithEnds t)).flatten
        let title (path : Text) (i : Nat) : Step Unit := do
          if titled then
            let name : Text := if path = ['-'] then "standard input" else path
            let gap : Text := if i = 0 then [] else ['\n']
            Step.print (gap ++ "==> ".toList ++ name ++ " <==\n".toList)
        let status ← eachOf (fun (path, i) => do
          if !last && c.sign ≠ some '-' && (path = ['-'] || World.isDevice path) then
            let stream := if path = ['-'] then 0 else 9
            if stream = 9 then discard <| openStream 9 path .read
            title path i
            if ofBytes then discard <| passBytes c.number stream 1 c.number
            else printFirst stream c.number
            return 0
          match ← readPath path with
          | .ok content =>
            title path i
            Step.print (select content)
            return 0
          | .error .isDirectory =>
            title path i
            complainAbout name ("error reading ".toList ++ '\'' :: path ++ ['\'']) .isDirectory 1
          | .error f => complainAs name ("cannot open '".toList ++ path ++
              "' for reading: ".toList ++ World.wording f) 1) paths.zipIdx
        if last && (o.has 'f' "follow" || o.has 'F' []) then
          Step.await fun _ => false
        return status

/-- Copies blocks of bytes from one file to another, as said by words with a value. -/
def copyBlocks (arguments : List Text) : Step Nat := do
  let value? (key : Text) : Option Text := arguments.findSome? fun a => (key ++ ['=']).isPrefixOf? a
  let number (key : Text) (preset : Nat) : Nat :=
    (((value? key).bind count?).map Count.number).getD preset
  let size := number "bs" 512
  let most := number "count" 1000000000 * size
  let opened (stream : Nat) (path? : Option Text) (how : Opening) (preset : Nat) :
      Step (Except Nat Nat) :=
    match path? with
    | none => return .ok preset
    | some path => do
      match ← openStream stream path how with
      | none => return .ok stream
      | some f => return .error (← complainAs "dd" ("failed to open '".toList ++ path ++ "': ".toList ++
          World.wording f) 1)
  match ← opened 8 (value? "if") .read 0 with
  | .error code => return code
  | .ok source =>
    match ← opened 9 (value? "of") .write 1 with
    | .error code => return code
    | .ok target =>
      let skipped := number "skip" 0 * size
      discard <| passBytes skipped source 7 skipped
      let bytes ← passBytes most source target most
      if value? "status" ≠ some "none".toList then
        let blocks := Number.digits (bytes / size) ++ '+' :: (if bytes % size = 0 then ['0'] else ['1'])
        Step.write 2 (blocks ++ " records in\n".toList ++ blocks ++ " records out\n".toList ++
          Number.digits bytes ++ " bytes copied, 0 s, Infinity B/s\n".toList)
      return 0

/-! ## Order -/

/-- The key of a line in a sort: from one field to another one. -/
structure SortKey where
  first : Nat
  last : Option Nat
  letters : Text

def sortKey? (t : Text) : Option SortKey := do
  let digits := t.takeWhile Char.isDigit
  let first ← Text.natural? digits
  let rest := t.drop digits.length
  let rest := if rest.head? = some '.' then (rest.drop 1).dropWhile Char.isDigit else rest
  let letters := rest.takeWhile Char.isAlpha
  match rest.drop letters.length with
  | [] => return ⟨first, none, letters⟩
  | ',' :: rest =>
    let digits := rest.takeWhile Char.isDigit
    let rest := rest.drop digits.length
    let rest := if rest.head? = some '.' then (rest.drop 1).dropWhile Char.isDigit else rest
    return ⟨first, ← Text.natural? digits, letters ++ rest⟩
  | _ => none

/-- The fields of a line, which keep the blanks before them when blanks separate them. -/
def sortFields (separator : Option Char) (line : Text) : List Text :=
  match separator with
  | some c => (line.splitOnP (· = c)).map fun f => f ++ [c]
  | none => go line.length line
where
  go (fuel : Nat) (line : Text) : List Text :=
    match fuel with
    | 0 => []
    | fuel + 1 =>
      let blanks := line.takeWhile fun c => c = ' ' || c = '\t'
      let word := (line.drop blanks.length).takeWhile fun c => c ≠ ' ' && c ≠ '\t'
      if line.isEmpty then []
      else (blanks ++ word) :: go fuel (line.drop (blanks.length + word.length))

/-- The part of a line that a key takes. -/
def SortKey.part (k : SortKey) (separator : Option Char) (line : Text) : Text :=
  let fields := sortFields separator line
  let chosen := (match k.last with
    | some n => fields.take n
    | none => fields).drop (k.first - 1)
  if k.last.isSome && separator.isSome then chosen.flatten.dropLast else chosen.flatten

/-- The number at the start of a line, in millionths. -/
def leadingNumber (t : Text) : Int :=
  let t := t.dropWhile fun c => c = ' ' || c = '\t'
  let negative := t.head? = some '-'
  let t := if negative then t.drop 1 else t
  let whole := t.takeWhile Char.isDigit
  let places := match t.drop whole.length with
    | '.' :: rest => (rest.takeWhile Char.isDigit).take 6
    | _ => []
  let n := (Text.natural? (whole ++ places ++ List.replicate (6 - places.length) '0')).getD 0
  if negative then -(n : Int) else n

/-- Two texts compare in the order that some letters ask for. -/
def compareBy (letters a b : Text) : Ordering :=
  let trim (t : Text) : Text :=
    if letters.contains 'b' then t.dropWhile fun c => c = ' ' || c = '\t' else t
  let fold (t : Text) : Text := if letters.contains 'f' then t.map Char.toUpper else t
  let order := if letters.contains 'n' || letters.contains 'g' || letters.contains 'h' then
      compare (leadingNumber a) (leadingNumber b)
    else
      let (a, b) := (fold (trim a), fold (trim b))
      if Text.before a b then .lt else if Text.before b a then .gt else .eq
  if letters.contains 'r' then order.swap else order

def sort (arguments : List Text) : Step Nat :=
  withOptions "sort" "bcCdfghimMnrRsuVz" "koStT" 2 arguments fun o => do
    let letters := (o.given.filterMap fun g => match g.1 with
      | [c] => if "bfgnrh".toList.contains c then some c else none
      | _ => none)
    let keys := (o.given.filter fun g => g.1 = ['k'] || g.1 = "key".toList).filterMap
      fun g => sortKey? g.2
    let separator := (o.value? 't' "field-separator").bind List.head?
    let byKeys (a b : Text) : Ordering :=
      if keys.isEmpty then compareBy letters a b
      else keys.foldl (fun order k =>
        let letters := if k.letters.isEmpty then letters else k.letters
        order.then (compareBy letters (k.part separator a) (k.part separator b))) .eq
    let unique := o.has 'u' "unique"
    let order (a b : Text) : Ordering :=
      if unique || o.has 's' "stable" then byKeys a b
      else (byKeys a b).then (compareBy (letters.filter (· = 'r')) a b)
    let (t, status) ← joinedContent "sort" 2 o.operands
    let lines := linesOf t
    if o.has 'c' "check" || o.has 'C' [] then
      return if (lines.zip lines.tail).all fun (a, b) => order a b ≠ .gt then 0 else 1
    let sorted := lines.mergeSort fun a b => order a b ≠ .gt
    let sorted := if unique then
      (sorted.foldl (fun done l => match done with
        | d :: _ => if byKeys d l = .eq then done else l :: done
        | [] => [l]) []).reverse else sorted
    match o.value? 'o' "output" with
    | some path =>
      match ← writePath path (unlines sorted) with
      | some f => complainAbout "sort" ("open failed: ".toList ++ path) f 2
      | none => return status
    | none =>
      Step.print (unlines sorted)
      return status

/-- Runs of equal lines with their lengths. -/
def runs (same : Text → Text → Bool) : List Text → List (Text × Nat)
  | [] => []
  | l :: ls =>
    match runs same ls with
    | (m, n) :: rest => if same l m then (l, n + 1) :: rest else (l, 1) :: (m, n) :: rest
    | [] => [(l, 1)]

def unique (arguments : List Text) : Step Nat :=
  withOptions "uniq" "cdiuDz" "fsw" 1 arguments fun o => do
    match ← readPath (o.operands.headD ['-']) with
    | .error f => complainAbout "uniq" (o.operands.headD ['-']) f 1
    | .ok t =>
      let same (a b : Text) : Bool :=
        if o.has 'i' "ignore-case" then a.map Char.toLower = b.map Char.toLower else a = b
      let chosen := (runs same (linesOf t)).filter fun (_, n) =>
        (!o.has 'd' "repeated" || 1 < n) && (!o.has 'u' "unique" || n = 1)
      let out := unlines (chosen.map fun (l, n) =>
        if o.has 'c' "count" then padLeft 7 (Number.digits n) ++ ' ' :: l else l)
      match o.operands[1]? with
      | some path =>
        match ← writePath path out with
        | some f => complainAbout "uniq" path f 1
        | none => return 0
      | none =>
        Step.print out
        return 0

def reverseAll (arguments : List Text) : Step Nat := do
  let (t, status) ← joinedContent "tac" 1 arguments
  Step.print (linesWithEnds t).reverse.flatten
  return status

def reverseEach (arguments : List Text) : Step Nat := do
  let (t, status) ← joinedContent "rev" 1 arguments
  Step.print (unlines ((linesOf t).map List.reverse))
  return status

def numbered (arguments : List Text) : Step Nat :=
  withOptions "nl" "p" "bdfhilnsvw" 1 arguments fun o => do
    let (t, status) ← joinedContent "nl" 1 o.operands
    let all := o.value? 'b' "body-numbering" = some ['a']
    Step.print ((numberLines all 1 (linesWithEnds t)).flatMap fun l =>
      if l = ['\n'] then "       \n".toList else l)
    return status

/-! ## Parts of lines -/

/-- The ranges in a list such as `1,3-5,7-`. A range may have no end. -/
def ranges? (t : Text) : Option (List (Nat × Option Nat)) :=
  (t.splitOnP (· = ',')).mapM fun r =>
    match r.splitOnP (· = '-') with
    | [n] => (Text.natural? n).map fun n => (n, some n)
    | [[], n] => (Text.natural? n).map fun n => (1, some n)
    | [n, []] => (Text.natural? n).map fun n => (n, none)
    | [m, n] => do return (← Text.natural? m, some (← Text.natural? n))
    | _ => none

/-- The parts whose numbers are in the ranges. -/
def partsIn (ranges : List (Nat × Option Nat)) (others : Bool) (parts : List α) : List α :=
  (parts.zipIdx 1).filterMap fun (a, n) =>
    if (ranges.any fun (low, high) => low ≤ n && high.all (n ≤ ·)) != others then some a else none

def cut (arguments : List Text) : Step Nat :=
  withOptions "cut" "nsz" "bcdf" 1 arguments fun o => do
    let delimiter := ((o.value? 'd' "delimiter").bind List.head?).getD '\t'
    let characters := o.value? 'c' "characters" <|> o.value? 'b' "bytes"
    let others := o.has '\x00' "complement"
    match (characters <|> o.value? 'f' "fields").bind ranges? with
    | none => complainOfCall "cut" "you must specify a list of bytes, characters, or fields" 1
    | some ranges =>
      let (t, status) ← joinedContent "cut" 1 o.operands
      let glue := (o.value? '\x00' "output-delimiter").getD [delimiter]
      Step.print (unlines ((linesOf t).filterMap fun l =>
        if characters.isSome then some (partsIn ranges others l)
        else if !l.contains delimiter then
          if o.has 's' "only-delimited" then none else some l
        else some (Text.join glue (partsIn ranges others (l.splitOnP (· = delimiter))))))
      return status

/-- The characters of a set that is written with ranges, classes and backslashes. -/
def setChars (fuel : Nat) (t : Text) : Text :=
  match fuel, t with
  | 0, _ | _, [] => []
  | fuel + 1, '[' :: ':' :: rest =>
    match class? (rest.map fun c => (c, false)) with
    | some (ranges, rest) => ranges.flatMap (fun (a, b) => span a b) ++ setChars fuel (rest.map (·.1))
    | none => '[' :: setChars fuel (':' :: rest)
  | fuel + 1, t =>
    let (first, rest) := one t
    match rest with
    | '-' :: d :: rest =>
      let (last, rest) := one (d :: rest)
      match first, last with
      | [a], [b] => span a b ++ setChars fuel rest
      | _, _ => first ++ setChars fuel ('-' :: d :: rest)
    | _ => first ++ setChars fuel rest
where
  span (a b : Char) : Text := (List.range (b.toNat + 1 - a.toNat)).map fun n => Char.ofNat (a.toNat + n)
  one : Text → Text × Text
    | '\\' :: c :: rest =>
      if (escapes.lookup c).isSome || isOctal c then escapeAt false (c :: rest) else ([c], rest)
    | c :: rest => ([c], rest)
    | [] => ([], [])

/-- Runs of one character of a set become one of it. -/
def squeeze (set : Text) : Text → Text
  | c :: d :: rest =>
    if c = d && set.contains c then squeeze set (d :: rest) else c :: squeeze set (d :: rest)
  | t => t

def translate (arguments : List Text) : Step Nat := do
  let options := (arguments.takeWhile fun a => a.head? = some '-' && 1 < a.length).flatten
  let sets := (arguments.dropWhile fun a => a.head? = some '-' && 1 < a.length)
  let has (c : Char) : Bool := options.contains c
  let complement := has 'c' || has 'C'
  let raw := setChars (sets.headD []).length (sets.headD [])
  let first := if complement then
    ((List.range 256).map Char.ofNat).filter fun c => !raw.contains c else raw
  let second := (sets[1]?).map fun t => setChars t.length t
  if sets.isEmpty then return ← missingOperands
  if has 'd' then
    let t := (← Step.readAll 0).filter fun c => !first.contains c
    Step.print (if has 's' then squeeze (second.getD []) t else t)
    return 0
  match second with
  | none =>
    if has 's' then
      Step.print (squeeze first (← Step.readAll 0))
      return 0
    else missingOperands
  | some second =>
    let table := first.zip (second ++
      List.replicate (first.length - second.length) (second.getLast?.getD ' '))
    let t := (← Step.readAll 0).map fun c => (table.lookup c).getD c
    Step.print (if has 's' then squeeze second t else t)
    return 0
where
  missingOperands : Step Nat :=
    complainOfCall "tr" "missing operand" 1

/-! ## Making lines -/

/-- A whole number with a sign or without one. -/
def wholeNumber? : Text → Option Int
  | '-' :: digits => (Text.natural? digits).map fun n => -(n : Int)
  | '+' :: digits | digits => (Text.natural? digits).map fun n => n

def sequenceOf (arguments : List Text) : Step Nat := do
  let (separator, width, operands) := options arguments [] false
  let bounds := match operands.mapM wholeNumber? with
    | some [last] => some (1, 1, last)
    | some [first, last] => some (first, 1, last)
    | some [first, step, last] => if step = 0 then none else some (first, step, last)
    | _ => none
  match bounds with
  | none =>
    let bad := (operands.find? fun t => (wholeNumber? t).isNone).getD []
    if operands.isEmpty then
      complainOfCall "seq" "missing operand" 1
    else complainOfCall "seq" ("invalid floating point argument: '".toList ++ bad ++ ['\'']) 1
  | some (first, step, last) =>
    let count := if 0 < step then ((last - first) / step + 1).toNat
      else ((first - last) / (-step) + 1).toNat
    let numbers := (List.range count).map fun (i : Nat) => integer (first + step * i)
    let widest := if width then numbers.foldl (fun n t => max n t.length) 0 else 0
    let padded := numbers.map fun t => List.replicate (widest - t.length) '0' ++ t
    if !padded.isEmpty then
      Step.print (Text.join (if separator.isEmpty then ['\n'] else separator) padded ++ ['\n'])
    return 0
where
  options : List Text → Text → Bool → Text × Bool × List Text
    | ['-', 's'] :: t :: rest, _, width => options rest t width
    | ['-', 'w'] :: rest, separator, _ => options rest separator true
    | ('-' :: 's' :: t) :: rest, _, width => options rest t width
    | rest, separator, width => (separator, width, rest)

/-- Prints a line for ever. -/
def yesFor (line : Text) : Nat → Step Unit
  | 0 => return
  | fuel + 1 => do
    Step.print (List.replicate 32 (line ++ ['\n'])).flatten
    Step.pass 100000
    yesFor line fuel

def yes (arguments : List Text) : Step Nat := do
  yesFor (if arguments.isEmpty then ['y'] else Text.join [' '] arguments) 1000000000
  return 1

/-- A duration in seconds or another unit, perhaps with decimals, as nanoseconds. -/
def nanoseconds? (t : Text) : Option Nat := do
  if t = "infinity".toList || t = "inf".toList then return 1000000000000000000
  let whole := t.takeWhile Char.isDigit
  let rest := t.drop whole.length
  let places := match rest with
    | '.' :: rest => rest.takeWhile Char.isDigit
    | _ => []
  let unit ← match rest.drop (if rest.head? = some '.' then places.length + 1 else 0) with
    | [] | ['s'] => some 1
    | ['m'] => some 60
    | ['h'] => some 3600
    | ['d'] => some 86400
    | _ => none
  let places := places.take 9
  let digits := whole ++ places
  let n ← Text.natural? digits
  return n * Nat.pow 10 (9 - places.length) * unit

def sleep (arguments : List Text) : Step Nat := do
  if arguments.isEmpty then
    return ← complainOfCall "sleep" "missing operand" 1
  match arguments.mapM nanoseconds? with
  | some times =>
    Step.pass (times.foldl (· + ·) 0)
    return 0
  | none =>
    let bad := (arguments.find? fun t => (nanoseconds? t).isNone).getD []
    complainOfCall "sleep" ("invalid time interval '".toList ++ bad ++ ['\'']) 1

/-- The first byte in which two files differ. -/
def compareFiles (arguments : List Text) : Step Nat :=
  withOptions "cmp" "bls" "in" 2 arguments fun o => do
    match o.operands with
    | [a, b] =>
      match ← readPath a, ← readPath b with
      | .error f, _ => complainAbout "cmp" a f 2
      | _, .error f => complainAbout "cmp" b f 2
      | .ok s, .ok t =>
        if s = t then return 0
        if o.has 's' "quiet" || o.has 's' "silent" then return 1
        let same := ((s.zip t).takeWhile fun (c, d) => c = d).length
        if same = s.length || same = t.length then
          let short := if s.length < t.length then a else b
          if same = 0 then
            complainAs "cmp" ("EOF on ".toList ++ short ++ " which is empty".toList) 1
          else
            complainAs "cmp" ("EOF on ".toList ++ short ++ " after byte ".toList ++
              Number.digits same ++ ", line ".toList ++
              Number.digits ((s.take same).count '\n' + if (s.take same).getLast? = some '\n' then 0
                else 1)) 1
        else
          Step.printLine (a ++ ' ' :: b ++ " differ: byte ".toList ++ Number.digits (same + 1) ++
            ", line ".toList ++ Number.digits ((s.take same).count '\n' + 1))
          return 1
    | _ => complainAs "cmp" "missing operand\ncmp: Try 'cmp --help' for more information." 2

end Curriculum.Script
