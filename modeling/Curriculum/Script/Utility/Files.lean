import Curriculum.Script.Utility.Options

/-! # Utilities for files -/

namespace Curriculum.Script

def quote (path : Text) : Text := '\'' :: path ++ ['\'']

/-- The complaint of a utility about what it cannot do with a path. -/
def complainOf (name action path : Text) (f : Fault) : Step Nat :=
  complainAs name (action ++ ' ' :: quote path ++ ": ".toList ++
    World.wording f) 1

def missingOperand (name what : Text) : Step Nat :=
  complainOfCall name ("missing ".toList ++ what ++ "operand".toList) 1

def baseName (path : Text) : Text :=
  match path.reverse.dropWhile (· = '/') with
  | [] => if path.isEmpty then [] else ['/']
  | reversed => (reversed.takeWhile (· ≠ '/')).reverse

def dirName (path : Text) : Text :=
  let named := (path.reverse.dropWhile (· = '/')).dropWhile (· ≠ '/')
  match named.dropWhile (· = '/') with
  | [] => if named.isEmpty && path.head? ≠ some '/' then ['.'] else ['/']
  | above => above.reverse

/-- The text without a suffix, unless that is all of it. -/
def dropSuffix (ending t : Text) : Text :=
  if ending.isSuffixOf t && ending ≠ t then t.take (t.length - ending.length) else t

def basename (arguments : List Text) : Step Nat :=
  withOptions "basename" "az" "s" 1 arguments fun o => do
    let suffix := o.value? 's' "suffix"
    match o.operands with
    | [] => missingOperand "basename" []
    | [path, ending] =>
      if suffix.isNone && !o.has 'a' "multiple" then
        Step.printLine (dropSuffix ending (baseName path))
      else
        Step.printLine (dropSuffix (suffix.getD []) (baseName path))
        Step.printLine (dropSuffix (suffix.getD []) (baseName ending))
      return 0
    | paths =>
      for path in paths do
        Step.printLine (dropSuffix (suffix.getD []) (baseName path))
      return 0

def dirname (arguments : List Text) : Step Nat :=
  withOptions "dirname" "z" [] 1 arguments fun o => do
    if o.operands.isEmpty then return ← missingOperand "dirname" []
    for path in o.operands do
      Step.printLine (dirName path)
    return 0

def pathOf (place : Place) : Text := Latin1.ofPath (Path.fromRoot place)

/-! ## Copying and moving -/

/-- The path that something is put at: inside of the target when that is a directory. -/
def destination (source target : Text) : Step Text := do
  let w ← Step.world
  let s ← get
  if w.entryAt s.here target = some .directory then
    return if target.getLast? = some '/' then target ++ baseName source
      else target ++ '/' :: baseName source
  else return target

def copyTree (source target : Text) : Step Nat := do
  let w ← Step.world
  let s ← get
  match w.locate s.here source, w.locate s.here target with
  | .ok old, .ok new =>
    let tree := if (w.tree.get? new).isNone then w.tree.put new .directory else w.tree
    let tree := (w.tree.listing old).foldl (fun t (path, e) =>
      t.put (new ++ Path.steps path) e) tree
    Step.setWorld (w.withTree tree)
    if old.isPrefixOf new then
      complainAs "cp" ("cannot copy a directory, ".toList ++ quote source ++
        ", into itself, ".toList ++ quote target) 1
    else return 0
  | _, .error f | .error f, _ => complainOf "cp" "cannot create directory" target f

/-- Why a file cannot be made at a path: a slash at the end asks for a directory. -/
def targetFault (target : Text) (f : Fault) : Fault :=
  if f = .missing && target.getLast? = some '/' && target.count '/' = 1 then .notDirectory else f

def copyOne (deep force : Bool) (source target : Text) : Step Nat := do
  let w ← Step.world
  let s ← get
  match w.entryAt s.here source with
  | some .directory =>
    if deep then copyTree source target
    else complainAs "cp" ("-r not specified; omitting directory ".toList ++ quote source) 1
  | some (.file _ runnable) =>
    if (w.locate s.here source).toOption.isSome &&
        (w.locate s.here source).toOption = (w.locate s.here target).toOption then
      complainAs "cp" (quote source ++ " and ".toList ++ quote target ++
        " are the same file".toList) 1
    else match ← readPath source with
      | .error f => complainOf "cp" "cannot open" source f
      | .ok content =>
        let isNew := !World.isDevice target && (w.entryAt s.here target).isNone
        let blocked := w.entryAt s.here target = some .sealedFile
        if blocked && force then
          Step.changeWorld fun w =>
            match w.locate s.here target with
            | .ok place => w.remove place
            | .error _ => w
        match ← writePath target content with
        | some f => complainOf "cp" "cannot create regular file" target (targetFault target f)
        | none =>
          if isNew && runnable then
            Step.changeWorld fun w =>
              match w.locate s.here target with
              | .ok place =>
                w.withTree (w.tree.put place (.file (Latin1.encode content) true))
              | .error _ => w
          return 0
  | some .sealedFile => complainOf "cp" "cannot open" source .denied
  | none =>
    if World.isDevice source then
      match ← writePath target [] with
      | some f => complainOf "cp" "cannot create regular file" target f
      | none => return 0
    else match w.locate s.here source with
      | .error f => complainOf "cp" "cannot stat" source f
      | .ok _ => complainOf "cp" "cannot stat" source .missing

/-- Takes a step for each source with the path that it goes to. -/
def toTarget (name : Text) (o : Options) (step : Text → Text → Step Nat) : Step Nat := do
  let (sources, target?) := match o.value? 't' "target-directory" with
    | some dir => (o.operands, some dir)
    | none => (o.operands.dropLast, o.operands.getLast?)
  match target?, sources with
  | none, _ => missingOperand name "file "
  | some target, [] =>
    complainOfCall name ("missing destination file operand after ".toList ++ quote target) 1
  | some target, sources =>
    let w ← Step.world
    let isDirectory := w.entryAt (← get).here target = some .directory
    if 1 < sources.length && !isDirectory then
      complainAs name ("target ".toList ++ quote target ++ ": ".toList ++
        World.wording (if (w.entryAt (← get).here target).isSome then .notDirectory
          else .missing)) 1
    else eachOf (fun source => do
      if o.has 'T' "no-target-directory" then step source target
      else step source (← destination source target)) sources

def copy (arguments : List Text) : Step Nat :=
  withOptions "cp" "abdfilnpPrRsTuvxH" "tS" 1 arguments fun o =>
    let deep := o.has 'r' "recursive" || o.has 'R' [] || o.has 'a' "archive"
    toTarget "cp" o fun source target => do
      let isThere := ((← Step.world).entryAt (← get).here target).isSome
      if isThere && o.has 'n' "no-clobber" then return 0
      let status ← copyOne deep (o.has 'f' "force") source target
      if status = 0 && o.has 'v' "verbose" then
        Step.printLine (quote source ++ " -> ".toList ++ quote target)
      return status

def moveOne (source target : Text) : Step Nat := do
  let w ← Step.world
  let s ← get
  match w.locate s.here source, w.locate s.here target with
  | .error f, _ => complainOf "mv" "cannot stat" source f
  | _, .error f => complainAs "mv" ("cannot move ".toList ++ quote source ++ " to ".toList ++
      quote target ++ ": ".toList ++ World.wording (targetFault target f)) 1
  | .ok old, .ok new =>
    match w.tree.get? old, w.tree.get? new with
    | none, _ => complainOf "mv" "cannot stat" source .missing
    | some .directory, some (.file ..) | some .directory, some .sealedFile =>
      complainAs "mv" ("cannot overwrite non-directory ".toList ++ quote target ++
        " with directory ".toList ++ quote source) 1
    | some entry, _ =>
      if old = new then
        complainAs "mv" (quote source ++ " and ".toList ++ quote target ++
          " are the same file".toList) 1
      else if entry = .directory && old.isPrefixOf new then
        complainAs "mv" ("cannot move ".toList ++ quote source ++
          " to a subdirectory of itself, ".toList ++ quote target) 1
      else
        Step.setWorld (w.move old new)
        return 0

def move (arguments : List Text) : Step Nat :=
  withOptions "mv" "bfinTuv" "tS" 1 arguments fun o =>
    toTarget "mv" o fun source target => do
      let isThere := ((← Step.world).entryAt (← get).here target).isSome
      if isThere && o.has 'n' "no-clobber" then return 0
      moveOne source target

/-! ## Removing and making -/

def remove (arguments : List Text) : Step Nat :=
  withOptions "rm" "dfiIrRv" [] 1 arguments fun o => do
    let force := o.has 'f' "force"
    let deep := o.has 'r' "recursive" || o.has 'R' []
    if o.operands.isEmpty && !force then return ← missingOperand "rm" []
    eachOf (fun path => do
      let w ← Step.world
      let s ← get
      if deep && [['.'], "..".toList].contains (baseName path) then
        return ← complainAs "rm" ("refusing to remove '.' or '..' directory: skipping ".toList ++
          quote path) 1
      match w.locate s.here path with
      | .error f =>
        if force && (f = .missing || f = .notDirectory) then return 0
        else complainOf "rm" "cannot remove" path f
      | .ok place =>
        match w.tree.get? place with
        | none => if force then return 0 else complainOf "rm" "cannot remove" path .missing
        | some .directory =>
          if deep || (o.has 'd' "dir" && (w.tree.children place).isEmpty) then
            Step.setWorld (w.remove place)
            return 0
          else complainOf "rm" "cannot remove" path .isDirectory
        | some _ =>
          Step.setWorld (w.remove place)
          return 0) o.operands

/-- Makes a directory; one that is there already is a fault. -/
def makeOne (path : Text) : Step (Option Fault) := do
  let w ← Step.world
  let s ← get
  match w.tree.makeDirectory s.here (Latin1.toPath path) with
  | .ok tree =>
    Step.setWorld (w.withTree tree)
    return none
  | .error f => return some f

/-- The starts of a path that end before a slash, and the path itself. -/
def pathStarts (path : Text) : List Text :=
  ((List.range (path.length + 1)).filter fun n => 0 < n && path.getD n '/' = '/').map path.take

def makeDirectory (arguments : List Text) : Step Nat :=
  withOptions "mkdir" "pv" "m" 1 arguments fun o => do
    if o.operands.isEmpty then return ← missingOperand "mkdir" []
    eachOf (fun path => do
      if o.has 'p' "parents" then
        for start in pathStarts path do
          discard <| makeOne start
        match ((← Step.world).entryAt (← get).here path) with
        | some .directory => return 0
        | some _ => complainOf "mkdir" "cannot create directory" path .occupied
        | none => complainOf "mkdir" "cannot create directory" path .notDirectory
      else match ← makeOne path with
        | none => return 0
        | some f => complainOf "mkdir" "cannot create directory" path f) o.operands

def removeDirectory (arguments : List Text) : Step Nat :=
  withOptions "rmdir" "pv" [] 1 arguments fun o => do
    if o.operands.isEmpty then return ← missingOperand "rmdir" []
    eachOf (fun path => do
      let w ← Step.world
      let s ← get
      let complain (reason : Text) : Step Nat :=
        complainAs "rmdir" ("failed to remove ".toList ++ quote path ++ ": ".toList ++ reason) 1
      match w.locate s.here path with
      | .error f => complain (World.wording f)
      | .ok place =>
        match w.tree.get? place with
        | none => complain (World.wording .missing)
        | some .directory =>
          if (w.tree.children place).isEmpty then
            Step.setWorld (w.remove place)
            return 0
          else complain "Directory not empty"
        | some _ => complain (World.wording .notDirectory)) o.operands

def touch (arguments : List Text) : Step Nat :=
  withOptions "touch" "achm" "drt" 1 arguments fun o => do
    if o.operands.isEmpty then return ← missingOperand "touch" "file "
    eachOf (fun path => do
      let w ← Step.world
      if o.has 'c' "no-create" || ((← get) |> fun s => w.entryAt s.here path).isSome ||
        World.isDevice path then return 0
      match ← writePath path [] with
      | none => return 0
      | some f => complainOf "touch" "cannot touch" path f) o.operands

/-- A link to the memory of a process is a file that cannot be read; all other links are to files
and stand for their content. -/
def link (arguments : List Text) : Step Nat :=
  withOptions "ln" "bfinrsTv" "tS" 1 arguments fun o => do
    let (source?, target?) := match o.operands with
      | [source] => (some source, some (baseName source))
      | [source, target] => (some source, some target)
      | _ => (none, none)
    match source?, target? with
    | some source, some target =>
      let target ← destination source target
      let s ← get
      let w ← Step.world
      if (w.entryAt s.here target).isSome && !o.has 'f' "force" then
        let kind : Text := if o.has 's' "symbolic" then "symbolic " else "hard "
        return ← complainOf "ln" ("failed to create ".toList ++ kind ++ "link".toList) target .occupied
      if "/proc/".toList.isPrefixOf source then
        match w.locate s.here target with
        | .ok place =>
          Step.setWorld (w.withTree (w.tree.put place .sealedFile))
          return 0
        | .error f => complainOf "ln" "failed to create symbolic link" target f
      else
        let seen := if o.has 's' "symbolic" && !Path.isAbsolute source && dirName target ≠ ['.'] then
          dirName target ++ '/' :: source else source
        match w.entryAt s.here seen with
        | some _ => copyOne true true seen target
        | none =>
          if o.has 's' "symbolic" then return 0
          else complainOf "ln" "failed to access" source .missing
    | _, _ => missingOperand "ln" "file "

/-- Cuts files to a size, or fills them up with zeros. -/
def truncate (arguments : List Text) : Step Nat :=
  withOptions "truncate" "co" "rs" 1 arguments fun o => do
    let size := o.value? 's' "size"
    match size.bind count? with
    | none => match size with
      | none => complainOfCall "truncate" "you must specify either '--size' or '--reference'" 1
      | some t => complainAs "truncate" ("Invalid number: ".toList ++ quote t) 1
    | some c =>
      eachOf (fun path => do
        let content := ((← readPath path).toOption).getD []
        let length := match c.sign with
          | some '+' => content.length + c.number
          | some _ => content.length - c.number
          | none => c.number
        let zeros := List.replicate (length - content.length) '\x00'
        match ← writePath path (content.take length ++ zeros) with
        | some f => complainOf "truncate" "cannot open" path f
        | none => return 0) o.operands

/-! ## Looking -/

/-- The paths at and below a path, directories first. -/
def pathsBelow (w : World) (here : Place) (path : Text) : List (Text × Entry) :=
  match w.entryAt here path, w.locate here path with
  | some .directory, .ok place =>
    (path, .directory) :: (w.tree.listing place).map fun (t, e) =>
      ((if path.getLast? = some '/' then path else path ++ ['/']) ++ Latin1.ofPath t, e)
  | some e, _ => [(path, e)]
  | none, _ => []

def list (arguments : List Text) : Step Nat :=
  withOptions "ls" "aAbBcCdfFgGhHiklLmnNopqQrRsStuUvxXZ1" "ITw" 2 arguments fun o => do
    let s ← get
    let w ← Step.world
    let shown (name : Text) : Bool :=
      o.has 'a' "all" || o.has 'A' "almost-all" || name.head? ≠ some '.'
    let order (names : List Text) : List Text :=
      let sorted := names.mergeSort fun a b => !Text.before b a
      if o.has 'r' "reverse" then sorted.reverse else sorted
    let mark (e : Entry) : Text := match e with
      | .directory => if o.has 'p' [] || o.has 'F' "classify" then ['/'] else []
      | .file _ true => if o.has 'F' "classify" then ['*'] else []
      | _ => []
    let names (path : Text) : List Text :=
      match w.tree.list s.here (Latin1.toPath path) with
      | .error _ => []
      | .ok entries =>
        let entries := (entries.map fun (name, e) => (Latin1.ofPath name, e)).filter (shown ·.1)
        let dots : List Text := if o.has 'a' "all" then [['.'], "..".toList] else []
        order (dots ++ entries.map fun (name, e) => name ++ mark e)
    let paths := if o.operands.isEmpty then [['.']] else o.operands
    let asFile := o.has 'd' "directory"
    let isDirectory (path : Text) : Bool :=
      w.entryAt s.here path = some .directory && !asFile
    let status ← eachOf (fun path => do
      if World.isDevice path || (w.entryAt s.here path).isSome then return 0
      else
        let fault := match w.locate s.here path with
          | .error f => f
          | .ok _ => .missing
        let _ ← complainOf "ls" "cannot access" path fault
        return 2) paths
    let files := order (paths.filter fun path =>
      (World.isDevice path || (w.entryAt s.here path).isSome) && !isDirectory path)
    for path in files do
      Step.printLine path
    let dirs := order (paths.filter isDirectory)
    let deep := o.has 'R' "recursive"
    let dirs := if !deep then dirs else dirs.flatMap fun dir =>
      ((pathsBelow w s.here dir).filter fun e => e.2 = .directory).map (·.1)
    for (path, i) in dirs.zipIdx do
      if 1 < paths.length || deep then
        if !files.isEmpty || i ≠ 0 then Step.printLine []
        Step.printLine (path ++ [':'])
      for name in names path do
        Step.printLine name
    return status

/-- The mode that a file gets makes it runnable, or leaves it as it is when it says nothing of
that. -/
def runnableBy? (mode : Text) : Option Bool :=
  if mode.all isOctal then
    some (mode.reverse.take 3 |>.any fun c => (c.toNat - '0'.toNat) % 2 = 1)
  else if mode.contains 'x' then some (mode.contains '+' || mode.contains '=')
  else if mode.contains '=' then some false
  else none
where
  isOctal (c : Char) : Bool := '0' ≤ c && c ≤ '7'

def changeMode (arguments : List Text) : Step Nat := do
  match arguments.filter fun a => !(List.map String.toList ["-R", "-v", "-f", "--"]).contains a with
  | [] => missingOperand "chmod" []
  | [mode] => complainOfCall "chmod" ("missing operand after ".toList ++ quote mode) 1
  | mode :: paths =>
    eachOf (fun path => do
      let w ← Step.world
      match w.locate (← get).here path with
      | .error f => complainOf "chmod" "cannot access" path f
      | .ok place =>
        match w.tree.get? place with
        | none => complainOf "chmod" "cannot access" path .missing
        | some (.file content runnable) =>
          let entry := .file content ((runnableBy? mode).getD runnable)
          Step.setWorld (w.withTree (w.tree.put place entry))
          return 0
        | some _ => return 0) paths

/-- Prints what a format says of files. -/
def describe (arguments : List Text) : Step Nat :=
  withOptions "stat" "Lft" "c" 1 arguments fun o => do
    let format := ((o.value? 'c' "format").map (· ++ ['\n']) <|> o.value? '\x00' "printf").getD "%n\n"
    eachOf (fun path => do
      match (← Step.world).entryAt (← get).here path with
      | none => complainOf "stat" "cannot statx" path .missing
      | some entry =>
        Step.print (filled path entry format)
        return 0) o.operands
where
  filled (path : Text) (entry : Entry) : Text → Text
    | '%' :: c :: rest =>
      let size := match entry with
        | .file content _ => content.length
        | .sealedFile => 0
        | .directory => 4096
      let kind : Text := match entry with
        | .directory => "directory"
        | .file [] _ => "regular empty file"
        | _ => "regular file"
      let mode : Text := match entry with
        | .file _ false => "644"
        | _ => "755"
      let t := match c with
        | 's' => Number.digits size
        | 'n' => path
        | 'F' => kind
        | 'a' => mode
        | '%' => ['%']
        | _ => ['?']
      t ++ filled path entry rest
    | c :: rest => c :: filled path entry rest
    | [] => []

/-- The path of a place that is there, without `.` and `..`. -/
def realPath (name : Text) (silent : Bool) (arguments : List Text) : Step Nat :=
  withOptions name "efmqsnz" [] 1 arguments fun o =>
    eachOf (fun path => do
      let w ← Step.world
      let s ← get
      match w.locate s.here path with
      | .ok place =>
        if silent && (w.tree.get? place).isNone then return 1
        Step.printLine (pathOf place)
        return 0
      | .error f => if silent then return 1 else complainAbout name path f 1) o.operands

/-- Makes a file or a directory with a fresh name. -/
def makeTemporary (arguments : List Text) : Step Nat :=
  withOptions "mktemp" "dqtu" "p" 1 arguments fun o => do
    let s ← get
    let w ← Step.world
    let template := o.operands.headD "tmp.XXXXXXXXXX"
    let dir := (o.value? 'p' "tmpdir").getD ((s.bound? "TMPDIR").getD "/tmp")
    let inDir := o.operands.isEmpty || o.has 't' [] || (o.value? 'p' "tmpdir").isSome
    let stem := (template.reverse.dropWhile (· = 'X')).reverse
    let count := template.length - stem.length
    let number := Number.digits w.fresh
    let name := stem ++ List.replicate (count - number.length) 'A' ++ number
    let path := if inDir then dir ++ '/' :: name else name
    Step.setWorld { w with fresh := w.fresh + 1 }
    let fault ← if o.has 'd' "directory" then makeOne path else writePath path []
    match fault with
    | none =>
      Step.printLine path
      return 0
    | some f => complainAs "mktemp" ("failed to create file via template ".toList ++
        quote template ++ ": ".toList ++ World.wording f) 1

end Curriculum.Script
