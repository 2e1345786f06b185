import BuildRunner.Sandbox.Utility.Making

/-! Copies of files and of whole directories, and moves to another place. -/
namespace BuildRunner.Sandbox.Utility
open Act Text

namespace Copy

inductive Following where
  | never
  | operands
  | always
deriving DecidableEq

inductive Purpose where
  | copy
  | move
  | install
deriving DecidableEq

structure Manner where
  purpose : Purpose
  isDeep : Bool := false
  following : Following := .never
  asks : Bool := false
  keepsOld : Bool := false
  updates : Bool := false
  verbose : Bool := false
  backs : Bool := false
  numbers : Bool := false
  ending : String := "~"
  linksHard : Bool := false
  linksSoft : Bool := false
  keepsMode : Bool := false
  keepsTime : Bool := false
  dropsOld : Bool := false
  isForced : Bool := false
  onlyAttributes : Bool := false
  mode : Option Nat := none

/-- The operands between which a copy runs, for messages, and the directory it made first. -/
structure Route where
  source : String
  target : String
  made : Option NodeId

def pair (source target backup : String) : String :=
  Quotation.named source ++ " -> " ++ Quotation.named target ++
    (if backup.isEmpty then "" else " (backup: " ++ Quotation.named backup ++ ")")

def wrong (message : String) : Act Unit := do
  complain message
  atLeast 1

def backupName (how : Manner) (target : String) : Act String := do
  if !how.numbers then return target ++ how.ending
  let name (n : Nat) : String := target ++ ".~" ++ toString n ++ "~"
  let m ← machine
  let here := (← process).workdir
  let isFree (n : Nat) : Bool := (m.files.find here (name n) false).toOption.isNone
  return name (((List.range 1000).find? fun n => n > 0 && isFree n).getD 1000)

def write (how : Manner) (node : Node) (target : String) : Act Bool := do
  let refuse (fault : Fault) : Act Bool := do
    wrong ("cannot create regular file " ++ Quotation.named target ++ ": " ++ fault.reason)
    return false
  let mode ← masked (node.mode &&& 0o777)
  match ← findNode target true with
  | .ok id =>
    let old ← nodeOf id
    match old.content, node.content with
    | .file _, .file data =>
      if !how.onlyAttributes then
        setMachine ((← machine).modifyNode id fun n => { n with content := .file data })
      return true
    | .file _, content =>
      setMachine ((← machine).modifyNode id fun n => { n with content })
      return true
    | _, .file data =>
      match ← openPath target .writing with
      | .error fault => refuse fault
      | .ok number =>
        match (← machine).write number data with
        | .ok m => setMachine m; return true
        | .error fault =>
          wrong ("error writing " ++ Quotation.named target ++ ": " ++ fault.reason)
          return false
    | _, _ => return true
  | .error _ =>
    if (← node? target false).any (·.isLink) then
      wrong ("not writing through dangling symlink " ++ Quotation.named target)
      return false
    let content := match node.content with
      | .file data => Content.file (if how.onlyAttributes then .empty else data)
      | content => content
    match ← change fun m here => do
        let (found, slashes) ← m.entryAt here target
        if slashes then throw .notDirectory
        if target.isEmpty then throw .notFound
        return (m.createNode found.parent found.name content mode).2 with
    | none => return true
    | some fault => refuse fault

/-- Gives a copy the mode and the time it should have. -/
def finish (how : Manner) (node : Node) (target : String) : Act Unit := do
  if let .ok id ← findNode target (!node.isLink) then
    match how.mode with
    | some mode => if !node.isDirectory then setMachine ((← machine).setMode id mode)
    | none => if how.keepsMode && !node.isLink then setMachine ((← machine).setMode id node.mode)
    if how.keepsTime then setMachine ((← machine).setTime id node.changed)

/-- Whether the target is the very thing that is to be copied, or what it leads to as a link. -/
def isSame (how : Manner) (follows : Bool) (id : NodeId) (source target : String) : Act Bool := do
  let direct := (← findNode target false).toOption
  let asNames := how.purpose == .move || how.linksHard || how.linksSoft || how.dropsOld
  if asNames then
    if direct == some id then return true
  else if (← findNode target true).toOption == some id then return true
  if (← nodeOf id).isLink && !follows then
    let behind := (← findNode source true).toOption
    return behind.isSome && behind == direct
  return false

/-- What stands at the target, as the copy has to see it. -/
def oldNode (how : Manner) (node : Node) (target : String) : Act (Except Fault NodeId) := do
  let asLink := how.purpose == .move || how.linksHard || how.linksSoft || how.backs || how.dropsOld ||
    (node.isLink && how.purpose == .copy)
  findNode target (!asLink || target.endsWith "/")

def transfer (how : Manner) : Nat → Option Route → String → String → Act Bool
  | 0, _, source, _ => do
    wrong ("cannot stat " ++ Quotation.named source ++ ": " ++ Fault.reason .tooManyLinks)
    return false
  | fuel + 1, route?, source, target => do
    let isTop := route?.isNone
    let follows := how.following == .always || (how.following == .operands && isTop)
    let id ← match ← findNode source (follows || source.endsWith "/") with
      | .ok id => pure id
      | .error fault =>
        wrong ("cannot stat " ++ Quotation.named source ++ ": " ++ fault.reason)
        return false
    let node ← nodeOf id
    if node.isDirectory && !how.isDeep && how.purpose != .move then
      wrong ((if how.purpose == .copy then "-r not specified; " else "") ++ "omitting directory " ++
        Quotation.named source)
      return false
    if let some route := route? then
      if route.made == some id then
        wrong ("cannot copy a directory, " ++ Quotation.named route.source ++ ", into itself, " ++
          Quotation.named route.target)
        return false
    let old ← match ← oldNode how node target with
      | .ok old => some <$> nodeOf old
      | .error .notFound => pure none
      | .error fault =>
        if node.isDirectory && how.purpose == .move && fault == .notFound then pure none
        else
          wrong ("cannot stat " ++ Quotation.named target ++ ": " ++ fault.reason)
          return false
    let mut backup := ""
    let mut isNew := old.isNone
    if let some oldNode := old then
      if !(how.purpose == .move && node.isDirectory) then
        if ← isSame how follows id source target then
          if how.linksHard then return true
          wrong (Quotation.named source ++ " and " ++ Quotation.named target ++ " are the same file")
          return false
      if !node.isDirectory || how.purpose == .move then
        if how.keepsOld then return true
        if how.updates && !node.isDirectory && oldNode.changed ≥ node.changed then return true
      if !node.isDirectory && oldNode.isDirectory then
        wrong ("cannot overwrite directory " ++ Quotation.named target ++ " with non-directory")
        return false
      if !node.isDirectory && how.asks then
        if !(← ask ("overwrite " ++ Quotation.named target)) then
          atLeast 1
          return false
      if node.isDirectory && !oldNode.isDirectory then
        wrong ("cannot overwrite non-directory " ++ Quotation.named target ++ " with directory " ++
          Quotation.named source)
        return false
      if how.backs && !(node.isDirectory && how.purpose == .copy) then
        backup ← backupName how target
        let kept := backup
        discard <| change fun m here => m.moveEntry here target kept
        isNew := true
      else if !oldNode.isDirectory && how.purpose != .move &&
          (how.dropsOld || (node.isLink && !follows) ||
            ((how.linksHard || how.linksSoft) && how.isForced)) then
        if how.purpose == .install && how.verbose then printLine ("removed " ++ Quotation.named target)
        discard <| change fun m here => m.removeFile here target
        isNew := true
    if how.purpose == .move then
      match ← change fun m here => m.moveEntry here source target with
      | none =>
        if how.verbose then printLine ("renamed " ++ pair source target backup)
        return true
      | some .invalidArgument =>
        wrong ("cannot move " ++ Quotation.named source ++ " to a subdirectory of itself, " ++ Quotation.named target)
        return false
      | some .notEmpty =>
        wrong ("cannot overwrite " ++ Quotation.named target ++ ": " ++ Fault.reason .notEmpty)
        return false
      | some fault =>
        wrong ("cannot move " ++ Quotation.named source ++ " to " ++ Quotation.named target ++ ": " ++ fault.reason)
        return false
    if how.verbose && !node.isDirectory then printLine (pair source target backup)
    match node.content with
    | .directory .. =>
      let mut route := route?.getD ⟨source, target, none⟩
      if isNew then
        let mode ← masked (node.mode &&& 0o777)
        if !(← attempt ("cannot create directory " ++ Quotation.named target)
            fun m here => m.makeDirectory here target mode) then return false
        if how.verbose then printLine (pair source target "")
      if isTop then
        if let .ok made ← findNode target true then
          if isNew || made == id then route := { route with made := some made }
      if isTop && route.made == some id then
        wrong ("cannot copy a directory, " ++ Quotation.named source ++ ", into itself, " ++ Quotation.named target)
        return false
      for (name, _) in (← machine).files.sortedEntries id do
        discard <| transfer how fuel (some route) (joined source name) (joined target name)
      finish how node target
      return true
    | content =>
      if how.linksSoft then
        if !source.startsWith "/" && directoryOf target != "." then
          wrong (Quotation.shown target ++ ": can make relative symbolic links only in current directory")
          return false
        attempt ("cannot create symbolic link " ++ Quotation.named target ++ " to " ++ Quotation.named source)
          fun m here => m.makeSpecial here target (.link source) 0o777
      else if how.linksHard then
        attempt ("cannot create hard link " ++ Quotation.named target ++ " to " ++ Quotation.named source)
          fun m here => m.linkFile here follows source target
      else
        match content with
        | .link text =>
          if ← attempt ("cannot create symbolic link " ++ Quotation.named target)
              fun m here => m.makeSpecial here target (.link text) 0o777 then
            finish how node target
            return true
          else return false
        | .fifo =>
          if how.isDeep then
            attempt ("cannot create fifo " ++ Quotation.named target)
              fun m here => m.makeSpecial here target .fifo node.mode
          else return true
        | .device .null | .device .full =>
          if ← write how { node with content := .file .empty, mode := 0o666 } target then
            finish how node target
            return true
          else return false
        | _ =>
          if ← write how node target then
            finish how node target
            return true
          else return false

/-- Copies to several targets, none of which may be made twice. -/
def transferAll (how : Manner) : List (String × String) → List (String × String) → Act Unit
  | _, [] => return
  | done, (source, target) :: rest => do
    if how.purpose != .move && done.contains (source, target) then
      complain ("warning: source file " ++ Quotation.named source ++ " specified more than once")
      transferAll how done rest
    else if done.any (·.2 == target) && !how.backs && (← node? source false).any (!·.isDirectory) then
      wrong ("will not overwrite just-created " ++ Quotation.named target ++ " with " ++ Quotation.named source)
      transferAll how done rest
    else
      let isDone ← transfer how 1000 none source target
      transferAll how (if isDone then (source, target) :: done else done) rest

/-- The directories that lead to a target, each as it is made after the one it stands for. -/
def makeWay (how : Manner) (directory source : String) : Act Bool := do
  for part in MakeDirectory.ancestors source do
    let path := joined directory part
    if !(← isDirectory path) then
      let mode := (← node? part true).elim 0o755 (·.mode)
      let mode ← masked (mode &&& 0o777)
      if !(← attempt ("cannot make directory " ++ Quotation.named path)
          fun m here => m.makeDirectory here path mode) then return false
      if how.verbose then printLine (part ++ " -> " ++ path)
  return true

/-- Where the copies go, from the switches and the operands. -/
def dispatch (how : Manner) (a : Arguments) (parents : Bool) : Act Unit := do
  let into (directory : String) (sources : List String) : Act Unit := do
    if parents then
      for source in sources do
        if ← makeWay how directory (withoutSlashes source).1 then
          discard <| transfer how 1000 none source (joined directory (withoutSlashes source).1)
    else transferAll how [] (sources.map fun source => (source, joined directory (lastName source)))
  let faultOf (path : String) : Act Fault := do
    match ← findNode path true with
    | .ok _ => return .notDirectory
    | .error fault => return fault
  match a.get? "t", a.operands with
  | _, [] => misused 1 "missing file operand"
  | some directory, sources =>
    if a.has "T" then fail 1 "cannot combine --target-directory (-t) and --no-target-directory (-T)"
    if !(← isDirectory directory) then
      fail 1 ("target directory " ++ Quotation.named directory ++ ": " ++ (← faultOf directory).reason)
    into directory sources
  | none, [one] => misused 1 ("missing destination file operand after " ++ Quotation.named one)
  | none, operands =>
    let target := operands.getLastD ""
    if a.has "T" then
      if let extra :: _ := operands.drop 2 then misused 1 ("extra operand " ++ Quotation.named extra)
      transferAll how [] [(operands.headD "", target)]
    else if ← isDirectory target then into target operands.dropLast
    else if operands.length > 2 then
      fail 1 ("target " ++ Quotation.named target ++ ": " ++ (← faultOf target).reason)
    else if parents then misused 1 "with --parents, the destination must be a directory"
    else transferAll how [] [(operands.headD "", target)]

def backupKinds : List (List String) :=
  [["none", "off"], ["simple", "never"], ["existing", "nil"], ["numbered", "t"]]

/-- What the switches about backups ask for: whether there are any, and whether they are numbered. -/
def backups (a : Arguments) : Act (Bool × Bool) := do
  match a.get? "backup" with
  | none => return (a.has "b" || a.has "S", false)
  | some "" => return (true, false)
  | some given =>
    match ← choose 1 "backup type" backupKinds given with
    | "none" => return (false, false)
    | "numbered" => return (true, true)
    | _ => return (true, false)

def commonSwitches : List Switch :=
  [.letter 'b' "" .plain, .word "backup" .optional, .flag 'f' "force", .flag 'i' "interactive",
   .flag 'n' "no-clobber", .value 'S' "suffix", .value 't' "target-directory", .flag 'T' "no-target-directory",
   .letter 'u' "" .plain, .word "update" .optional, .flag 'v' "verbose", .flag 'Z' "",
   .word "strip-trailing-slashes" .plain]

/-- Operands without slashes at their ends, if this is asked for. -/
def stripped (a : Arguments) : Arguments :=
  if a.has "strip-trailing-slashes" then { a with operands := a.operands.map fun p => (withoutSlashes p).1 } else a

/-- What to do about old files: whether to keep them all, and whether to keep those that are not older. -/
def updating (a : Arguments) : Act (Bool × Bool) := do
  let kind ← match a.get? "update" with
    | none => pure (if a.has "u" then "older" else "all")
    | some "" => pure "older"
    | some given => choose 1 "--update" [["all"], ["none"], ["older"]] given
  let last := a.lastOf ["n", "i", "f"]
  return (kind == "none" || last == some "n", kind == "older")

def common (a : Arguments) (purpose : Purpose) : Act Manner := do
  let (backs, numbers) ← backups a
  let (keepsOld, updates) ← updating a
  return { purpose, asks := a.lastOf ["n", "i", "f"] == some "i", keepsOld, updates, verbose := a.has "v"
           backs, numbers, ending := (a.get? "S").getD "~", isForced := a.has "f" }

def copySwitches : List Switch :=
  commonSwitches ++
    [.flag 'a' "archive", .word "attributes-only" .plain, .word "copy-contents" .plain, .flag 'd' "",
     .flag 'H' "", .flag 'l' "link", .flag 'L' "dereference", .flag 'P' "no-dereference", .flag 'p' "",
     .word "preserve" .optional, .word "no-preserve" .required, .word "parents" .plain,
     ⟨"r", ['r', 'R'], ["recursive"], .plain⟩, .word "reflink" .optional, .word "remove-destination" .plain,
     .word "sparse" .required, .flag 's' "symbolic-link", .flag 'x' "one-file-system", .word "context" .optional]

def run : Act Unit := do
  let a := stripped (← readArguments 1 copySwitches)
  let how ← common a .copy
  let kept ← match a.get? "preserve" with
    | none => pure []
    | some "" => pure ["mode", "timestamps"]
    | some given =>
      (given.splitOn ",").mapM
        (choose 1 "--preserve" (["mode", "timestamps", "ownership", "links", "context", "xattr", "all"].map ([·])))
  let isDeep := a.has "r" || a.has "a"
  let keeps (what : String) : Bool := a.has "a" || a.has "p" || kept.contains what || kept.contains "all"
  let following : Following :=
    match a.lastOf ["L", "P", "H", "d", "a"] with
    | some "L" => .always
    | some "H" => .operands
    | some _ => .never
    | none => if isDeep && !a.has "l" then .never else .always
  let following := if a.has "l" && (a.lastOf ["L", "H"]).isNone then .never else following
  dispatch
    { how with
      isDeep, following, linksHard := a.has "l", linksSoft := a.has "s", keepsMode := keeps "mode"
      keepsTime := keeps "timestamps", dropsOld := a.has "remove-destination"
      onlyAttributes := a.has "attributes-only" }
    a (a.has "parents")

end Copy

def moveFiles : Act Unit := do
  let a := Copy.stripped (← readArguments 1 (Copy.commonSwitches ++ [.word "context" .plain]))
  Copy.dispatch { ← Copy.common a .move with isDeep := true } a false

namespace Install

def switches : List Switch :=
  [.letter 'b' "" .plain, .word "backup" .optional, .flag 'c' "", .flag 'C' "compare", .flag 'd' "directory",
   .flag 'D' "", .value 'g' "group", .value 'm' "mode", .value 'o' "owner", .flag 'p' "preserve-timestamps",
   .flag 's' "strip", .word "strip-program" .required, .value 'S' "suffix", .value 't' "target-directory",
   .flag 'T' "no-target-directory", .flag 'v' "verbose", .flag 'Z' "", .word "preserve-context" .plain]

def makeWay (verbose : Bool) : List String → Act Bool
  | [] => return true
  | path :: rest => do
    if ← isDirectory path then makeWay verbose rest
    else
      let mode ← masked 0o777
      if ← attempt ("cannot create directory " ++ Quotation.named path)
          fun m here => m.makeDirectory here path (mode ||| 0o700) then
        report verbose ("creating directory " ++ Quotation.named path)
        makeWay verbose rest
      else return false

def run : Act Unit := do
  let a ← readArguments 1 switches
  let alter ← modeSwitch a
  let mode := (alter.map fun alter => alter 0 false 0).getD 0o755
  if a.has "d" then
    if a.operands.isEmpty then misused 1 "missing file operand"
    a.operands.forM fun path => do
      let short := (withoutSlashes path).1
      if ← makeWay (a.has "v") (MakeDirectory.ancestors path ++ [short]) then
        if let .ok id ← findNode path true then setMachine ((← machine).setMode id mode)
  else
    let (backs, numbers) ← Copy.backups a
    let how : Copy.Manner :=
      { purpose := .install, following := .always, verbose := a.has "v", backs, numbers
        ending := (a.get? "S").getD "~", dropsOld := true, mode := some mode, keepsTime := a.has "p" }
    if a.has "D" then
      match a.get? "t", a.operands with
      | some directory, _ =>
        discard <| makeWay (a.has "v") (MakeDirectory.ancestors directory ++ [(withoutSlashes directory).1])
      | none, [_, target] => discard <| makeWay (a.has "v") (MakeDirectory.ancestors target)
      | _, _ => pure ()
    Copy.dispatch how a false

end Install

namespace Truncate

/-- How the size of a file changes: a mark, and a number. -/
def sizeOf (mark : Char) (size n : Nat) : Nat :=
  match mark with
  | '+' => size + n
  | '-' => size - n
  | '<' => min size n
  | '>' => max size n
  | '/' => size / n * n
  | '%' => (size + n - 1) / n * n
  | _ => n

def isMark (c : Char) : Bool := "+-<>/%".toList.contains c

def run : Act Unit := do
  let a ← readArguments 1
    [.flag 'c' "no-create", .flag 'o' "io-blocks", .value 'r' "reference", .value 's' "size"]
  let size? ← match a.get? "s" with
    | none => pure none
    | some text =>
      let chars := text.toList.dropWhile Numeral.isSpace
      let mark := if chars.head?.any isMark then chars.headD ' ' else ' '
      let digits := if mark == ' ' then chars else chars.tail
      match scaled? (String.ofList digits) with
      | some n =>
        if n == 0 && (mark == '/' || mark == '%') then fail 1 "division by zero"
        pure (some (mark, n))
      | none => fail 1 ("Invalid number: " ++ Quotation.quoted text)
  if size?.isNone && !a.has "r" then misused 1 "you must specify either '--size' or '--reference'"
  if a.has "r" && size?.any (·.1 == ' ') then misused 1 "you must specify a relative '--size' with '--reference'"
  if a.has "o" && size?.isNone then misused 1 "'--io-blocks' was specified but '--size' was not"
  if a.operands.isEmpty then misused 1 "missing file operand"
  let base? ← match a.get? "r" with
    | none => pure none
    | some path =>
      match ← findNode path true with
      | .ok id => some <$> Node.size <$> nodeOf id
      | .error fault => fail 1 ("cannot stat " ++ Quotation.named path ++ ": " ++ fault.reason)
  a.operands.forM fun path => do
    let isMissing := (← node? path true).isNone
    if a.has "c" && isMissing then return
    match ← openPath path ⟨false, true, !a.has "c", false, false, false⟩ with
    | .error fault =>
      complain ("cannot open " ++ Quotation.named path ++ " for writing: " ++ fault.reason)
      atLeast 1
    | .ok _ =>
      if let .ok id ← findNode path true then
        let old := base?.getD (← nodeOf id).size
        let size := match size? with
          | none => old
          | some (mark, n) => sizeOf mark old (if a.has "o" then n * 4096 else n)
        setMachine ((← machine).modifyNode id fun n =>
          match n.content with
          | .file data =>
            let kept := data.extract 0 (min size data.size)
            { n with content := .file (kept ++ ⟨Array.replicate (min (size - kept.size) Machine.pipeRoom) 0⟩) }
          | _ => n)

end Truncate
end BuildRunner.Sandbox.Utility
