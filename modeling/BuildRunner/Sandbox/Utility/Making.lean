import BuildRunner.Sandbox.Calendar
import BuildRunner.Sandbox.FileMode
import BuildRunner.Sandbox.Tree
import BuildRunner.Sandbox.Utility.Reading

/-! Programs that make things in directories: directories and their removal, pipes with names, empty
files with times, and second names. -/
namespace BuildRunner.Sandbox.Utility
open Act Text

/-- The mode given with a switch, as it alters another one. -/
def modeSwitch (a : Arguments) : Act (Option (Nat → Bool → Nat → Nat)) := do
  match a.get? "m" with
  | none => return none
  | some text =>
    match FileMode.alteration? text with
    | some alter => return some alter
    | none => fail 1 ("invalid mode " ++ Quotation.quoted text)

def report (isWanted : Bool) (message : String) : Act Unit := do
  if isWanted then printLine ((← process).name ++ ": " ++ message)

namespace MakeDirectory

def ancestors (path : String) : List String :=
  let (short, _) := withoutSlashes path
  let names := short.splitOn "/"
  ((List.range names.length).drop 1).filterMap fun n =>
    let part := "/".intercalate (names.take n)
    if part.isEmpty || (names.getD (n - 1) "").isEmpty then none else some part

/-- Makes the directories on the way that are not there. -/
def makeAncestors (verbose : Bool) : List String → Act Bool
  | [] => return true
  | path :: rest => do
    match ← node? path true with
    | some node =>
      if node.isDirectory then makeAncestors verbose rest
      else
        complain ("cannot create directory " ++ Quotation.named path ++ ": " ++ Fault.reason .notDirectory)
        atLeast 1
        return false
    | none =>
      let mode ← masked 0o777
      if ← attempt ("cannot create directory " ++ Quotation.named path)
          fun m here => m.makeDirectory here path (mode ||| 0o300) then
        report verbose ("created directory " ++ Quotation.named path)
        makeAncestors verbose rest
      else return false

def run : Act Unit := do
  let a ← readArguments 1
    [.value 'm' "mode", .flag 'p' "parents", .flag 'v' "verbose", .flag 'Z' "", .word "context" .optional]
  if a.operands.isEmpty then misused 1 "missing operand"
  let alter ← modeSwitch a
  let mask := (← process).mask
  let mode ← match alter with
    | some alter => pure (alter mask true 0o777)
    | none => masked 0o777
  a.operands.forM fun path => do
    let ready ← if a.has "p" then makeAncestors (a.has "v") (ancestors path) else pure true
    if ready then
      let isThere ← if a.has "p" then isDirectory path else pure false
      if !isThere then
        if ← attempt ("cannot create directory " ++ Quotation.named path)
            fun m here => m.makeDirectory here path mode then
          report (a.has "v") ("created directory " ++ Quotation.named path)

end MakeDirectory

namespace RemoveDirectory

/-- A path and those that lead to it, from the longest to the shortest. -/
def upward (path : String) : List String :=
  let (short, _) := withoutSlashes path
  path :: ((MakeDirectory.ancestors short).reverse)

def removeAll (verbose lenient : Bool) (what : String) : List String → Act Unit
  | [] => return
  | path :: rest => do
    report verbose ("removing directory, " ++ Quotation.named path)
    match ← change fun m here => m.removeDirectory here path with
    | none => removeAll verbose lenient "directory " rest
    | some .notEmpty =>
      if !lenient then
        complain ("failed to remove " ++ what ++ Quotation.named path ++ ": " ++ Fault.reason .notEmpty)
        atLeast 1
    | some fault =>
      let isLink := (← node? (withoutSlashes path).1 false).any (·.isLink) && path.endsWith "/"
      let reason := if isLink && fault == .notDirectory then "Symbolic link not followed" else fault.reason
      complain ("failed to remove " ++ what ++ Quotation.named path ++ ": " ++ reason)
      atLeast 1

def run : Act Unit := do
  let a ← readArguments 1
    [.flag 'p' "parents", .flag 'v' "verbose", .word "ignore-fail-on-non-empty" .plain]
  if a.operands.isEmpty then misused 1 "missing operand"
  a.operands.forM fun path =>
    removeAll (a.has "v") (a.has "ignore-fail-on-non-empty") "" (if a.has "p" then upward path else [path])

end RemoveDirectory

def makePipe : Act Unit := do
  let a ← readArguments 1 [.value 'm' "mode", .flag 'Z' "", .word "context" .optional]
  if a.operands.isEmpty then misused 1 "missing operand"
  let alter ← modeSwitch a
  let mask := (← process).mask
  let mode ← match alter with
    | some alter => pure (alter mask false 0o666)
    | none => masked 0o666
  a.operands.forM fun path =>
    discard <| attempt ("cannot create fifo " ++ Quotation.named path)
      fun m here => m.makeSpecial here path .fifo mode

namespace Touch

def giga : Int := 1000000000

def moment (a : Arguments) : Act (Option Nat) := do
  let now := (← machine).now
  let stamped ← (a.get? "t").mapM fun stamp => do
    match Calendar.ofStamp? (now / giga.toNat) stamp with
    | some seconds => return (seconds * giga).toNat
    | none => fail 1 ("invalid date format " ++ Quotation.quoted stamp)
  if a.has "t" && (a.has "r" || a.has "d") then misused 1 "cannot specify times from more than one source"
  match stamped with
  | some moment => return some moment
  | none =>
    let start ← match a.get? "r" with
      | none => pure none
      | some path =>
        match ← findNode path true with
        | .ok id => some <$> (·.changed) <$> nodeOf id
        | .error fault => fail 1 ("failed to get attributes of " ++ Quotation.named path ++ ": " ++ fault.reason)
    match a.get? "d" with
    | none => return start
    | some text =>
      match Calendar.ofText? (start.getD now) text with
      | some n => return some n.toNat
      | none => fail 1 ("invalid date format " ++ Quotation.quoted text)

/-- Sets the time of a file, which is made if need be. -/
def touch (moment : Option Nat) (creates follow onlyAccess : Bool) (path : String) : Act Unit := do
  let set (id : NodeId) : Act Unit := do
    if !onlyAccess then setMachine ((← machine).tick.setTime id (moment.getD (← machine).tick.now))
  match ← findNode path follow with
  | .ok id => set id
  | .error fault =>
    if creates && follow then
      match ← openPath path ⟨false, true, true, false, false, false⟩ with
      | .ok _ =>
        if let .ok id ← findNode path true then set id
      | .error .isDirectory =>
        complain ("setting times of " ++ Quotation.named path ++ ": " ++ fault.reason)
        atLeast 1
      | .error fault =>
        complain ("cannot touch " ++ Quotation.named path ++ ": " ++ fault.reason)
        atLeast 1
    else if fault != .notFound || (creates && !follow) then
      complain ("setting times of " ++ Quotation.named path ++ ": " ++ fault.reason)
      atLeast 1

def run : Act Unit := do
  let a ← readArguments 1
    [.flag 'a' "", .flag 'c' "no-create", .value 'd' "date", .flag 'f' "", .flag 'h' "no-dereference",
     .flag 'm' "", .value 'r' "reference", .value 't' "", .word "time" .required]
  let kind ← match a.get? "time" with
    | none => pure ""
    | some given => choose 1 "--time" [["atime", "access", "use"], ["mtime", "modify"]] given
  let moment ← moment a
  if a.operands.isEmpty then misused 1 "missing file operand"
  let onlyAccess := (a.has "a" || kind == "atime") && !a.has "m" && kind != "mtime"
  a.operands.forM fun path =>
    if path == "-" then return
    else touch moment (!a.has "c") (!a.has "h") onlyAccess path

end Touch

namespace Link

structure Manner where
  isSymbolic : Bool
  forces : Bool
  asks : Bool
  verbose : Bool
  backs : Bool
  ending : String
  followsSource : Bool
  isRelative : Bool

/-- The path that leads from a directory to a place, both named from the root. -/
def relative (source directory : List String) : String :=
  let common := ((source.zip directory).takeWhile fun (a, b) => a == b).length
  let up := List.replicate (directory.length - common) ".."
  let names := up ++ source.drop common
  if names.isEmpty then "." else "/".intercalate names

def namesOf (path : String) : Act (Option (List String)) := do
  let r ← get
  match r.machine.files.locate r.process.workdir (withoutSlashes path).1 true with
  | .error _ => return none
  | .ok found =>
    let base := r.machine.files.namesTo 1000 found.parent
    if found.name == "." then return some (r.machine.files.namesTo 1000 (found.target.getD 0))
    if found.name == ".." then return some (r.machine.files.namesTo 1000 (found.target.getD 0))
    return some (base ++ [found.name])

def shownPair (how : Manner) (source target : String) : String :=
  Quotation.named target ++ (if how.isSymbolic then " -> " else " => ") ++ Quotation.named source

/-- Gives a file a second name or a link. -/
def make (how : Manner) (source target : String) : Act Unit := do
  let failure ← do
    if how.isSymbolic then pure none
    else
      match ← findNode source how.followsSource with
      | .error fault => pure (some ("failed to access " ++ Quotation.named source ++ ": " ++ fault.reason))
      | .ok id =>
        pure (if (← nodeOf id).isDirectory then some (Quotation.shown source ++ ": hard link not allowed for directory")
          else none)
  if let some message := failure then
    complain message
    atLeast 1
    return
  let old ← node? target false
  let mut backup := ""
  if let some node := old then
    if how.forces || how.asks || how.backs then
      let same ← do
        match ← findNode source true, ← findNode target false with
        | .ok x, .ok y => pure (x == y && lastName source == lastName target)
        | _, _ => pure false
      if same && !how.backs || (same && how.isSymbolic) then
        complain (Quotation.named source ++ " and " ++ Quotation.named target ++ " are the same file")
        atLeast 1
        return
      if node.isDirectory then
        complain (Quotation.shown target ++ ": cannot overwrite directory")
        atLeast 1
        return
      if !(← agrees how.asks ("replace " ++ Quotation.named target)) then
        atLeast 1
        return
      if how.backs then
        backup := target ++ how.ending
        discard <| change fun m here => m.moveEntry here target backup
      else discard <| change fun m here => m.removeFile here target
  let text ← do
    if !how.isRelative then pure source
    else
      match ← namesOf source, ← namesOf (directoryOf target) with
      | some x, some y => pure (relative x y)
      | _, _ => pure source
  let fault? ← change fun m here =>
    if how.isSymbolic then m.makeSpecial here target (.link text) 0o777
    else m.linkFile here how.followsSource source target
  match fault? with
  | none =>
    if how.verbose then
      printLine ((if backup.isEmpty then "" else Quotation.named backup ++ " ~ ") ++ shownPair how text target)
  | some fault =>
    let what := if how.isSymbolic then "symbolic link " else "hard link "
    let from? :=
      if how.isSymbolic then (if source.isEmpty then some (" -> " ++ Quotation.named source) else none)
      else if fault == .alreadyExists || fault == .notPermitted then none
      else some (" => " ++ Quotation.named source)
    complain ("failed to create " ++ what ++ Quotation.named target ++ from?.getD "" ++ ": " ++ fault.reason)
    atLeast 1

def switches : List Switch :=
  [.letter 'b' "" .plain, .word "backup" .optional, .flag 'd' "directory", .flag 'F' "", .flag 'f' "force",
   .flag 'i' "interactive", .flag 'L' "logical", .flag 'n' "no-dereference", .flag 'P' "physical",
   .flag 'r' "relative", .flag 's' "symbolic", .value 'S' "suffix", .value 't' "target-directory",
   .flag 'T' "no-target-directory", .flag 'v' "verbose"]

def run : Act Unit := do
  let a ← readArguments 1 switches
  let how : Manner :=
    { isSymbolic := a.has "s", forces := a.has "f", asks := a.lastOf ["i", "f"] == some "i", verbose := a.has "v"
      backs := a.has "b" || a.has "backup" || a.has "S", ending := (a.get? "S").getD "~"
      followsSource := a.lastOf ["L", "P"] == some "L", isRelative := a.has "r" }
  if how.isRelative && !how.isSymbolic then fail 1 "cannot do --relative without --symbolic"
  let into (directory : String) (sources : List String) : Act Unit :=
    sources.forM fun source => make how source (joined directory (lastName source))
  match a.get? "t", a.operands with
  | _, [] => misused 1 "missing file operand"
  | some directory, sources =>
    if a.has "T" then misused 1 "cannot combine --target-directory and --no-target-directory"
    if !(← isDirectory directory) then
      fail 1 ("target " ++ Quotation.named directory ++ " is not a directory")
    into directory sources
  | none, [one] =>
    if a.has "T" then misused 1 ("missing destination file operand after " ++ Quotation.named one)
    into "." [one]
  | none, operands =>
    let target := operands.getLastD ""
    if a.has "T" then
      if let extra :: _ := operands.drop 2 then misused 1 ("extra operand " ++ Quotation.named extra)
      make how (operands.headD "") target
    else
      let kept := a.has "n" && (← node? target false).any (·.isLink)
      if !kept && (← isDirectory target) then into target operands.dropLast
      else if operands.length > 2 then
        let fault := match ← findNode target true with
          | .ok _ => Fault.notDirectory
          | .error fault => fault
        fail 1 ("target " ++ Quotation.named target ++ ": " ++ fault.reason)
      else make how (operands.headD "") target

def runPlain : Act Unit := do
  let a ← readArguments 1 []
  match a.operands with
  | [] => misused 1 "missing operand"
  | [one] => misused 1 ("missing operand after " ++ Quotation.quoted one)
  | [source, target] =>
    discard <| attempt ("cannot create link " ++ Quotation.named target ++ " to " ++ Quotation.named source)
      fun m here => m.linkFile here false source target
  | _ :: _ :: extra :: _ => misused 1 ("extra operand " ++ Quotation.quoted extra)

def removePlain : Act Unit := do
  let a ← readArguments 1 []
  match a.operands with
  | [] => misused 1 "missing operand"
  | [path] => discard <| attempt ("cannot unlink " ++ Quotation.named path) fun m here => m.removeFile here path
  | _ :: extra :: _ => misused 1 ("extra operand " ++ Quotation.quoted extra)

end Link
end BuildRunner.Sandbox.Utility
