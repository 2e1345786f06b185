import BuildRunner.Sandbox.Utility.Making

/-! Programs about names of files: their parts, where links lead, and which place a path names. -/
namespace BuildRunner.Sandbox.Utility
open Act Text

/-- A line that ends in a line feed, or in a zero where this is asked for. -/
def printEnding (zero : Bool) (text : String) : Act Unit := print (text.push (if zero then '\x00' else '\n'))

def baseName : Act Unit := do
  let a ← readLeadingArguments 1
    [.flag 'a' "multiple", .value 's' "suffix", .flag 'z' "zero"]
  if a.operands.isEmpty then misused 1 "missing operand"
  let all := a.has "a" || a.has "s"
  if !all then
    if let extra :: _ := a.operands.drop 2 then misused 1 ("extra operand " ++ Quotation.quoted extra)
  let ending := if all then (a.get? "s").getD "" else a.operands.getD 1 ""
  let paths := if all then a.operands else a.operands.take 1
  paths.forM fun path => do
    let name := lastName path
    let short := if name.endsWith ending && name != ending then (name.dropEnd ending.length).toString else name
    printEnding (a.has "z") short

def directoryName : Act Unit := do
  let a ← readArguments 1 [.flag 'z' "zero"]
  if a.operands.isEmpty then misused 1 "missing operand"
  a.operands.forM fun path =>
    printEnding (a.has "z") (if (withoutSlashes path).1 == "/" then "/" else directoryOf path)

inductive Presence where
  | whole
  | allButLast
  | nothing
deriving DecidableEq

namespace Canonical

def ofNames (names : List String) : String := "/" ++ "/".intercalate names

/-- The names from the root to what a path leads to, links followed. -/
def names (presence : Presence) : Nat → String → Act (Except Fault (List String))
  | 0, _ => return .error .tooManyLinks
  | fuel + 1, path => do
    let (short, slashes) := withoutSlashes path
    let r ← get
    let fs := r.machine.files
    match fs.locate r.process.workdir short true with
    | .ok found =>
      match found.target with
      | none =>
        if presence == .whole then return .error .notFound
        return .ok (fs.namesTo 1000 found.parent ++ [found.name])
      | some id =>
        if (fs.node id).isDirectory then return .ok (fs.namesTo 1000 id)
        if slashes && presence != .nothing then return .error .notDirectory
        return .ok (fs.namesTo 1000 found.parent ++ [found.name])
    | .error fault =>
      if presence != .nothing || short.isEmpty then return .error fault
      match ← names presence fuel (directoryOf short) with
      | .error fault => return .error fault
      | .ok before =>
        let name := lastName short
        return .ok (if name == ".." then before.dropLast else if name == "." then before else before ++ [name])

/-- The same without a look at the files. -/
def plainNames (path : String) : Act (List String) := do
  let r ← get
  let start := if path.startsWith "/" then [] else r.machine.files.namesTo 1000 r.process.workdir
  return ((path.splitOn "/").filter fun n => !n.isEmpty && n != ".").foldl
    (fun names n => if n == ".." then names.dropLast else names ++ [n]) start

end Canonical

namespace ReadLink

def run : Act Unit := do
  let a ← readArguments 1
    [.flag 'f' "canonicalize", .flag 'e' "canonicalize-existing", .flag 'm' "canonicalize-missing",
     .flag 'n' "no-newline", .flag 'q' "quiet", ⟨"q", ['s'], ["silent"], .plain⟩, .flag 'v' "verbose",
     .flag 'z' "zero"]
  if a.operands.isEmpty then misused 1 "missing operand"
  let isBare := a.has "n" && a.operands.length == 1
  if a.has "n" && !isBare then complain "ignoring --no-newline with multiple arguments"
  a.operands.forM fun path => do
    let result : Except Fault String ← match a.lastOf ["f", "e", "m"] with
      | none =>
        match ← findNode path false with
        | .error fault => pure (.error fault)
        | .ok id =>
          match (← nodeOf id).content with
          | .link target => pure (.ok target)
          | _ => pure (.error .invalidArgument)
      | some key =>
        let presence := if key == "f" then Presence.allButLast else if key == "e" then .whole else .nothing
        (·.map Canonical.ofNames) <$> Canonical.names presence 100 path
    match result with
    | .ok text => if isBare then print text else printEnding (a.has "z") text
    | .error fault =>
      if a.has "v" then complain (Quotation.shown path ++ ": " ++ fault.reason)
      atLeast 1

end ReadLink

namespace RealPath

def switches : List Switch :=
  [.flag 'e' "canonicalize-existing", .flag 'm' "canonicalize-missing", .flag 'L' "logical", .flag 'P' "physical",
   .flag 'q' "quiet", .word "relative-to" .required, .word "relative-base" .required,
   ⟨"s", ['s'], ["strip", "no-symlinks"], .plain⟩, .flag 'z' "zero"]

def isWithin (outer inner : List String) : Bool := inner.take outer.length == outer

def run : Act Unit := do
  let a ← readArguments 1 switches
  if a.operands.isEmpty then misused 1 "missing operand"
  let presence :=
    match a.lastOf ["e", "m"] with
    | some "e" => Presence.whole
    | some _ => .nothing
    | none => .allButLast
  let names (path : String) : Act (Except Fault (List String)) := do
    if path.isEmpty then return .error .notFound
    if a.has "s" || a.has "L" then
      let plain ← Canonical.plainNames path
      if a.has "s" then
        if presence == .whole && (← node? path true).isNone then return .error .notFound
        return .ok plain
      Canonical.names presence 100 (Canonical.ofNames plain)
    else Canonical.names presence 100 path
  let base (key : String) : Act (Option (List String)) := do
    match a.get? key with
    | none => return none
    | some path =>
      match ← names path with
      | .ok found => return some found
      | .error fault => fail 1 (Quotation.shown path ++ ": " ++ fault.reason)
  let to? ← base "relative-to"
  let base? ← base "relative-base"
  a.operands.forM fun path => do
    match ← names path with
    | .error fault =>
      if !a.has "q" then complain (Quotation.shown path ++ ": " ++ fault.reason)
      atLeast 1
    | .ok found =>
      let start? := match to?, base? with
        | some goal, some base => if isWithin base goal && isWithin base found then some goal else none
        | some goal, none => some goal
        | none, some base => if isWithin base found then some base else none
        | none, none => none
      printEnding (a.has "z") (match start? with
        | some start => Link.relative found start
        | none => Canonical.ofNames found)

end RealPath

/-- Prints the working directory, by the way that led there if this is asked for. -/
def workingDirectory : Act Unit := do
  let a ← readArguments 1 [.flag 'L' "logical", .flag 'P' "physical"]
  if !a.operands.isEmpty then complain "ignoring non-option arguments"
  let r ← get
  let real := r.machine.files.pathTo r.process.workdir
  let given := (r.process.environment.lookup "PWD").getD ""
  let isClean := given.startsWith "/" && (given.splitOn "/").all fun n => n != "." && n != ".."
  let leads := (r.machine.files.find FileSystem.root given true).toOption == some r.process.workdir
  printLine (if a.lastOf ["L", "P"] == some "L" && isClean && leads then given else real)

namespace Temporary

def alphabet : List Char := "ABCDEFGHIJKLMNOPQRSTUVWXYZabcdefghijklmnopqrstuvwxyz0123456789".toList

/-- Letters that look like no order, from a number. -/
def letters : Nat → Nat → List Char
  | 0, _ => []
  | count + 1, seed =>
    alphabet.getD (seed / 65536 % 62) 'A' :: letters count ((seed * 1103515245 + 12345) % 2147483648)

def run : Act Unit := do
  let a ← readArguments 1
    [.flag 'd' "directory", .flag 'u' "dry-run", .flag 'q' "quiet", .value 'p' "", .word "tmpdir" .optional,
     .flag 't' "", .word "suffix" .required, .flag 'V' ""]
  if a.operands.length > 1 then misused 1 "too many templates"
  let given := a.operands.headD "tmp.XXXXXXXXXX"
  let chars := given.toList.reverse
  let ending := match a.get? "suffix" with
    | some ending => ending
    | none => String.ofList ((chars.takeWhile (· ≠ 'X')).reverse)
  let stem := if a.has "suffix" then given else (given.dropEnd ending.length).toString
  let count := (stem.toList.reverse.takeWhile (· == 'X')).length
  if a.has "suffix" && !stem.endsWith "X" then
    fail 1 ("with --suffix, template " ++ Quotation.quoted given ++ " must end in X")
  if count < 3 then fail 1 ("too few X's in template " ++ Quotation.quoted given)
  if ending.contains '/' then fail 1 ("invalid suffix " ++ Quotation.quoted ending ++ ", contains directory separator")
  let place := ((← process).environment.lookup "TMPDIR").getD "/tmp"
  let directory? :=
    match a.get? "p", a.get? "tmpdir" with
    | some d, _ => some (if d.isEmpty then place else d)
    | none, some d => some (if d.isEmpty then place else d)
    | none, none => if a.has "t" || a.operands.isEmpty then some place else none
  if directory?.isSome && given.startsWith "/" then
    fail 1 ("invalid template, " ++ Quotation.quoted given ++ "; with --tmpdir, it may not be absolute")
  let front := (stem.dropEnd count).toString
  let name := front ++ String.ofList (letters count (((← machine).now / 1000 * 2654435761) % 2147483648)) ++ ending
  let path := match directory? with
    | some d => joined d name
    | none => name
  let template := match directory? with
    | some d => joined d given
    | none => given
  let fault? ← change fun m here =>
    if a.has "u" then .ok m.tick
    else if a.has "d" then m.makeDirectory here path 0o700
    else m.makeSpecial here path (.file .empty) 0o600
  match fault? with
  | none => printLine path
  | some fault =>
    if !a.has "q" then
      complain ("failed to create " ++ (if a.has "d" then "directory" else "file") ++ " via template " ++
        Quotation.quoted template ++ ": " ++ fault.reason)
    atLeast 1

end Temporary

namespace CheckPath

def isPortable (c : Char) : Bool := c.isAlphanum || c == '.' || c == '_' || c == '-' || c == '/'

def refusal? (portable leading : Bool) (path : String) : Act (Option String) := do
  let names := path.splitOn "/"
  if leading && names.any (·.startsWith "-") then
    return some ("leading '-' in a component of file name " ++ Quotation.named path)
  if portable || leading then
    if path.isEmpty then return some "empty file name"
  if portable then
    match path.toList.find? (!isPortable ·) with
    | some c => return some ("nonportable character " ++ Quotation.quoted c.toString ++ " in file name " ++ Quotation.named path)
    | none =>
      if path.length ≥ 256 then
        return some ("limit 255 exceeded by length " ++ toString path.length ++ " of file name " ++ Quotation.named path)
      match names.find? (·.length > 14) with
      | some n =>
        return some ("limit 14 exceeded by length " ++ toString n.length ++ " of file name component " ++ Quotation.named n)
      | none => return none
  match ← findNode path true with
  | .ok _ => return none
  | .error .notFound => return if path.isEmpty then some ("'': " ++ Fault.reason .notFound) else none
  | .error fault => return some (Quotation.shown path ++ ": " ++ fault.reason)

def run : Act Unit := do
  let a ← readArguments 1 [.flag 'p' "", .flag 'P' "", .word "portability" .plain]
  if a.operands.isEmpty then misused 1 "missing operand"
  let both := a.has "portability"
  a.operands.forM fun path => do
    if let some message ← refusal? (a.has "p" || both) (a.has "P" || both) path then
      complain message
      atLeast 1

end CheckPath
end BuildRunner.Sandbox.Utility
