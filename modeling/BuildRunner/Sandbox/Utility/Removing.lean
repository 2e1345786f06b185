import BuildRunner.Sandbox.Tree
import BuildRunner.Sandbox.Utility.Reading

/-! Removal of files and of whole directories. -/
namespace BuildRunner.Sandbox.Utility
namespace Remove
open Act Text

structure Manner where
  isForced : Bool
  isDeep : Bool
  takesEmpty : Bool
  asks : Bool
  verbose : Bool
  guardsRoot : Bool

def kindOf (node : Node) : String :=
  match node.content with
  | .file data => if data.isEmpty then "regular empty file" else "regular file"
  | .binary _ => "regular file"
  | .directory .. => "directory"
  | .link _ => "symbolic link"
  | .device _ => "character special file"
  | .fifo => "fifo"

def refuse (path reason : String) : Act Bool := do
  complain ("cannot remove " ++ Quotation.named path ++ ": " ++ reason)
  atLeast 1
  return false

/-- Removes what is at a path, first what is in it. Says whether it is gone. -/
def remove (how : Manner) : Nat → Bool → String → Act Bool
  | 0, _, path => refuse path (Fault.reason .tooManyLinks)
  | fuel + 1, isTop, path => do
    match ← findNode path (path.endsWith "/") with
    | .error fault =>
      if how.isForced && (fault == .notFound || fault == .notDirectory) then return true
      refuse path fault.reason
    | .ok id =>
      let node ← nodeOf id
      if !node.isDirectory then
        if !(← agrees how.asks ("remove " ++ kindOf node ++ " " ++ Quotation.named path)) then return false
        match ← change fun m here => m.removeFile here path with
        | some fault => refuse path fault.reason
        | none =>
          if how.verbose then printLine ("removed " ++ Quotation.named path)
          return true
      else
        let entries := (← machine).files.sortedEntries id
        if !how.isDeep && !(how.takesEmpty && entries.isEmpty) then
          return ← refuse path (Fault.reason (if how.takesEmpty then .notEmpty else .isDirectory))
        let name := lastName path
        if isTop && (name == "." || name == "..") then
          complain ("refusing to remove '.' or '..' directory: skipping " ++ Quotation.named path)
          atLeast 1
          return false
        if isTop && id == FileSystem.root && how.guardsRoot then
          complain ("it is dangerous to operate recursively on " ++ Quotation.named path)
          complain "use --no-preserve-root to override this failsafe"
          atLeast 1
          return false
        if how.asks && !entries.isEmpty then
          if !(← ask ("descend into directory " ++ Quotation.named path)) then return false
        let mut isEmpty := true
        for (name, _) in entries do
          let isGone ← remove how fuel false (joined path name)
          isEmpty := isEmpty && isGone
        if !isEmpty then return false
        if !(← agrees how.asks ("remove directory " ++ Quotation.named path)) then return false
        match ← change fun m here =>
            if path.endsWith "/" && ((m.node? here (withoutSlashes path).1).isSome) &&
                (match m.files.find here (withoutSlashes path).1 false with
                  | .ok id => (m.files.node id).isLink
                  | .error _ => false) then .error .notDirectory
            else m.removeDirectory here path with
        | some fault => refuse path fault.reason
        | none =>
          if how.verbose then printLine ("removed directory " ++ Quotation.named path)
          return true

def switches : List Switch :=
  [.flag 'f' "force", .flag 'i' "", .flag 'I' "", .word "interactive" .optional,
   .word "one-file-system" .plain, .word "no-preserve-root" .plain, .word "preserve-root" .optional,
   ⟨"r", ['r', 'R'], ["recursive"], .plain⟩, .flag 'd' "dir", .flag 'v' "verbose"]

def run : Act Unit := do
  let a ← readArguments 1 switches
  -- the last of the switches about questions counts
  let asked ← match a.lastOf ["f", "i", "I", "interactive"] with
    | some "interactive" =>
      match a.get? "interactive" with
      | none | some "" => pure "i"
      | some given =>
        match ← choose 1 "--interactive" [["never", "no", "none"], ["once"], ["always", "yes"]] given with
        | "never" => pure ""
        | "once" => pure "I"
        | _ => pure "i"
    | some key => pure key
    | none => pure ""
  let isForced := a.lastOf ["f", "i", "I"] == some "f"
  if a.operands.isEmpty then
    if isForced then exit 0 else misused 1 "missing operand"
  let how : Manner :=
    { isForced, isDeep := a.has "r", takesEmpty := a.has "d", asks := asked == "i", verbose := a.has "v"
      guardsRoot := !a.has "no-preserve-root" }
  if asked == "I" && (how.isDeep || a.operands.length > 3) then
    let count := a.operands.length
    let question := "remove " ++ toString count ++ (if count == 1 then " argument" else " arguments") ++
      (if how.isDeep then " recursively" else "")
    if !(← ask question) then exit 0
  a.operands.forM fun path => discard <| remove how 1000 true path

end Remove
end BuildRunner.Sandbox.Utility
