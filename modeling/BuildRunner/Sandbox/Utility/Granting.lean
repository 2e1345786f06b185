import BuildRunner.Sandbox.FileMode
import BuildRunner.Sandbox.Tree
import BuildRunner.Sandbox.Utility.Reading

/-! Changes of mode bits, and of owners. All files belong to one user. -/
namespace BuildRunner.Sandbox.Utility
open Act Text

def accounts : List (String × Nat) :=
  [("root", 0), ("daemon", 1), ("bin", 2), ("sys", 3), ("games", 5), ("man", 6), ("mail", 8), ("www-data", 33),
   ("nobody", 65534)]

namespace ChangeMode

def apply (alter : Nat → Bool → Nat → Nat) (isDeep verbose onlyChanges quiet : Bool) : Nat → Bool → String → Act Unit
  | 0, _, _ => return
  | fuel + 1, isTop, path => do
    let refuse (message : String) : Act Unit := do
      if !quiet then complain message
      if verbose then printLine (Quotation.named path ++ " could not be accessed")
      atLeast 1
    match ← findNode path true with
    | .error fault =>
      if (← node? path false).any (·.isLink) then
        if isTop then refuse ("cannot operate on dangling symlink " ++ Quotation.named path)
      else refuse ("cannot access " ++ Quotation.named path ++ ": " ++ fault.reason)
    | .ok id =>
      if !isTop && (← node? path false).any (·.isLink) then return
      let node ← nodeOf id
      let mode := alter (← process).mask node.isDirectory node.mode
      if mode != node.mode then setMachine ((← machine).setMode id mode)
      let shown (mode : Nat) : String := FileMode.octal 4 mode ++ " (" ++ FileMode.letters mode ++ ")"
      if verbose || (onlyChanges && mode != node.mode) then
        printLine ("mode of " ++ Quotation.named path ++
          (if mode == node.mode then " retained as " ++ shown mode
          else " changed from " ++ shown node.mode ++ " to " ++ shown mode))
      if isDeep && node.isDirectory then
        for (name, _) in (← machine).files.sortedEntries id do
          apply alter isDeep verbose onlyChanges quiet fuel false (joined path name)

def switches : List Switch :=
  [.flag 'c' "changes", ⟨"f", ['f'], ["silent", "quiet"], .plain⟩, .flag 'v' "verbose",
   .word "no-preserve-root" .plain, .word "preserve-root" .plain, .word "reference" .required, .flag 'R' "recursive"]

/-- Modes that begin with a dash are no switches. -/
def isMode (word : String) : Bool :=
  match word.toList with
  | '-' :: c :: _ => "rwxXstugoa,+=01234567".toList.contains c
  | _ => false

def run : Act Unit := do
  let words ← arguments
  let words' := words.takeWhile (· ≠ "--")
  let dashed := words'.filter isMode
  let others := words'.filter (!isMode ·) ++ words.drop words'.length
  modify fun r => { r with process := { r.process with arguments := others } }
  let a ← readArguments 1 switches
  let (mode?, paths) :=
    if a.has "reference" then (none, a.operands)
    else if !dashed.isEmpty then (some (",".intercalate dashed), a.operands)
    else (a.operands.head?, a.operands.tail)
  if paths.isEmpty then
    match mode?, dashed with
    | some mode, [] => misused 1 ("missing operand after " ++ Quotation.quoted mode)
    | some _, _ => misused 1 ("missing operand after " ++ Quotation.quoted (words.getLastD ""))
    | none, _ => misused 1 "missing operand"
  let alter ← match a.get? "reference", mode? with
    | some path, _ =>
      match ← findNode path true with
      | .ok id =>
        let mode := (← nodeOf id).mode
        pure fun (_ : Nat) (_ : Bool) (_ : Nat) => mode
      | .error fault => fail 1 ("failed to get attributes of " ++ Quotation.named path ++ ": " ++ fault.reason)
    | none, some text =>
      match FileMode.alteration? text with
      | some alter => pure alter
      | none => misused 1 ("invalid mode: " ++ Quotation.quoted text)
    | none, none => pure fun (_ : Nat) (_ : Bool) (mode : Nat) => mode
  paths.forM (apply alter (a.has "R") (a.has "v") (a.has "c") (a.has "f") 1000 true)

end ChangeMode

namespace ChangeOwner

def isKnown (name : String) : Bool := (accounts.lookup name).isSome || (Numeral.natural? name).isSome

def refusal? (ofGroup : Bool) (text : String) : Option String :=
  if ofGroup then
    if text.isEmpty || isKnown text then none else some ("invalid group: " ++ Quotation.quoted text)
  else
    match text.splitOn ":" with
    | [user] => if user.isEmpty || isKnown user then none else some ("invalid user: " ++ Quotation.quoted text)
    | user :: group =>
      if !user.isEmpty && !isKnown user then some ("invalid user: " ++ Quotation.quoted text)
      else if group.all fun g => g.isEmpty || isKnown g then none
      else some ("invalid group: " ++ Quotation.quoted text)
    | [] => none

def switches : List Switch :=
  [.flag 'c' "changes", ⟨"f", ['f'], ["silent", "quiet"], .plain⟩, .flag 'v' "verbose", .flag 'h' "no-dereference",
   .word "dereference" .plain, .word "from" .required, .word "no-preserve-root" .plain,
   .word "preserve-root" .plain, .word "reference" .required, .flag 'R' "recursive", .flag 'H' "", .flag 'L' "",
   .flag 'P' ""]

def run (ofGroup : Bool) : Act Unit := do
  let a ← readArguments 1 switches
  let owner := if a.has "reference" then "" else a.operands.headD ""
  let paths := if a.has "reference" then a.operands else a.operands.tail
  if a.operands.isEmpty then misused 1 "missing operand"
  if paths.isEmpty then misused 1 ("missing operand after " ++ Quotation.quoted owner)
  if let some message := refusal? ofGroup owner then fail 1 message
  let shown := if owner.endsWith ":" then owner ++ "root" else owner
  paths.forM fun path => do
    match ← findNode path (!a.has "h") with
    | .ok _ =>
      if a.has "v" then
        printLine ((if ofGroup then "group of " else "ownership of ") ++ Quotation.named path ++ " retained as " ++ shown)
    | .error fault =>
      if !a.has "f" then
        complain ((if (← node? path false).isSome then "cannot dereference " else "cannot access ") ++
          Quotation.named path ++ ": " ++ fault.reason)
      atLeast 1

end ChangeOwner
end BuildRunner.Sandbox.Utility
