import BuildRunner.Sandbox.Calendar
import BuildRunner.Sandbox.Tree
import BuildRunner.Sandbox.Utility.Granting

/-! Programs that tell about the system: who works on it, what it is, and what time it is. -/
namespace BuildRunner.Sandbox.Utility
open Act Text

def readNothing (failure : Nat) (switches : List Switch) : Act Arguments := do
  let a ← readArguments failure switches
  if let some extra := a.operands.head? then misused failure ("extra operand " ++ Quotation.quoted extra)
  return a

namespace Identity

structure Account where
  user : String
  number : Nat

def group (a : Account) : String := if a.user == "nobody" then "nogroup" else a.user

def own : Account := ⟨"root", 0⟩

def find? (name : String) : Option Account :=
  match accounts.lookup name with
  | some n => some ⟨name, n⟩
  | none =>
    (Numeral.natural? name).bind fun n => (accounts.find? (·.2 == n)).map fun (name, n) => ⟨name, n⟩

def print (a : Arguments) (account : Account) : Act Unit := do
  let mark := if a.has "z" then "\x00" else "\n"
  let both (name : String) : String := toString account.number ++ "(" ++ name ++ ")"
  let one (name : String) : String := if a.has "n" then name else toString account.number
  Act.print ((
    if a.has "u" then one account.user
    else if a.has "g" || a.has "G" then one (group account)
    else "uid=" ++ both account.user ++ " gid=" ++ both (group account) ++ " groups=" ++ both (group account)) ++ mark)

def run : Act Unit := do
  let a ← readArguments 1
    [.flag 'a' "", .flag 'Z' "context", .flag 'g' "group", .flag 'G' "groups", .flag 'n' "name", .flag 'r' "real",
     .flag 'u' "user", .flag 'z' "zero"]
  let choices := (["u", "g", "G", "Z"].filter a.has).length
  if choices > 1 then fail 1 "cannot print \"only\" of more than one choice"
  if choices == 0 && (a.has "n" || a.has "r") then fail 1 "cannot print only names or real IDs in default format"
  if choices == 0 && a.has "z" then fail 1 "option --zero not permitted in default format"
  if a.has "Z" then fail 1 "--context (-Z) works only on an SELinux-enabled kernel"
  if a.operands.isEmpty then print a own
  a.operands.forM fun name => do
    match find? name with
    | some account => print a account
    | none =>
      complain (Quotation.quoted name ++ ": no such user")
      atLeast 1

def showName : Act Unit := do
  discard <| readNothing 1 []
  printLine own.user

def showGroups : Act Unit := do
  let a ← readArguments 1 []
  if a.operands.isEmpty then printLine (group own)
  a.operands.forM fun name => do
    match find? name with
    | some account => printLine (name ++ " : " ++ group account)
    | none =>
      complain (Quotation.quoted name ++ ": no such user")
      atLeast 1

/-- Nobody has come in by a terminal. -/
def showLogin : Act Unit := do
  discard <| readNothing 1 []
  fail 1 "no login name"

end Identity

def terminal : Act Unit := do
  let a ← readNothing 2 [⟨"s", ['s'], ["silent", "quiet"], .plain⟩]
  if !a.has "s" then printLine "not a tty"
  atLeast 1

namespace System

def hostName : String := "localhost"

def run : Act Unit := do
  let a ← readNothing 1
    [.flag 'a' "all", .flag 's' "kernel-name", .flag 'n' "nodename", .flag 'r' "kernel-release",
     .flag 'v' "kernel-version", .flag 'm' "machine", .flag 'p' "processor", .flag 'i' "hardware-platform",
     ⟨"o", ['o'], ["operating-system"], .plain⟩]
  let parts := [("s", "Linux"), ("n", hostName), ("r", "6.1.0"), ("v", "#1 SMP"), ("m", "x86_64"), ("o", "GNU/Linux")]
  let wanted := parts.filter fun (key, _) => a.has key || a.has "a"
  let unknown := (["p", "i"].filter a.has).map fun _ => "unknown"
  let texts := wanted.map (·.2) ++ unknown
  printLine (if texts.isEmpty then "Linux" else " ".intercalate texts)

def showKind : Act Unit := do
  discard <| readNothing 1 []
  printLine "x86_64"

def showProcessors : Act Unit := do
  let a ← readNothing 1 [.word "all" .plain, .word "ignore" .required]
  match a.get? "ignore" with
  | none => printLine "1"
  | some text =>
    if (Numeral.natural? text).isNone then fail 1 ("invalid number: " ++ Quotation.quoted text)
    printLine "1"

/-- All is on its medium at any time. -/
def sync : Act Unit := do
  let a ← readArguments 1 [.flag 'd' "data", .flag 'f' "file-system"]
  a.operands.forM fun path => do
    if let .error fault ← findNode path true then
      complain ("error opening " ++ Quotation.named path ++ ": " ++ fault.reason)
      atLeast 1

end System

namespace ShowDate

def standardFormat : String := "%a %b %e %H:%M:%S %Z %Y"

def precisions : List (List String) := [["date"], ["hours"], ["minutes"], ["seconds"], ["ns"]]

def worded (a : Arguments) : Act (Option String) := do
  match a.lastOf ["I", "R", "rfc-3339"] with
  | some "R" => return some "%a, %d %b %Y %H:%M:%S %z"
  | some "I" =>
    let given := (a.get? "I").getD ""
    match ← if given.isEmpty then pure "date" else choose 1 "--iso-8601" precisions given with
    | "hours" => return some "%Y-%m-%dT%H%:z"
    | "minutes" => return some "%Y-%m-%dT%H:%M%:z"
    | "seconds" => return some "%Y-%m-%dT%H:%M:%S%:z"
    | "ns" => return some "%Y-%m-%dT%H:%M:%S,%N%:z"
    | _ => return some "%Y-%m-%d"
  | some _ =>
    match ← choose 1 "--rfc-3339" [["date"], ["seconds"], ["ns"]] ((a.get? "rfc-3339").getD "") with
    | "seconds" => return some "%Y-%m-%d %H:%M:%S%:z"
    | "ns" => return some "%Y-%m-%d %H:%M:%S.%N%:z"
    | _ => return some "%Y-%m-%d"
  | none => return none

def run : Act Unit := do
  let a ← readArguments 1
    [.value 'd' "date", .word "debug" .plain, .value 'f' "file", ⟨"I", ['I'], ["iso-8601"], .optional⟩,
     ⟨"R", ['R'], ["rfc-email", "rfc-822", "rfc-2822"], .plain⟩, .word "rfc-3339" .required, .value 'r' "reference",
     .word "resolution" .plain, .value 's' "set", ⟨"u", ['u'], ["utc", "universal"], .plain⟩]
  let worded ← worded a
  let sources := (["d", "f", "r", "resolution"].filter a.has).length
  if sources > 1 then misused 1 "the options to specify dates for printing are mutually exclusive"
  if let extra :: _ := a.operands.drop 1 then misused 1 ("extra operand " ++ Quotation.quoted extra)
  let format ← match a.operands.head? with
    | none => pure (worded.getD standardFormat)
    | some text =>
      if text.startsWith "+" then
        if worded.isSome then fail 1 "multiple output formats specified"
        pure (text.drop 1).toString
      else if sources > 0 then
        complain ("the argument " ++ Quotation.quoted text ++
          " lacks a leading '+';\nwhen using an option to specify date(s), any non-option\n" ++
          "argument must be a format string beginning with '+'")
        refer 1
      else fail 1 ("invalid date " ++ Quotation.quoted text)
  let now := (← machine).now
  let giga : Int := 1000000000
  let write (moment : Int) : Act Unit :=
    printLine (Calendar.format (moment % giga).toNat (Calendar.ofSeconds (moment / giga)) (format.length + 1) format.toList)
  let describe (text : String) : Act Unit := do
    match Calendar.ofText? now text with
    | some moment => write moment
    | none =>
      complain ("invalid date " ++ Quotation.quoted text)
      atLeast 1
  match a.get? "d", a.get? "f", a.get? "r" with
  | some text, _, _ => describe text
  | _, some path, _ =>
    match ← textOf path with
    | .error fault => fail 1 (Quotation.shown path ++ ": " ++ fault.reason)
    | .ok text => (linesOf text).forM describe
  | _, _, some path =>
    match ← findNode path true with
    | .error fault => fail 1 (Quotation.shown path ++ ": " ++ fault.reason)
    | .ok id => write (← nodeOf id).changed
  | _, _, _ => write now

end ShowDate
end BuildRunner.Sandbox.Utility
