import BuildRunner.Options.Basic

/-! Reading a command line from the left. The program leaves this to an argument parser from outside
its own source. The scanner follows that parser, so it is an assumption about code that is not modelled
from its text: which spellings are taken, which fault is reported first, that no option is given twice.

An option whose value is a separate word stays pending: its faults count when the next known option
comes, or at the end, and never if something that is refused at sight comes first. -/
namespace BuildRunner

structure Given where
  file : Option String
  target : Option String
  dryRun : Bool
  strict : Bool
  verbose : Bool
deriving DecidableEq, Repr

namespace Given

def nothing : Given := ⟨none, none, false, false, false⟩

def value? (g : Given) : ValueOption → Option String
  | .file => g.file
  | .target => g.target

/-- No option is given twice, and a file has a name. -/
def setValue (g : Given) (option : ValueOption) (value : String) : Except UsageIssue Given :=
  if (g.value? option).isSome then .error .argumentConflict
  else
    match option with
    | .file => if value.isEmpty then .error .invalidValue else .ok { g with file := some value }
    | .target => .ok { g with target := some value }

def setSwitch (g : Given) : Switch → Except UsageIssue Given
  | .dryRun => if g.dryRun then .error .argumentConflict else .ok { g with dryRun := true }
  | .strict => if g.strict then .error .argumentConflict else .ok { g with strict := true }
  | .verbose => if g.verbose then .error .argumentConflict else .ok { g with verbose := true }
  | .help => .error .helpRequested
  | .version => .error .versionRequested

end Given

/-- An option that waits for its value, or has it and still waits to be settled. -/
inductive Pending where
  | awaiting (option : ValueOption)
  | holding (option : ValueOption) (value : String)
deriving DecidableEq, Repr

structure OptionScan where
  given : Given
  pending : Option Pending
deriving DecidableEq, Repr

namespace OptionScan

def start : OptionScan := ⟨.nothing, none⟩

def settle (s : OptionScan) : Except UsageIssue Given :=
  match s.pending with
  | none => .ok s.given
  | some (.awaiting _) => .error .invalidValue
  | some (.holding option value) => s.given.setValue option value

def attached (s : OptionScan) (option : ValueOption) (value : List Char) :
    Except UsageIssue OptionScan := do
  let given ← (← s.settle).setValue option (String.ofList value)
  return ⟨given, none⟩

def expect (s : OptionScan) (option : ValueOption) : Except UsageIssue OptionScan := do
  return ⟨← s.settle, some (.awaiting option)⟩

def switchOn (s : OptionScan) (switch : Switch) : Except UsageIssue OptionScan := do
  return ⟨← (← s.settle).setSwitch switch, none⟩

/-- A long option, what follows its two dashes; a value may follow an equals sign. -/
def long (s : OptionScan) (text : List Char) : Except UsageIssue OptionScan :=
  match OptionName.ofLong? (String.ofList (text.takeWhile (· ≠ '='))), text.dropWhile (· ≠ '=') with
  | none, _ => .error .unknownArgument
  | some (.value option), [] => s.expect option
  | some (.value option), _ :: value => s.attached option value
  | some (.switch switch), [] => s.switchOn switch
  | some (.switch _), _ :: _ => .error .tooManyValues

/-- Short options in one word; one that takes a value takes the rest of the word, if there is any. -/
def cluster (s : OptionScan) : List Char → Except UsageIssue OptionScan
  | [] => .ok s
  | c :: rest =>
    match OptionName.ofShort? c, rest with
    | none, _ => .error .unknownArgument
    | some (.switch switch), _ => do (← s.switchOn switch).cluster rest
    | some (.value option), [] => s.expect option
    | some (.value option), '=' :: value => s.attached option value
    | some (.value option), value => s.attached option value

/-- A word that is no option is the value of one, or nothing known. -/
def word (s : OptionScan) (value : String) : Except UsageIssue OptionScan :=
  match s.pending with
  | some (.awaiting option) => .ok ⟨s.given, some (.holding option value)⟩
  | _ => .error .unknownArgument

/-- Nothing may follow two dashes that stand alone. -/
def all (s : OptionScan) : List String → Except UsageIssue Given
  | [] => s.settle
  | argument :: rest =>
    match argument.toList with
    | ['-', '-'] => if rest.isEmpty then s.settle else .error .unknownArgument
    | '-' :: '-' :: text => do (← s.long text).all rest
    | '-' :: c :: text => do (← s.cluster (c :: text)).all rest
    | _ => do (← s.word argument).all rest

end OptionScan

/-- The environment may name the file where the command line does not, but not by an empty name. -/
def Given.complete (g : Given) (environmentFile : Option String) : Except UsageIssue Options :=
  match g.file, environmentFile, g.target with
  | none, some "", _ => .error .invalidValue
  | _, _, none => .error .missingArgument
  | file, environmentFile, some target =>
    .ok ⟨(file <|> environmentFile).getD defaultRuleFile, target, g.dryRun, g.strict, g.verbose⟩

def Options.parse (arguments : List String) (environmentFile : Option String) :
    Except UsageIssue Options := do
  (← OptionScan.start.all arguments).complete environmentFile

end BuildRunner
