import BuildRunner.RuleFile.Policy

/-! What a command line asks for: the rule file, the target and three switches; and why a command
line is answered without a run. -/
namespace BuildRunner

structure Options where
  file : String
  target : String
  dryRun : Bool
  strict : Bool
  verbose : Bool
deriving DecidableEq, Repr

/-- Read when neither the command line nor the environment names a file. -/
def defaultRuleFile : String := "Makefile"

def Options.duplicates (o : Options) : DuplicatePolicy := .ofStrict o.strict

inductive UsageIssue where
  | missingArgument
  | invalidValue
  | unknownArgument
  | argumentConflict
  | tooManyValues
  | helpRequested
  | versionRequested
deriving DecidableEq, Repr

/-- Asking for help or for the version is no failure. -/
def UsageIssue.exitCode : UsageIssue → Int
  | helpRequested | versionRequested => 0
  | _ => 1

inductive ValueOption where
  | file
  | target
deriving DecidableEq, Repr

inductive Switch where
  | dryRun
  | strict
  | verbose
  | help
  | version
deriving DecidableEq, Repr

inductive OptionName where
  | value (option : ValueOption)
  | switch (switch : Switch)
deriving DecidableEq, Repr

namespace OptionName

def ofLong? : String → Option OptionName
  | "file" => some (.value .file)
  | "target" => some (.value .target)
  | "dry-run" => some (.switch .dryRun)
  | "strict" => some (.switch .strict)
  | "verbose" => some (.switch .verbose)
  | "help" => some (.switch .help)
  | "version" => some (.switch .version)
  | _ => none

def ofShort? : Char → Option OptionName
  | 'f' => some (.value .file)
  | 't' => some (.value .target)
  | 'n' => some (.switch .dryRun)
  | 'v' => some (.switch .verbose)
  | 'h' => some (.switch .help)
  | 'V' => some (.switch .version)
  | _ => none

end OptionName
end BuildRunner
