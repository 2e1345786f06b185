import BuildRunner.Application
import BuildRunner.Sandbox.Host

/-! The command line. The rule file is read from disk; commands run on a machine in memory that
holds nothing else in its working directory. -/
namespace BuildRunner.Main
open Sandbox

def usage : String :=
  "Usage: mkrun [--file FILE] --target TARGET [--dry-run] [--strict] [--verbose]"

def explain : UsageIssue → String
  | .helpRequested => usage
  | .versionRequested => "mkrun 0.3.0"
  | .missingArgument => "error: a target is required\n" ++ usage
  | .invalidValue => "error: an option lacks its value\n" ++ usage
  | .unknownArgument => "error: unexpected argument\n" ++ usage
  | .argumentConflict => "error: an option is given twice\n" ++ usage
  | .tooManyValues => "error: a switch takes no value\n" ++ usage

/-- The machine with the rule file that the arguments name, if it can be read. -/
def prepare (arguments : List String) (environment : Environment) : IO Machine := do
  match Options.parse arguments environment.file with
  | .error _ => return .new []
  | .ok options =>
    try
      let bytes ← IO.FS.readBinFile options.file
      return .new [(options.file, .file bytes.toList false)]
    catch _ => return .new []

def run (arguments : List String) : IO UInt32 := do
  let environment : Environment := ⟨← IO.getEnv "MKRUN_FILE", ← IO.getEnv "MKRUN_LOG"⟩
  let machine ← prepare arguments environment
  match Application.run (host none) (fun path m => m.deliver path) arguments environment machine with
  | .error issue =>
    IO.eprintln (explain issue)
    return UInt32.ofNat issue.exitCode.toNat
  | .ok completion =>
    completion.logLines.forM IO.eprintln
    IO.print completion.output
    IO.eprint (String.ofList (Text.Utf8.decodeLossy completion.host.errors))
    completion.errorLine.toList.forM IO.eprintln
    return UInt32.ofNat completion.code.toNat

end BuildRunner.Main

def main (arguments : List String) : IO UInt32 := BuildRunner.Main.run arguments
