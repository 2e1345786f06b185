import BuildRunner.Execution
import BuildRunner.Log.Filter
import BuildRunner.Options.Parse
import BuildRunner.RuleFile.Source
import BuildRunner.Runner.Dry
import BuildRunner.Runner.Local

/-! The program as a whole: from a command line, an environment and a host to what is shown and the
exit code. -/
namespace BuildRunner

def runFile {σ : Type} (policy : DuplicatePolicy) (path : String)
    (opened : Except IoError RuleFile.Delivery) (runner : Runner σ) (target : String) (state : σ) :
    Outcome σ RunReport :=
  (Outcome.ofLogged (RuleFile.load policy path opened) state).andThen fun g state =>
    Execution.run g runner target state

structure Environment where
  file : Option String
  log : Option String
deriving DecidableEq, Repr

/-- How a run of the program ended; `host` is what the commands left. -/
structure Completion (η : Type) where
  code : Int
  output : String
  logLines : List String
  errorLine : Option String
  host : η

namespace Application
variable {η : Type}

/-- A dry run leaves the host alone. -/
def chooseRunner (host : Host η) (options : Options) : Runner (Writer × η) :=
  if options.dryRun then Runner.dry.beside η else .onHost host

def complete (filter : LogFilter) (outcome : Outcome (Writer × η) RunReport) : Completion η :=
  let shown := (outcome.log.filter filter.admits).map Event.line
  let (writer, after) := outcome.state
  match outcome.result with
  | .ok _ => ⟨0, writer.written, shown, none, after⟩
  | .error e => ⟨1, writer.written, shown, some ("error: " ++ e.message), after⟩

/-- Refused arguments end the program before anything is read. -/
def run (host : Host η) (openFile : String → η → Except IoError RuleFile.Delivery)
    (arguments : List String) (environment : Environment) (state : η) :
    Except UsageIssue (Completion η) := do
  let options ← Options.parse arguments environment.file
  let filter := LogFilter.select options.verbose environment.log
  return complete filter (runFile options.duplicates options.file (openFile options.file state)
    (chooseRunner host options) options.target (.new none, state))

end Application
end BuildRunner
