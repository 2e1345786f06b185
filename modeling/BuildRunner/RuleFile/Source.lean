import BuildRunner.RuleFile.Parse

/-! Rule files by their path: what opening one gave, and the errors that name the path. -/
namespace BuildRunner.RuleFile

/-- A fault of the stream becomes a fault of the file. -/
def locate (path : String) : BuildError → BuildError
  | .io cause => .unreadable path cause
  | other => other

def parseOpened (policy : DuplicatePolicy) (path : String) (opened : Except IoError Delivery) :
    Logged Graph :=
  match opened with
  | .error cause => .fail (.unreadable path cause)
  | .ok delivery => ((parse policy delivery).mapError (locate path)).after [.readingRuleFile path]

def load (policy : DuplicatePolicy) (path : String) (opened : Except IoError Delivery) :
    Logged Graph :=
  (parseOpened policy path opened).andThen fun g => ⟨[.loadedRuleFile path g.size policy], .ok g⟩

end BuildRunner.RuleFile
