import BuildRunner.RuleFile.Policy
import BuildRunner.Text.Quoted

/-! The events of a build, as a log shows them: a level, a fixed message and named fields. -/
namespace BuildRunner

inductive Level where
  | error
  | warn
  | info
  | debug
  | trace
deriving DecidableEq, Repr

namespace Level

def rank : Level → Nat
  | error => 1
  | warn => 2
  | info => 3
  | debug => 4
  | trace => 5

def label : Level → String
  | error => "ERROR"
  | warn => "WARN"
  | info => "INFO"
  | debug => "DEBUG"
  | trace => "TRACE"

end Level

inductive Event where
  | readingRuleFile (path : String)
  | overridingRecipe (name : String) (line : Nat)
  | parsedRuleFile (targets : Nat)
  | loadedRuleFile (file : String) (targets : Nat) (duplicates : DuplicatePolicy)
  | graphValidated (targets : Nat)
  | orderComputed (name : String) (steps : Nat)
  | runningTarget (name : String) (steps : Nat)
  | executingRecipe (name : String) (commands : Nat)
  | spawningProcess (arguments : List String)
  | targetComplete (name : String) (commands : Nat)
deriving DecidableEq, Repr

/-- A field holds a number, a text, or a text that a log line shows without quotes. -/
inductive FieldValue where
  | number (n : Nat)
  | text (s : String)
  | plain (s : String)
deriving DecidableEq, Repr

namespace Event

def level : Event → Level
  | overridingRecipe .. => .warn
  | loadedRuleFile .. | runningTarget .. | targetComplete .. => .info
  | readingRuleFile .. | parsedRuleFile .. | graphValidated .. | orderComputed ..
  | executingRecipe .. | spawningProcess .. => .debug

def message : Event → String
  | readingRuleFile .. => "reading rule file"
  | overridingRecipe .. => "overriding recipe for target"
  | parsedRuleFile .. => "parsed rule file"
  | loadedRuleFile .. => "loaded rule file"
  | graphValidated .. => "graph validated"
  | orderComputed .. => "execution order computed"
  | runningTarget .. => "running target"
  | executingRecipe .. => "executing recipe"
  | spawningProcess .. => "spawning process"
  | targetComplete .. => "target complete"

def fields : Event → List (String × FieldValue)
  | readingRuleFile path => [("path", .plain path)]
  | overridingRecipe name line => [("name", .text name), ("line", .number line)]
  | parsedRuleFile targets | graphValidated targets => [("targets", .number targets)]
  | loadedRuleFile file targets duplicates =>
    [("file", .plain file), ("targets", .number targets), ("duplicates", .plain duplicates.name)]
  | orderComputed name steps | runningTarget name steps =>
    [("name", .text name), ("steps", .number steps)]
  | executingRecipe name commands | targetComplete name commands =>
    [("name", .text name), ("commands", .number commands)]
  | spawningProcess arguments => [("args", .plain (Text.Quoted.quoteList arguments))]

/-- Names by which a filter can ask for the event. -/
def fieldNames (event : Event) : List String :=
  let names := "message" :: event.fields.map (·.1)
  match event with
  | spawningProcess .. => "program" :: names
  | _ => names

/-- The part of the program that an event comes from; areas lie in each other as their names begin. -/
def area : Event → String
  | readingRuleFile .. | overridingRecipe .. | parsedRuleFile .. => "mkrun::core::parser"
  | loadedRuleFile .. => "mkrun::cli"
  | graphValidated .. => "mkrun::core::validator"
  | orderComputed .. => "mkrun::core::planner"
  | runningTarget .. | executingRecipe .. | targetComplete .. => "mkrun::core::executor"
  | spawningProcess .. => "mkrun::transport::local"

def isWarning (event : Event) : Bool := event.level == .warn

end Event

def FieldValue.shown : FieldValue → String
  | .number n => toString n
  | .text s => Text.Quoted.quote s
  | .plain s => s

/-- An event as a log shows it, the level set to the right of five places. -/
def Event.line (event : Event) : String :=
  let label := event.level.label
  let shown := event.fields.map fun (key, value) => " " ++ key ++ "=" ++ value.shown
  String.ofList (List.replicate (5 - label.length) ' ') ++ label ++ " " ++ event.message ++
    String.join shown

end BuildRunner
