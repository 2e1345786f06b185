import BuildRunner.Graph.Basic
import BuildRunner.Log.Logged
import BuildRunner.RuleFile.Delivery
import BuildRunner.RuleFile.Line

/-! Reading the lines of a rule file into a graph. Lines are taken one by one and the first fault
ends the reading, so nothing after it matters. -/
namespace BuildRunner.RuleFile

/-- The graph of the lines read so far, and the target that commands belong to. -/
structure Draft where
  graph : Graph
  current : Option String

namespace Draft

def empty : Draft := ⟨.empty, none⟩

/-- A target line. Declaring a target again is an error or a warning, as the policy has it. -/
def declare (policy : DuplicatePolicy) (number : Nat) (name : String) (dependencies : List String)
    (draft : Draft) : Logged Draft :=
  let declared : Draft := ⟨draft.graph.declare name dependencies, some name⟩
  if draft.graph.contains name then
    match policy with
    | .reject => .fail (.duplicateTarget name number)
    | .overwrite => ⟨[.overridingRecipe name number], .ok declared⟩
  else .ok declared

/-- A command line. It needs a target before it and a text besides its marker, in this order. -/
def addCommand (number : Nat) (text : String) (draft : Draft) : Logged Draft :=
  match draft.current with
  | none => .fail (.format number .globalCommand)
  | some name =>
    if isEmptyCommand text then .fail (.format number .emptyCommand)
    else .ok { draft with graph := draft.graph.addCommand name text }

def accept (policy : DuplicatePolicy) (number : Nat) (draft : Draft) : Line → Logged Draft
  | .blank | .comment => .ok draft
  | .invalid => .fail (.format number .unrecognized)
  | .target name dependencies => draft.declare policy number name dependencies
  | .command text => draft.addCommand number text

/-- The lines from the given number on. -/
def acceptAll (policy : DuplicatePolicy) : Nat → Draft → List String → Logged Draft
  | _, draft, [] => .ok draft
  | number, draft, line :: rest =>
    (draft.accept policy number (Line.classify line)).andThen fun next =>
      acceptAll policy (number + 1) next rest

end Draft

/-- A fault of the reader counts once all lines before it are accepted. -/
def parse (policy : DuplicatePolicy) (delivery : Delivery) : Logged Graph :=
  (Draft.acceptAll policy 1 .empty delivery.lines).andThen fun draft =>
    match delivery.fault with
    | some fault => .fail (.io fault)
    | none => ⟨[.parsedRuleFile draft.graph.size], .ok draft.graph⟩

def parseText (policy : DuplicatePolicy) (text : String) : Logged Graph :=
  parse policy (.ofText text)

end BuildRunner.RuleFile
