import BuildRunner.Graph.Plan
import BuildRunner.Graph.Validation
import BuildRunner.Runner.Basic

/-! Running targets: the recipes of the planned names, command by command. The first failure ends
the run and nothing after it is dispatched. -/
namespace BuildRunner

/-- A command handed to the runner, with the target whose recipe it belongs to. -/
structure Dispatch where
  target : String
  command : String
  succeeded : Bool
deriving DecidableEq, Repr

/-- A result with the runner's state after it, the events before it, and what was dispatched. -/
structure Outcome (σ α : Type) where
  result : Except BuildError α
  state : σ
  log : List Event
  dispatches : List Dispatch

namespace Outcome
variable {σ α β : Type}

def ok (value : α) (state : σ) : Outcome σ α := ⟨.ok value, state, [], []⟩

def fail (error : BuildError) (state : σ) : Outcome σ α := ⟨.error error, state, [], []⟩

def ofLogged (x : Logged α) (state : σ) : Outcome σ α := ⟨x.result, state, x.log, []⟩

/-- Goes on from the value and the state, unless there was an error. -/
def andThen (first : Outcome σ α) (next : α → σ → Outcome σ β) : Outcome σ β :=
  match first.result with
  | .error error => ⟨.error error, first.state, first.log, first.dispatches⟩
  | .ok value =>
    let second := next value first.state
    ⟨second.result, second.state, first.log ++ second.log, first.dispatches ++ second.dispatches⟩

def map (f : α → β) (x : Outcome σ α) : Outcome σ β :=
  ⟨x.result.map f, x.state, x.log, x.dispatches⟩

def after (events : List Event) (x : Outcome σ α) : Outcome σ α := { x with log := events ++ x.log }

end Outcome

structure TargetReport where
  output : String
  commandsRun : Nat
deriving DecidableEq, Repr

structure RunReport where
  order : List String
  commandsRun : Nat
  output : String
deriving DecidableEq, Repr

namespace RunReport

def empty : RunReport := ⟨[], 0, ""⟩

def cons (name : String) (first : TargetReport) (rest : RunReport) : RunReport :=
  ⟨name :: rest.order, first.commandsRun + rest.commandsRun, first.output ++ rest.output⟩

end RunReport

namespace Execution
variable {σ : Type}

def dispatch (runner : Runner σ) (target command : String) (state : σ) : Outcome σ String :=
  let reply := runner.execute command state
  ⟨reply.result, reply.state, reply.spawning.toList.map .spawningProcess,
    [⟨target, command, reply.result.isOk⟩]⟩

/-- The texts of the commands, joined. -/
def runCommands (runner : Runner σ) (target : String) : List String → σ → Outcome σ String
  | [], state => .ok "" state
  | command :: rest, state =>
    (dispatch runner target command state).andThen fun text next =>
      (runCommands runner target rest next).map (text ++ ·)

/-- A name without commands is an error, whether or not it is a target. -/
def executeTarget (g : Graph) (runner : Runner σ) (name : String) (state : σ) :
    Outcome σ TargetReport :=
  match g.recipe name with
  | [] => .fail (.targetHasNoCommands name) state
  | recipe =>
    ((runCommands runner name recipe state).map (⟨·, recipe.length⟩)).after
      [.executingRecipe name recipe.length]

def executeOrder (g : Graph) (runner : Runner σ) : List String → σ → Outcome σ RunReport
  | [], state => .ok .empty state
  | name :: rest, state =>
    (executeTarget g runner name state).andThen fun first next =>
      (executeOrder g runner rest next).map (.cons name first)

/-- Validates the whole graph, plans the target and executes the plan. -/
def run (g : Graph) (runner : Runner σ) (target : String) (state : σ) : Outcome σ RunReport :=
  (Outcome.ofLogged g.validate state).andThen fun _ state =>
  (Outcome.ofLogged (g.plan target) state).andThen fun order state =>
  ((executeOrder g runner order state).after [.runningTarget target order.length]).andThen
    fun report state => ⟨.ok report, state, [.targetComplete target report.commandsRun], []⟩

end Execution
end BuildRunner
