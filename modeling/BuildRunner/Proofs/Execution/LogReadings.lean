import BuildRunner.Proofs.Execution.Dispatches
import Mathlib.Data.List.Basic

/-! What can be read off a log: its milestones, which are all events but those of processes; how many
commands each recipe has; and the processes, each with the recipe that was started last before it. -/
namespace BuildRunner
variable {first second log : List Event} {current : Option String}

def Event.isSpawning : Event → Bool
  | .spawningProcess .. => true
  | _ => false

/-- The events of the run itself. What a runner tells of its processes is left out. -/
def milestones (log : List Event) : List Event := log.filter (!·.isSpawning)

/-- The numbers of commands that the starts of recipes tell. -/
def recipeCounts (log : List Event) : List Nat :=
  log.filterMap fun
    | .executingRecipe _ commands => some commands
    | _ => none

/-- The processes of a log with the recipe that they stand under. Before the first recipe of the log it
is the given one. -/
def processesUnder : Option String → List Event → List (Option String × List String)
  | _, [] => []
  | _, .executingRecipe name _ :: rest => processesUnder (some name) rest
  | current, .spawningProcess arguments :: rest => (current, arguments) :: processesUnder current rest
  | current, _ :: rest => processesUnder current rest

@[simp] theorem milestones_append (first second : List Event) :
    milestones (first ++ second) = milestones first ++ milestones second :=
  List.filter_append first second

theorem mem_milestones {event : Event} (h : event.isSpawning = false) :
    event ∈ milestones log ↔ event ∈ log := by
  simp [milestones, h]

theorem milestones_eq_self (h : ∀ event ∈ log, event.isSpawning = false) : milestones log = log :=
  List.filter_eq_self.mpr fun event he => by simp [h event he]

private theorem milestones_spawnings (processes : List (List String)) :
    milestones (processes.map .spawningProcess) = [] := by
  rw [milestones, List.filter_eq_nil_iff]
  intro event he
  obtain ⟨arguments, -, rfl⟩ := List.mem_map.mp he
  simp [Event.isSpawning]

private theorem filterMap_milestones {α : Type} (f : Event → Option α)
    (h : ∀ arguments, f (.spawningProcess arguments) = none) (log : List Event) :
    (milestones log).filterMap f = log.filterMap f := by
  rw [milestones, List.filterMap_filter]
  refine List.filterMap_congr fun event _ => ?_
  cases event <;> simp [Event.isSpawning, h]

theorem startedRecipes_milestones (log : List Event) :
    startedRecipes (milestones log) = startedRecipes log :=
  filterMap_milestones _ (fun _ => rfl) log

theorem recipeCounts_milestones (log : List Event) :
    recipeCounts (milestones log) = recipeCounts log :=
  filterMap_milestones _ (fun _ => rfl) log

/-- What stands behind some events stands under the last recipe that they start. -/
theorem processesUnder_append (current : Option String) (first second : List Event) :
    processesUnder current (first ++ second) =
      processesUnder current first ++
        processesUnder ((startedRecipes first).getLast?.or current) second := by
  induction first generalizing current with
  | nil => rfl
  | cons event first ih =>
    cases event with
    | executingRecipe name commands =>
      have hlast : (startedRecipes (.executingRecipe name commands :: first)).getLast?.or current =
          (startedRecipes first).getLast?.or (some name) := by
        simp [startedRecipes, List.getLast?_cons, Option.or_some]
      rw [hlast]
      exact ih (some name)
    | spawningProcess arguments => exact congrArg (_ :: ·) (ih current)
    | _ => exact ih current

theorem length_processesUnder (current : Option String) (log : List Event) :
    (processesUnder current log).length = log.countP Event.isSpawning := by
  induction log generalizing current with
  | nil => rfl
  | cons event log ih =>
    cases event with
    | spawningProcess arguments =>
      rw [List.countP_cons_of_pos rfl, ← ih current]
      rfl
    | executingRecipe name commands => exact ih (some name)
    | _ => exact ih current

/-- The processes that a runner sets out to start for some dispatches, one after the other, each with
the recipe that its command belongs to. -/
def Runner.processes {σ : Type} (runner : Runner σ) :
    σ → List Dispatch → List (Option String × List String)
  | _, [] => []
  | state, d :: rest =>
    (runner.execute d.command state).spawning.toList.map (some d.target, ·) ++
      processes runner (runner.execute d.command state).state rest

namespace Runner
variable {σ : Type} {runner : Runner σ} {state middle last : σ} {before : List Dispatch}

private theorem processes_append (h : Replays runner state before middle) (after : List Dispatch) :
    runner.processes state (before ++ after) =
      runner.processes state before ++ runner.processes middle after := by
  induction before generalizing state with
  | nil =>
    obtain rfl : middle = state := h
    rfl
  | cons d before ih =>
    rw [List.cons_append, processes, ih h.2, processes, List.append_assoc]

/-- A runner that starts a process for every command that it accepts starts one for each dispatch that
succeeds. -/
theorem length_processes
    (starts : ∀ command state text, (runner.execute command state).result = .ok text →
      (runner.execute command state).spawning.isSome = true)
    (h : Replays runner state before last) (succeeded : ∀ d ∈ before, d.succeeded = true) :
    (runner.processes state before).length = before.length := by
  induction before generalizing state with
  | nil => rfl
  | cons d before ih =>
    obtain ⟨hd, hbefore⟩ := List.forall_mem_cons.mp succeeded
    have hok := h.1.trans hd
    cases hr : (runner.execute d.command state).result with
    | error error =>
      rw [hr] at hok
      cases hok
    | ok text =>
      obtain ⟨arguments, ha⟩ := Option.isSome_iff_exists.mp (starts _ _ _ hr)
      simp [processes, ha, ih h.2 hbefore]

theorem processes_eq_nil (h : ∀ command state, (runner.execute command state).spawning = none)
    (state : σ) (dispatches : List Dispatch) : runner.processes state dispatches = [] := by
  induction dispatches generalizing state with
  | nil => rfl
  | cons d rest ih => simp [processes, h, ih]

end Runner

private theorem Outcome.processesUnder_andThen {σ α β : Type} {x : Outcome σ α}
    {next : α → σ → Outcome σ β}
    {runner : Runner σ} {state : σ} (hreplays : Replays runner state x.dispatches x.state)
    (hx : processesUnder current x.log = runner.processes state x.dispatches)
    (hnext : ∀ value, processesUnder ((startedRecipes x.log).getLast?.or current)
      (next value x.state).log = runner.processes x.state (next value x.state).dispatches) :
    processesUnder current (x.andThen next).log =
      runner.processes state (x.andThen next).dispatches := by
  cases hr : x.result with
  | error error =>
    rw [Outcome.andThen_of_error hr]
    exact hx
  | ok value =>
    rw [Outcome.andThen_of_ok hr, processesUnder_append, hx, hnext value,
      Runner.processes_append hreplays]

namespace Execution
variable {σ : Type} {g : Graph} {runner : Runner σ} {state : σ}

private theorem milestones_dispatch (runner : Runner σ) (target command : String) (state : σ) :
    milestones (dispatch runner target command state).log = [] :=
  milestones_spawnings _

private theorem processesUnder_dispatch (runner : Runner σ) (target command : String) (state : σ) :
    processesUnder (some target) (dispatch runner target command state).log =
      runner.processes state (dispatch runner target command state).dispatches := by
  simp only [dispatch, Runner.processes]
  cases (runner.execute command state).spawning <;> rfl

/-- The commands of a recipe tell of nothing but processes. -/
theorem milestones_runCommands (runner : Runner σ) (target : String) (commands : List String)
    (state : σ) : milestones (runCommands runner target commands state).log = [] := by
  induction commands generalizing state with
  | nil => rfl
  | cons command rest ih =>
    unfold runCommands
    cases hr : (dispatch runner target command state).result with
    | error error =>
      rw [Outcome.andThen_of_error hr]
      exact milestones_dispatch runner target command state
    | ok shown =>
      rw [Outcome.andThen_of_ok hr, milestones_append, milestones_dispatch]
      exact ih _

private theorem processesUnder_runCommands (runner : Runner σ) (target : String)
    (commands : List String) (state : σ) :
    processesUnder (some target) (runCommands runner target commands state).log =
      runner.processes state (runCommands runner target commands state).dispatches := by
  induction commands generalizing state with
  | nil => rfl
  | cons command rest ih =>
    refine Outcome.processesUnder_andThen (replays_dispatch runner target command state)
      (processesUnder_dispatch runner target command state) fun shown => ?_
    rw [startedRecipes_dispatch]
    exact ih _

theorem executeTarget_log {name : String} (h : g.recipe name ≠ []) :
    (executeTarget g runner name state).log =
      .executingRecipe name (g.recipe name).length ::
        (runCommands runner name (g.recipe name) state).log := by
  unfold executeTarget
  split
  · contradiction
  · rfl

private theorem processesUnder_executeTarget (g : Graph) (runner : Runner σ) (name : String)
    (state : σ) (current : Option String) :
    processesUnder current (executeTarget g runner name state).log =
      runner.processes state (executeTarget g runner name state).dispatches := by
  rw [executeTarget_dispatches]
  by_cases h : g.recipe name = []
  · rw [executeTarget, h]
    rfl
  · rw [executeTarget_log h]
    exact processesUnder_runCommands runner name (g.recipe name) state

/-- Processes stand under the recipe that their command belongs to, wherever the log is continued
from. -/
theorem processesUnder_executeOrder (g : Graph) (runner : Runner σ) (order : List String)
    (state : σ) (current : Option String) :
    processesUnder current (executeOrder g runner order state).log =
      runner.processes state (executeOrder g runner order state).dispatches := by
  induction order generalizing state current with
  | nil => rfl
  | cons name rest ih =>
    exact Outcome.processesUnder_andThen (replays_executeTarget g runner name state)
      (processesUnder_executeTarget g runner name state current) fun report => ih _ _

end Execution
end BuildRunner
