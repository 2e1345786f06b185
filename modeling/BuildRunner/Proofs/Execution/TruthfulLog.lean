import BuildRunner.Proofs.Execution.FaultPrecedence
import BuildRunner.Proofs.Execution.LogReadings
import BuildRunner.Proofs.Runner.LocalReply
import Mathlib.Algebra.GroupWithZero.Nat

/-! The log of a run against the run. Its milestones come in one order, it tells the target as complete
just when there is a report, and where a run stops can be read off it. -/
namespace BuildRunner

namespace Graph

/-- How the start of a recipe is told. -/
def recipeStart (g : Graph) (name : String) : Event :=
  .executingRecipe name (g.recipe name).length

/-- What is told before the first recipe. -/
def opening (g : Graph) (target : String) : List Event :=
  [.graphValidated g.size, .orderComputed target (g.postorder target).length,
    .runningTarget target (g.postorder target).length]

/-- All milestones of a run that comes to its end. -/
def wholeTrace (g : Graph) (target : String) : List Event :=
  g.opening target ++ (g.postorder target).map g.recipeStart ++
    [.targetComplete target (Execution.commandCount g (g.postorder target))]

@[simp] theorem startedRecipes_recipeStarts (g : Graph) (names : List String) :
    startedRecipes (names.map g.recipeStart) = names := by
  simp [startedRecipes, List.filterMap_map, Function.comp_def, recipeStart]

private theorem sum_recipeCounts (g : Graph) (names : List String) :
    (recipeCounts (names.map g.recipeStart)).sum = Execution.commandCount g names := by
  induction names with
  | nil => rfl
  | cons name rest ih =>
    rw [Execution.commandCount, ← ih]
    rfl

end Graph

namespace Execution
variable {σ : Type} {g : Graph} {runner : Runner σ} {state middle : σ} {name target : String}

/-- How the recipes that a log tells as started stand to the end of an execution. -/
inductive Traced (g : Graph) (runner : Runner σ) (order : List String) (x : Outcome σ RunReport) :
    Prop
  | complete {report : RunReport} (result : x.result = .ok report)
      (started : milestones x.log = order.map g.recipeStart) (order_eq : report.order = order)
      (count : report.commandsRun = commandCount g order)
  | noCommands {before after : List String} {name : String}
      (result : x.result = .error (.targetHasNoCommands name))
      (started : milestones x.log = before.map g.recipeStart)
      (place : order = before ++ name :: after) (empty : g.recipe name = [])
      (succeeded : ∀ d ∈ x.dispatches, d.succeeded = true)
  | refused {before after : List String} {earlier : List Dispatch} {d : Dispatch} {middle : σ}
      {error : BuildError} (result : x.result = .error error)
      (started : milestones x.log = (before ++ [d.target]).map g.recipeStart)
      (place : order = before ++ d.target :: after) (last : x.dispatches = earlier ++ [d])
      (failed : d.succeeded = false)
      (refusal : (runner.execute d.command middle).result = .error error)

private theorem milestones_executeTarget (h : g.recipe name ≠ []) :
    milestones (executeTarget g runner name state).log = [g.recipeStart name] := by
  rw [executeTarget_log h, ← List.singleton_append, milestones_append, milestones_runCommands]
  rfl

private theorem milestones_executeOrder_append {before after texts : List String}
    (hne : ∀ name ∈ before, g.recipe name ≠ [])
    (h : runner.Accepts state (before.flatMap g.recipe) texts middle) :
    milestones (executeOrder g runner (before ++ after) state).log =
      before.map g.recipeStart ++ milestones (executeOrder g runner after middle).log := by
  induction before generalizing state texts with
  | nil =>
    cases h
    rfl
  | cons name before ih =>
    obtain ⟨hname, hbefore⟩ := List.forall_mem_cons.mp hne
    obtain ⟨shown, later, first, rfl, hs, hl⟩ := h.split
    have hfirst := executeTarget_of_accepts hname hs
    rw [List.cons_append, executeOrder, Outcome.andThen_of_ok hfirst.result, milestones_append,
      milestones_executeTarget hname, hfirst.state]
    exact congrArg ([g.recipeStart name] ++ ·) (ih hbefore hl)

private theorem succeeded_of_mem_completed {names : List String} {d : Dispatch}
    (h : d ∈ names.flatMap g.completed) : d.succeeded = true := by
  obtain ⟨name, -, hd⟩ := List.mem_flatMap.mp h
  obtain ⟨command, -, rfl⟩ := List.mem_map.mp hd
  rfl

private theorem executeOrder_traced (g : Graph) (runner : Runner σ) (order : List String)
    (state : σ) :
    Traced g runner order (executeOrder g runner order state) := by
  have hend := executeOrder_gives_iff.mp (Outcome.gives_self (executeOrder g runner order state))
  generalize hresult : (executeOrder g runner order state).result = result at hend
  generalize (executeOrder g runner order state).state = last at hend
  generalize hdispatches : (executeOrder g runner order state).dispatches = dispatches at hend
  cases hend with
  | complete recipes accepted =>
    have hall : milestones (executeOrder g runner (order ++ []) state).log = _ :=
      milestones_executeOrder_append recipes accepted
    rw [List.append_nil] at hall
    exact .complete hresult (hall.trans (List.append_nil _)) rfl rfl
  | @noCommands before after texts name last place recipes empty accepted =>
    have hstop : milestones (executeOrder g runner (name :: after) last).log = [] := by
      have hfail : executeTarget g runner name last = .fail (.targetHasNoCommands name) last := by
        rw [executeTarget, empty]
      rw [executeOrder, hfail]
      rfl
    refine .noCommands hresult ?_ place empty ?_
    · rw [place, milestones_executeOrder_append recipes accepted, hstop, List.append_nil]
    · rw [hdispatches]
      exact fun d hd => succeeded_of_mem_completed hd
  | @refused before after done left texts name command middle error place recipes recipe accepted
      refusal =>
    obtain ⟨shown, later, first, rfl, hs, hl⟩ := accepted.split
    have hname : g.recipe name ≠ [] := by simp [recipe]
    have hstop : milestones (executeOrder g runner (name :: after) first).log =
        [g.recipeStart name] := by
      rw [executeOrder, Outcome.andThen_of_error (executeTarget_of_refused recipe hl refusal).result]
      exact milestones_executeTarget hname
    refine .refused (d := ⟨name, command, false⟩) hresult ?_ place hdispatches rfl refusal
    rw [place, milestones_executeOrder_append recipes hs, hstop, List.map_append]
    rfl

/-- What is told after the last recipe. -/
def closing (target : String) : Except BuildError RunReport → List Event
  | .ok report => [.targetComplete target report.commandsRun]
  | .error _ => []

private theorem run_log_of_cleared (h : g.Cleared target) (runner : Runner σ) (state : σ) :
    (run g runner target state).log =
      g.opening target ++ (executeOrder g runner (g.postorder target) state).log ++
        closing target (run g runner target state).result := by
  rw [(run_of_cleared h).result, run_of_valid (Graph.validate_of_closed h.acyclic h.closed),
    Graph.plan_of_mem h.declared, Outcome.ofLogged_ok_andThen]
  cases hr : (executeOrder g runner (g.postorder target) state).result with
  | error error => simp [Outcome.after, Outcome.andThen, hr, Graph.opening, closing]
  | ok report => simp [Outcome.after, Outcome.andThen, hr, Graph.opening, closing]

private theorem milestones_run_of_cleared (h : g.Cleared target) (runner : Runner σ) (state : σ) :
    milestones (run g runner target state).log =
      g.opening target ++ milestones (executeOrder g runner (g.postorder target) state).log ++
        closing target (run g runner target state).result := by
  rw [run_log_of_cleared h, milestones_append, milestones_append]
  cases (run g runner target state).result <;> rfl

private theorem startedRecipes_run_of_cleared (h : g.Cleared target) (runner : Runner σ)
    (state : σ) :
    startedRecipes (run g runner target state).log =
      startedRecipes (executeOrder g runner (g.postorder target) state).log := by
  rw [run_log_of_cleared h, startedRecipes_append, startedRecipes_append]
  cases (run g runner target state).result <;> exact List.append_nil _

/-- A run with a report has told everything, and the report has the plan and its number of commands. -/
theorem milestones_run_of_ok {report : RunReport}
    (hr : (run g runner target state).result = .ok report) :
    g.Cleared target ∧ milestones (run g runner target state).log = g.wholeTrace target ∧
      report.order = g.postorder target ∧
      report.commandsRun = commandCount g (g.postorder target) := by
  obtain ⟨error, log, -, -, hstopped⟩ | hcleared := run_stopped_early_or_cleared g target
  · rw [hstopped] at hr
    cases hr
  refine ⟨hcleared, ?_⟩
  have hx := (run_of_cleared hcleared).result.symm.trans hr
  cases executeOrder_traced g runner (g.postorder target) state with
  | @complete report' result started order_eq count =>
    obtain rfl : report = report' := Except.ok.inj (hx.symm.trans result)
    refine ⟨?_, order_eq, count⟩
    rw [milestones_run_of_cleared hcleared, started, hr, closing, count]
    rfl
  | noCommands result | refused result =>
    rw [result] at hx
    cases hx

/-- A run that fails has told some first part of this, without the end. -/
theorem milestones_run_of_error {error : BuildError}
    (hr : (run g runner target state).result = .error error) :
    milestones (run g runner target state).log <+:
      g.opening target ++ (g.postorder target).map g.recipeStart := by
  obtain ⟨error, log, -, hlog, hstopped⟩ | hcleared := run_stopped_early_or_cleared g target
  · rw [hstopped]
    rcases hlog with rfl | rfl
    · exact List.nil_prefix
    · exact ⟨_, rfl⟩
  rw [milestones_run_of_cleared hcleared, hr, closing, List.append_nil, List.prefix_append_right_inj]
  cases executeOrder_traced g runner (g.postorder target) state with
  | complete _ started => exact ⟨[], by rw [started, List.append_nil]⟩
  | @noCommands before after name _ started place =>
    rw [started, place, List.map_append]
    exact List.prefix_append _ _
  | @refused before after earlier d middle error _ started place =>
    rw [started, place]
    exact ⟨after.map g.recipeStart, by simp⟩

private theorem processesUnder_run (g : Graph) (runner : Runner σ) (target : String) (state : σ) :
    processesUnder none (run g runner target state).log =
      runner.processes state (run g runner target state).dispatches := by
  obtain ⟨error, log, -, hlog, hstopped⟩ | hcleared := run_stopped_early_or_cleared g target
  · rw [hstopped]
    rcases hlog with rfl | rfl <;> rfl
  rw [run_log_of_cleared hcleared, (run_of_cleared hcleared).dispatches, processesUnder_append,
    processesUnder_append]
  have hopening : processesUnder none (g.opening target) = [] := rfl
  have hclosing : ∀ current result, processesUnder current (closing target result) = [] := by
    intro current result
    cases result <;> rfl
  rw [hopening, hclosing, List.nil_append, List.append_nil]
  exact processesUnder_executeOrder g runner (g.postorder target) state _

/-- The end of the target is told by the runs that have a report and by no others. -/
theorem targetComplete_mem_log_iff (g : Graph) (runner : Runner σ) (target : String) (state : σ) :
    (∃ name commands, .targetComplete name commands ∈ (run g runner target state).log) ↔
      ∃ report, (run g runner target state).result = .ok report := by
  cases hr : (run g runner target state).result with
  | ok report =>
    obtain ⟨-, hlog, -⟩ := milestones_run_of_ok hr
    refine iff_of_true ⟨target, commandCount g (g.postorder target), ?_⟩ ⟨report, rfl⟩
    apply (mem_milestones rfl).mp
    rw [hlog, Graph.wholeTrace]
    exact List.mem_append_right _ (List.mem_singleton_self _)
  | error error =>
    refine iff_of_false ?_ nofun
    rintro ⟨name, commands, hmem⟩
    have hfirst := (milestones_run_of_error hr).subset ((mem_milestones rfl).mpr hmem)
    simp [Graph.opening, Graph.recipeStart] at hfirst

/-- Where a failed run has stopped: before execution, at a name without commands, or at a command that
the runner refused. -/
theorem run_stop_cases {error : BuildError}
    (hr : (run g runner target state).result = .error error) :
    let outcome := run g runner target state
    (error.precedesExecution = true ∧ outcome.dispatches = [] ∧ startedRecipes outcome.log = []) ∨
      (∃ name later, error = .targetHasNoCommands name ∧
        g.postorder target = startedRecipes outcome.log ++ name :: later ∧ g.recipe name = [] ∧
        ∀ d ∈ outcome.dispatches, d.succeeded = true) ∨
      ∃ earlier d middle, outcome.dispatches = earlier ++ [d] ∧ d.succeeded = false ∧
        (runner.execute d.command middle).result = .error error ∧
        (startedRecipes outcome.log).getLast? = some d.target := by
  intro outcome
  obtain ⟨early, log, hearly, hlog, hstopped⟩ | hcleared := run_stopped_early_or_cleared g target
  · have hrun : outcome = ⟨.error early, state, log, []⟩ := hstopped σ runner state
    have herror : outcome.result = .error error := hr
    rw [hrun] at herror ⊢
    cases herror
    refine .inl ⟨hearly, rfl, ?_⟩
    rcases hlog with rfl | rfl <;> rfl
  have hgives : (run g runner target state).Gives _ _ _ := run_of_cleared hcleared
  have hx := hgives.result.symm.trans hr
  have hstarts := startedRecipes_run_of_cleared hcleared runner state
  have htold := startedRecipes_milestones
    (executeOrder g runner (g.postorder target) state).log
  cases executeOrder_traced g runner (g.postorder target) state with
  | complete result =>
    rw [result] at hx
    cases hx
  | @noCommands before after name result started place empty succeeded =>
    rw [result] at hx
    cases hx
    rw [started, Graph.startedRecipes_recipeStarts] at htold
    refine .inr (.inl ⟨name, after, rfl, ?_, empty, ?_⟩)
    · rw [hstarts, ← htold, place]
    · rw [hgives.dispatches]
      exact succeeded
  | @refused before after earlier d middle error' result started place last failed refusal =>
    rw [result] at hx
    cases hx
    rw [started, Graph.startedRecipes_recipeStarts] at htold
    refine .inr (.inr ⟨earlier, d, middle, hgives.dispatches.trans last, failed, refusal, ?_⟩)
    rw [hstarts, ← htold, List.getLast?_concat]

private theorem milestones_run_isPrefix (g : Graph) (runner : Runner σ) (target : String)
    (state : σ) :
    milestones (run g runner target state).log <+: g.wholeTrace target := by
  cases hr : (run g runner target state).result with
  | error error => exact (milestones_run_of_error hr).trans (List.prefix_append _ _)
  | ok report => exact ⟨[], by rw [(milestones_run_of_ok hr).2.1, List.append_nil]⟩

private theorem countP_isSpawning_run (g : Graph) (runner : Runner σ) (target : String)
    (state : σ) :
    (run g runner target state).log.countP Event.isSpawning =
      (runner.processes state (run g runner target state).dispatches).length := by
  rw [← length_processesUnder none, processesUnder_run]

private theorem run_log_prefix_of_no_process
    (h : ∀ command state, (runner.execute command state).spawning = none) :
    (run g runner target state).log <+: g.wholeTrace target := by
  have hcount := countP_isSpawning_run g runner target state
  rw [Runner.processes_eq_nil h, List.length_nil, List.countP_eq_zero] at hcount
  rw [← milestones_eq_self fun event he => Bool.eq_false_iff.mpr (hcount event he)]
  exact milestones_run_isPrefix g runner target state

private theorem run_dispatches_of_ok {report : RunReport}
    (hr : (run g runner target state).result = .ok report) :
    (∀ d ∈ (run g runner target state).dispatches, d.succeeded = true) ∧
      (run g runner target state).dispatches.length = report.commandsRun := by
  obtain ⟨hcleared, -, -, hcount⟩ := milestones_run_of_ok hr
  have hgives : (run g runner target state).Gives _ _ _ := run_of_cleared hcleared
  have hend := executeOrder_gives_iff.mp
    (Outcome.gives_self (executeOrder g runner (g.postorder target) state))
  rw [hgives.result.symm.trans hr] at hend
  rw [hgives.dispatches]
  generalize (executeOrder g runner (g.postorder target) state).dispatches = dispatches at hend ⊢
  generalize (executeOrder g runner (g.postorder target) state).state = last at hend
  cases hend with
  | complete => exact ⟨fun d hd => succeeded_of_mem_completed hd, length_completed g _⟩

end Execution

private theorem Runner.onHost_starts {η : Type} (host : Host η) {raw text : String}
    {state : Writer × η} (h : ((Runner.onHost host).execute raw state).result = .ok text) :
    ((Runner.onHost host).execute raw state).spawning.isSome = true := by
  have hreplies := Runner.onHost_replies host raw state
  generalize (Runner.onHost host).execute raw state = reply at h hreplies
  cases hreplies with
  | completed => rfl
  | empty | unresolved | echoRefused | notSpawned | outputRefused | failed => cases h

namespace Execution
variable {σ : Type}

private theorem countP_isSpawning_onHost {η : Type} {host : Host η} {g : Graph} {target : String}
    {machine : Writer × η} {report : RunReport}
    (hr : (run g (Runner.onHost host) target machine).result = .ok report) :
    (run g (Runner.onHost host) target machine).log.countP Event.isSpawning =
      report.commandsRun := by
  obtain ⟨hsucceeded, hlength⟩ := run_dispatches_of_ok hr
  rw [countP_isSpawning_run, ← hlength]
  exact Runner.length_processes (fun _ _ _ h => Runner.onHost_starts host h)
    (replays_run g _ target machine) hsucceeded

/-- For every graph, target and runner, the log is a first part of one sequence of milestones, with each
process under the recipe of its command, and without anything between them where the runner starts no
process. The end of the target is told just when there is a report; it comes last, and the numbers in
the log are then those of the report and of the plan. Otherwise the recipes that have been started tell where the run
has stopped. The last part counts the processes of a local runner. -/
theorem run_log_tells_the_run (g : Graph) (runner : Runner σ) (target : String) (state : σ) :
    let outcome := run g runner target state
    milestones outcome.log <+: g.wholeTrace target ∧
    processesUnder none outcome.log = runner.processes state outcome.dispatches ∧
    ((∀ command state, (runner.execute command state).spawning = none) →
      outcome.log <+: g.wholeTrace target) ∧
    ((∃ name commands, .targetComplete name commands ∈ outcome.log) ↔
      ∃ report, outcome.result = .ok report) ∧
    (∀ report, outcome.result = .ok report →
      (g.plan target).result = .ok report.order ∧
      milestones outcome.log = g.wholeTrace target ∧
      outcome.log.getLast? = some (.targetComplete target report.commandsRun) ∧
      (∀ name commands, .targetComplete name commands ∈ outcome.log →
        commands = report.commandsRun) ∧
      (recipeCounts outcome.log).sum = report.commandsRun ∧
      ∀ name steps, .orderComputed name steps ∈ outcome.log ∨ .runningTarget name steps ∈ outcome.log →
        steps = report.order.length) ∧
    (∀ error, outcome.result = .error error →
      (error.precedesExecution = true ∧ outcome.dispatches = [] ∧
        startedRecipes outcome.log = []) ∨
      (∃ name later, error = .targetHasNoCommands name ∧
        g.postorder target = startedRecipes outcome.log ++ name :: later ∧ g.recipe name = [] ∧
        ∀ d ∈ outcome.dispatches, d.succeeded = true) ∨
      ∃ earlier d middle, outcome.dispatches = earlier ++ [d] ∧ d.succeeded = false ∧
        (runner.execute d.command middle).result = .error error ∧
        (startedRecipes outcome.log).getLast? = some d.target) ∧
    ∀ (η : Type) (host : Host η) (machine : Writer × η) (report : RunReport),
      (run g (Runner.onHost host) target machine).result = .ok report →
      (run g (Runner.onHost host) target machine).log.countP Event.isSpawning =
        report.commandsRun := by
  intro outcome
  refine ⟨milestones_run_isPrefix g runner target state, processesUnder_run g runner target state,
    fun h => run_log_prefix_of_no_process h, targetComplete_mem_log_iff g runner target state,
    fun report hr => ?_, fun error hr => run_stop_cases hr,
    fun η host machine report hr => countP_isSpawning_onHost hr⟩
  obtain ⟨hcleared, hlog, horder, hcount⟩ := milestones_run_of_ok hr
  refine ⟨?_, hlog, ?_, fun name commands hmem => ?_, ?_, fun name steps hmem => ?_⟩
  · rw [horder, Graph.plan_of_mem hcleared.declared]
  · rw [run_log_of_cleared hcleared, hr, closing, List.getLast?_concat]
  · have hmem' := (mem_milestones rfl).mpr hmem
    rw [hlog] at hmem'
    have heq : name = target ∧ commands = commandCount g (g.postorder target) := by
      simpa [Graph.wholeTrace, Graph.opening, Graph.recipeStart] using hmem'
    rw [heq.2, hcount]
  · have hsum := recipeCounts_milestones outcome.log
    rw [hlog] at hsum
    rw [← hsum, hcount, ← Graph.sum_recipeCounts]
    simp [Graph.wholeTrace, Graph.opening, recipeCounts]
  · have hmem' := hmem.imp (mem_milestones rfl).mpr (mem_milestones rfl).mpr
    rw [hlog] at hmem'
    have heq : name = target ∧ steps = (g.postorder target).length := by
      simpa [Graph.wholeTrace, Graph.opening, Graph.recipeStart] using hmem'
    rw [heq.2, horder]

end Execution
end BuildRunner
