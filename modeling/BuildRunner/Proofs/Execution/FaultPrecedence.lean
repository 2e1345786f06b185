import BuildRunner.Application
import BuildRunner.Proofs.Execution.FailFast
import BuildRunner.Proofs.Execution.Stages
import BuildRunner.Proofs.Graph.Validation
import BuildRunner.Proofs.RuleFile.Reading

/-! What is checked before anything runs. Faults count in one order: those of the rule file, cycles,
missing dependencies, an unknown target. A run that one of them ends has not called its runner. -/
namespace BuildRunner

/-- Whether an error can come from a check before execution. -/
def BuildError.precedesExecution : BuildError → Bool
  | .format .. | .duplicateTarget .. | .unreadable .. | .cycleDetected .. | .missingDependency ..
  | .targetNotFound .. => true
  | .targetHasNoCommands .. | .binaryNotFound .. | .commandFailed .. | .io .. => false

private theorem BuildError.precedesExecution_of_isOfRuleFile {error : BuildError}
    (h : error.isOfRuleFile = true) : error.precedesExecution = true := by
  cases error <;> simp_all [isOfRuleFile, precedesExecution]

/-- Nothing stands against executing the plan of the target. -/
structure Graph.Cleared (g : Graph) (target : String) : Prop where
  acyclic : g.Acyclic
  closed : g.Closed
  declared : target ∈ g.targets

namespace Execution
variable {σ : Type} {g : Graph} {runner : Runner σ} {target : String} {state last : σ}

private theorem run_of_unknown (ha : g.Acyclic) (hc : g.Closed) (h : target ∉ g.targets) :
    run g runner target state =
      ⟨.error (.targetNotFound target), state, [.graphValidated g.size], []⟩ := by
  rw [run_of_valid (Graph.validate_of_closed ha hc), Graph.plan_of_not_mem h,
    Outcome.ofLogged_fail_andThen]
  rfl

theorem run_of_cleared (h : g.Cleared target) :
    (run g runner target state).Gives (executeOrder g runner (g.postorder target) state).result
      (executeOrder g runner (g.postorder target) state).state
      (executeOrder g runner (g.postorder target) state).dispatches := by
  rw [run_of_valid (Graph.validate_of_closed h.acyclic h.closed), Graph.plan_of_mem h.declared,
    Outcome.ofLogged_ok_andThen]
  have hx := Outcome.gives_self (executeOrder g runner (g.postorder target) state)
  have hcomplete : ∀ report state, (⟨.ok report, state,
      [.targetComplete target report.commandsRun], []⟩ : Outcome σ RunReport).Gives (.ok report)
        state [] := fun _ _ => ⟨rfl, rfl, rfl⟩
  exact (((hx.after _).andThen_log hcomplete).after _).after _

/-- What stops a run before execution does so for every runner. At most the checks of the graph are told
then. -/
theorem run_stopped_early_or_cleared (g : Graph) (target : String) :
    (∃ error log, error.precedesExecution = true ∧ (log = [] ∨ log = [.graphValidated g.size]) ∧
        ∀ (σ : Type) (runner : Runner σ) (state : σ),
          run g runner target state = ⟨.error error, state, log, []⟩) ∨ g.Cleared target := by
  by_cases ha : g.Acyclic
  · by_cases hc : g.Closed
    · by_cases ht : target ∈ g.targets
      · exact .inr ⟨ha, hc, ht⟩
      · exact .inl ⟨_, _, rfl, .inr rfl, fun _ _ _ => run_of_unknown ha hc ht⟩
    · exact .inl ⟨_, _, rfl, .inl rfl,
        fun _ _ _ => run_of_invalid (Graph.validate_of_open ha hc)⟩
  · obtain ⟨edge, -, hv⟩ := Graph.validate_of_cyclic ha
    exact .inl ⟨_, _, rfl, .inl rfl, fun _ _ _ => run_of_invalid hv⟩

/-- A run ends with a fault that it finds before execution, or it gives what the plan gives. -/
theorem run_cases (g : Graph) (runner : Runner σ) (target : String) (state : σ) :
    (∃ error log, error.precedesExecution = true ∧
        run g runner target state = ⟨.error error, state, log, []⟩) ∨
      (g.Cleared target ∧
        (run g runner target state).Gives
          (executeOrder g runner (g.postorder target) state).result
          (executeOrder g runner (g.postorder target) state).state
          (executeOrder g runner (g.postorder target) state).dispatches) := by
  obtain ⟨error, log, hearly, -, hstopped⟩ | hcleared := run_stopped_early_or_cleared g target
  · exact .inl ⟨error, log, hearly, hstopped σ runner state⟩
  · exact .inr ⟨hcleared, run_of_cleared hcleared⟩

theorem run_error_cases {error : BuildError}
    (h : (run g runner target state).result = .error error) :
    error.precedesExecution = true ∨ (∃ name, error = .targetHasNoCommands name) ∨
      ∃ name, ∃ command ∈ g.recipe name, ∃ middle,
        (runner.execute command middle).result = .error error := by
  obtain ⟨early, log, hearly, hrun⟩ | ⟨-, hgives⟩ := run_cases g runner target state
  · rw [hrun] at h
    cases h
    exact .inl hearly
  · rw [hgives.result] at h
    exact .inr (executeOrder_error_cases h)

end Execution

section
variable {σ : Type} {policy : DuplicatePolicy} {path : String}
variable {opened : Except IoError RuleFile.Delivery} {runner : Runner σ} {target : String} {state : σ}
variable {g : Graph}

theorem runFile_of_unloaded {error : BuildError}
    (h : (RuleFile.load policy path opened).result = .error error) :
    runFile policy path opened runner target state =
      ⟨.error error, state, (RuleFile.load policy path opened).log, []⟩ := by
  have hr : (Outcome.ofLogged (RuleFile.load policy path opened) state).result = .error error := h
  exact Outcome.andThen_of_error hr

private theorem runFile_of_unopened (cause : IoError) :
    runFile policy path (.error cause) runner target state =
      ⟨.error (.unreadable path cause), state, [], []⟩ := by
  have hload := RuleFile.load_unopened policy path cause
  rw [runFile_of_unloaded (congrArg Logged.result hload), hload]

private theorem runFile_of_fault {delivery : RuleFile.Delivery} {error : BuildError}
    (h : (RuleFile.parse policy delivery).result = .error error) :
    runFile policy path (.ok delivery) runner target state =
      ⟨.error (RuleFile.locate path error), state,
        .readingRuleFile path :: (RuleFile.parse policy delivery).log, []⟩ := by
  have hload := RuleFile.load_of_fault path h
  rw [runFile_of_unloaded (congrArg Logged.result hload), hload]

theorem runFile_of_loaded (h : (RuleFile.load policy path opened).result = .ok g) :
    runFile policy path opened runner target state =
      (Execution.run g runner target state).after (RuleFile.load policy path opened).log := by
  have hr : (Outcome.ofLogged (RuleFile.load policy path opened) state).result = .ok g := h
  exact Outcome.andThen_of_ok hr

private theorem runFile_of_invalid {error : BuildError}
    (h : (RuleFile.load policy path opened).result = .ok g) (hv : g.validate = .fail error) :
    runFile policy path opened runner target state =
      ⟨.error error, state, (RuleFile.load policy path opened).log, []⟩ := by
  rw [runFile_of_loaded h, Execution.run_of_invalid hv]
  simp [Outcome.after, Outcome.fail]

private theorem runFile_of_unknown (h : (RuleFile.load policy path opened).result = .ok g)
    (ha : g.Acyclic) (hc : g.Closed) (ht : target ∉ g.targets) :
    runFile policy path opened runner target state =
      ⟨.error (.targetNotFound target), state,
        (RuleFile.load policy path opened).log ++ [.graphValidated g.size], []⟩ := by
  rw [runFile_of_loaded h, Execution.run_of_unknown ha hc ht]
  rfl

/-- A run that is not stopped before execution was cleared for it. -/
theorem cleared_of_runFile
    (h : (runFile policy path opened runner target state).dispatches ≠ [] ∨
      ∀ error, (runFile policy path opened runner target state).result = .error error →
        error.precedesExecution = false) :
    ∃ g, (RuleFile.load policy path opened).result = .ok g ∧ g.Cleared target := by
  -- an early fault shows as an error of its kind and without a dispatch
  have hearly : ∀ error log, error.precedesExecution = true →
      runFile policy path opened runner target state ≠ ⟨.error error, state, log, []⟩ := by
    intro error log he hx
    rw [hx] at h
    rcases h with hd | hr
    · exact hd rfl
    · rw [hr error rfl] at he
      cases he
  cases hl : (RuleFile.load policy path opened).result with
  | error error =>
    have hkind := BuildError.precedesExecution_of_isOfRuleFile (RuleFile.load_fault hl)
    exact absurd (runFile_of_unloaded hl) (hearly _ _ hkind)
  | ok g =>
    obtain ⟨error, log, he, hrun⟩ | ⟨hcleared, -⟩ := Execution.run_cases g runner target state
    · refine absurd ?_ (hearly error ((RuleFile.load policy path opened).log ++ log) he)
      rw [runFile_of_loaded hl, hrun]
      rfl
    · exact ⟨g, rfl, hcleared⟩

/-- The result of a rule file and a target, for every policy and runner. The first fault in the
order of the checks ends the run, with the runner's state as it was and no command dispatched, also
where the target itself is not affected: a file that is not opened or not parsed, a cycle, missing
names, an unknown target. Any other result comes from execution. -/
theorem faults_precede_execution (policy : DuplicatePolicy) (path : String)
    (opened : Except IoError RuleFile.Delivery) (runner : Runner σ) (target : String) (state : σ) :
    let loaded := RuleFile.load policy path opened
    let outcome := runFile policy path opened runner target state
    (∀ cause, opened = .error cause → outcome = ⟨.error (.unreadable path cause), state, [], []⟩) ∧
    (∀ delivery error, opened = .ok delivery →
      (RuleFile.parse policy delivery).result = .error error →
      outcome = ⟨.error (RuleFile.locate path error), state,
        .readingRuleFile path :: (RuleFile.parse policy delivery).log, []⟩) ∧
    (∀ g, loaded.result = .ok g ↔
      ∃ delivery, opened = .ok delivery ∧ (RuleFile.parse policy delivery).result = .ok g) ∧
    (∀ error, loaded.result = .error error →
      error.isOfRuleFile = true ∧ outcome = ⟨.error error, state, loaded.log, []⟩) ∧
    (∀ g, loaded.result = .ok g → ¬ g.Acyclic →
      ∃ edge : Edge, edge.OnCycle g ∧
        outcome = ⟨.error (.cycleDetected edge.dependent edge.dependency), state, loaded.log, []⟩) ∧
    (∀ g, loaded.result = .ok g → g.Acyclic → ¬ g.Closed →
      (∀ name, name ∈ g.missingDependencies ↔
        name ∉ g.targets ∧ ∃ dependent, name ∈ g.dependencies dependent) ∧
      outcome = ⟨.error (.missingDependency g.missingDependencies), state, loaded.log, []⟩) ∧
    (∀ g, loaded.result = .ok g → g.Acyclic → g.Closed → target ∉ g.targets →
      outcome = ⟨.error (.targetNotFound target), state,
        loaded.log ++ [.graphValidated g.size], []⟩) ∧
    (∀ g, loaded.result = .ok g → g.Cleared target →
      let execution := Execution.executeOrder g runner (g.postorder target) state
      outcome.Gives execution.result execution.state execution.dispatches) ∧
    ((outcome.dispatches ≠ [] ∨
        ∀ error, outcome.result = .error error → error.precedesExecution = false) →
      ∃ g, loaded.result = .ok g ∧ g.Cleared target) := by
  intro loaded outcome
  refine ⟨fun cause h => ?_, fun delivery error hopened hfault => ?_,
    fun g => RuleFile.load_eq_ok_iff,
    fun error h => ⟨RuleFile.load_fault h, runFile_of_unloaded h⟩, fun g h hcycle => ?_,
    fun g h ha hopen => ⟨fun _ => Graph.mem_missingDependencies,
      runFile_of_invalid h (Graph.validate_of_open ha hopen)⟩,
    fun g h ha hc ht => runFile_of_unknown h ha hc ht, fun g h hclear => ?_, cleared_of_runFile⟩
  · subst h
    exact runFile_of_unopened cause
  · subst hopened
    exact runFile_of_fault hfault
  · obtain ⟨edge, hedge, hv⟩ := Graph.validate_of_cyclic hcycle
    exact ⟨edge, hedge, runFile_of_invalid h hv⟩
  · have hrun : outcome = (Execution.run g runner target state).after loaded.log :=
      runFile_of_loaded h
    rw [hrun]
    exact (Execution.run_of_cleared hclear).after _

end
end BuildRunner
