import BuildRunner.Proofs.Execution.Dispatches
import BuildRunner.Proofs.Graph.PlanOrder

/-! The stages of a run: the checks of the whole graph, the plan of the target, and the execution
of the plan. A stage that fails ends the run in the state it began with. -/
namespace BuildRunner

namespace Outcome
variable {σ α β : Type}

theorem ofLogged_ok_andThen (log : List Event) (value : α) (state : σ) (next : α → σ → Outcome σ β) :
    (ofLogged ⟨log, .ok value⟩ state).andThen next = (next value state).after log := by
  simp [andThen, ofLogged, after]

theorem ofLogged_fail_andThen (error : BuildError) (state : σ) (next : α → σ → Outcome σ β) :
    (ofLogged (.fail error) state).andThen next = .fail error state := rfl

end Outcome

private theorem Graph.validate_cases (g : Graph) :
    (∃ error, g.validate = .fail error) ∨
      (g.validate = ⟨[.graphValidated g.size], .ok ()⟩ ∧ g.Acyclic ∧ g.missingDependencies = []) := by
  unfold validate
  obtain ⟨hc, ha⟩ | ⟨edge, hc, -⟩ := checkCycles_cases g
  · rw [hc]
    cases hm : g.missingDependencies with
    | nil => exact .inr ⟨rfl, ha, rfl⟩
    | cons name names => exact .inl ⟨_, rfl⟩
  · rw [hc]
    exact .inl ⟨_, rfl⟩

namespace Execution
variable {σ : Type} {g : Graph} {runner : Runner σ} {target : String} {state : σ}

theorem run_of_invalid {error : BuildError} (h : g.validate = .fail error) :
    run g runner target state = .fail error state := by
  rw [run, h, Outcome.ofLogged_fail_andThen]

theorem run_of_valid {log : List Event} (h : g.validate = ⟨log, .ok ()⟩) :
    run g runner target state =
      ((Outcome.ofLogged (g.plan target) state).andThen fun order state =>
        ((executeOrder g runner order state).after [.runningTarget target order.length]).andThen
          fun report state =>
            ⟨.ok report, state, [.targetComplete target report.commandsRun], []⟩).after log := by
  rw [run, h, Outcome.ofLogged_ok_andThen]

theorem replays_run (g : Graph) (runner : Runner σ) (target : String) (state : σ) :
    Replays runner state (run g runner target state).dispatches
      (run g runner target state).state := by
  refine Outcome.replays_andThen rfl fun _ => Outcome.replays_andThen rfl fun order => ?_
  exact Outcome.replays_andThen (replays_executeOrder g runner order _) fun _ => rfl

/-- After an accepted plan the dispatches of a run are those of the plan's execution, and so are
the starts of recipes that its log tells. -/
theorem run_trace (g : Graph) (runner : Runner σ) (target : String) (state : σ) :
    ((run g runner target state).dispatches = [] ∧
        startedRecipes (run g runner target state).log = []) ∨
      (g.Acyclic ∧
        (run g runner target state).dispatches =
          (executeOrder g runner (g.postorder target) state).dispatches ∧
        startedRecipes (run g runner target state).log =
          startedRecipes (executeOrder g runner (g.postorder target) state).log) := by
  obtain ⟨error, hv⟩ | ⟨hv, ha, -⟩ := g.validate_cases
  · rw [run_of_invalid hv]
    exact .inl ⟨rfl, rfl⟩
  rw [run_of_valid hv]
  by_cases ht : target ∈ g.targets
  · refine .inr ⟨ha, ?_⟩
    rw [Graph.plan_of_mem ht, Outcome.ofLogged_ok_andThen]
    cases hr : (executeOrder g runner (g.postorder target) state).result <;>
      simp [Outcome.after, Outcome.andThen, hr, startedRecipes]
  · rw [Graph.plan_of_not_mem ht, Outcome.ofLogged_fail_andThen]
    exact .inl ⟨rfl, rfl⟩

end Execution
end BuildRunner
