import BuildRunner.Proofs.Execution.Stages
import BuildRunner.Proofs.Graph.SameRules

/-! Builds with equal graphs. Graphs are equal when they have the same rules, and then the order of
the rules has no part in what a build of a target does. -/
namespace BuildRunner

namespace Execution
variable {σ : Type} {g h : Graph} {runner : Runner σ}

private theorem executeTarget_congr {name : String} (hr : g.recipe name = h.recipe name)
    (state : σ) :
    executeTarget g runner name state = executeTarget h runner name state := by
  rw [executeTarget, executeTarget, hr]

/-- An execution sees of a graph the recipes of the names in the order. -/
theorem executeOrder_congr {order : List String}
    (hr : ∀ name ∈ order, g.recipe name = h.recipe name) (state : σ) :
    executeOrder g runner order state = executeOrder h runner order state := by
  induction order generalizing state with
  | nil => rfl
  | cons name rest ih =>
    obtain ⟨hname, hrest⟩ := List.forall_mem_cons.mp hr
    rw [executeOrder, executeOrder, executeTarget_congr hname]
    congr 1
    funext first next
    rw [ih hrest]

private theorem run_of_sameRules (hs : g.sameRules h = true) (hv : g.validate.result = .ok ())
    (runner : Runner σ) (target : String) (state : σ) :
    run g runner target state = run h runner target state := by
  have hrecipe := Graph.recipe_of_sameRules hs
  have hexecute : executeOrder g runner = executeOrder h runner := by
    funext order state
    exact executeOrder_congr (fun name _ => congrFun hrecipe name) state
  rw [run, run, Graph.validate_of_sameRules hs hv, Graph.plan_of_sameRules hs, hexecute]

end Execution

/-- Graphs with the same rules have the same plans, pass the check for cycles together, miss the
same dependencies and come to the same verdict. If they are valid, every build of a target is the
same with both, in its dispatches, its result, its log and the runner's last state. -/
theorem equal_graphs_build_alike {g h : Graph} (hs : g.sameRules h = true) :
    (∀ target, g.plan target = h.plan target) ∧
      (g.checkCycles = .ok () ↔ h.checkCycles = .ok ()) ∧
      g.missingDependencies.Perm h.missingDependencies ∧
      Graph.SameVerdict g.validate.result h.validate.result ∧
      (g.validate.result = .ok () → ∀ (σ : Type) (runner : Runner σ) (target : String) (state : σ),
        Execution.run g runner target state = Execution.run h runner target state) :=
  ⟨Graph.plan_of_sameRules hs, Graph.checkCycles_of_sameRules hs,
    Graph.perm_missingDependencies_of_sameRules hs, Graph.sameVerdict_validate hs,
    fun hv _ => Execution.run_of_sameRules hs hv⟩

/-- The rules of a valid graph in their opposite order. -/
theorem reversed_rules_build_alike :
    let g : Graph := ⟨.ofList [("a", ["b"]), ("b", [])], .ofList [("a", ["x"]), ("b", ["y", "z"])]⟩
    let h : Graph := ⟨.ofList [("b", []), ("a", ["b"])], .ofList [("b", ["y", "z"]), ("a", ["x"])]⟩
    g ≠ h ∧ g.sameRules h = true ∧ g.validate.result = .ok () ∧
      ∀ (σ : Type) (runner : Runner σ) (target : String) (state : σ),
        Execution.run g runner target state = Execution.run h runner target state := by
  intro g h
  have hs : g.sameRules h = true := by decide
  have hv : g.validate.result = .ok () := by decide +kernel
  exact ⟨by decide, hs, hv, (equal_graphs_build_alike hs).2.2.2.2 hv⟩

/-- The edge that is reported does depend on the order. -/
example : (⟨.ofList [("a", ["b"]), ("b", ["a"])], .empty⟩ : Graph).checkCycles =
      .error (.cycleDetected "b" "a") ∧
    (⟨.ofList [("b", ["a"]), ("a", ["b"])], .empty⟩ : Graph).checkCycles =
      .error (.cycleDetected "a" "b") := by
  constructor <;> cbv

end BuildRunner
