import BuildRunner.Proofs.Execution.EqualGraphs

/-! What a build of a target can see of a graph. Planning looks at the dependencies of the names
that the target reaches, and execution at their recipes; the other rules, their order included,
have a part in the checks of the whole graph only. -/
namespace BuildRunner

namespace Execution
variable {σ : Type} {g h : Graph} {t : String}

/-- With valid graphs that agree on what the target reaches, only the event of the checks, which
tells the number of targets, can differ. -/
theorem run_agrees_after_checks (hg : t ∈ g.targets) (hh : t ∈ h.targets)
    (hd : ∀ name, g.Reaches t name → g.dependencies name = h.dependencies name)
    (hr : ∀ name, g.Reaches t name → g.recipe name = h.recipe name)
    (hvg : g.validate.result = .ok ()) (hvh : h.validate.result = .ok ())
    (runner : Runner σ) (state : σ) :
    ∃ rest : Outcome σ RunReport,
      run g runner t state = rest.after [.graphValidated g.size] ∧
        run h runner t state = rest.after [.graphValidated h.size] := by
  have hplan : h.plan t = g.plan t := (Graph.plan_congr hg hh hd).symm
  have hexecute : ∀ state, executeOrder h runner (g.postorder t) state =
      executeOrder g runner (g.postorder t) state := fun state =>
    (executeOrder_congr (fun name hn => hr name (Graph.mem_postorder.mp hn)) state).symm
  obtain ⟨hag, hcg⟩ := Graph.validate_eq_ok_iff.mp hvg
  obtain ⟨hah, hch⟩ := Graph.validate_eq_ok_iff.mp hvh
  refine ⟨_, run_of_valid (Graph.validate_of_closed hag hcg), ?_⟩
  rw [run_of_valid (Graph.validate_of_closed hah hch), hplan, Graph.plan_of_mem hg]
  simp only [Outcome.ofLogged_ok_andThen, hexecute]

end Execution

/-- Two graphs that declare a target, and in which the names that it reaches in the first have the
same dependencies, have the same plan for it. If both are valid and these names have the same
recipes too, every build of the target is the same with both: what is dispatched, the runner's last
state, and the result. -/
theorem unreached_rules_have_no_effect {g h : Graph} {t : String} (hg : t ∈ g.targets)
    (hh : t ∈ h.targets)
    (hd : ∀ name, g.Reaches t name → g.dependencies name = h.dependencies name) :
    (∃ order, (g.plan t).result = .ok order ∧ (h.plan t).result = .ok order) ∧
      ((∀ name, g.Reaches t name → g.recipe name = h.recipe name) →
        g.validate.result = .ok () → h.validate.result = .ok () →
        ∀ (σ : Type) (runner : Runner σ) (state : σ),
          (Execution.run g runner t state).dispatches = (Execution.run h runner t state).dispatches ∧
            (Execution.run g runner t state).state = (Execution.run h runner t state).state ∧
            (Execution.run g runner t state).result = (Execution.run h runner t state).result) := by
  constructor
  · have hplan : (g.plan t).result = .ok (g.postorder t) := by rw [Graph.plan_of_mem hg]
    exact ⟨g.postorder t, hplan, by rw [← Graph.plan_congr hg hh hd, hplan]⟩
  · intro hr hvg hvh σ runner state
    obtain ⟨rest, hrun, hrun'⟩ :=
      Execution.run_agrees_after_checks hg hh hd hr hvg hvh runner state
    rw [hrun, hrun']
    exact ⟨rfl, rfl, rfl⟩

/-- The graphs share what `app` reaches. Around it they have other targets, other recipes and
another order. -/
theorem other_targets_have_no_effect :
    let g : Graph := ⟨.ofList [("lint", ["app"]), ("app", ["lib", "lib"]), ("lib", [])],
      .ofList [("lint", ["check"]), ("app", ["@link", "strip"]), ("lib", ["compile"])]⟩
    let h : Graph := ⟨.ofList [("lib", []), ("docs", ["lib"]), ("app", ["lib", "lib"]), ("lint", [])],
      .ofList [("lib", ["compile"]), ("docs", []), ("app", ["@link", "strip"]), ("lint", [])]⟩
    g.targets ≠ h.targets ∧ (g.plan "app").result = .ok ["lib", "app"] ∧
      (h.plan "app").result = .ok ["lib", "app"] ∧
      ∀ (σ : Type) (runner : Runner σ) (state : σ),
        (Execution.run g runner "app" state).dispatches =
            (Execution.run h runner "app" state).dispatches ∧
          (Execution.run g runner "app" state).state = (Execution.run h runner "app" state).state ∧
          (Execution.run g runner "app" state).result =
            (Execution.run h runner "app" state).result := by
  intro g h
  have hplan : (g.plan "app").result = .ok ["lib", "app"] := by decide +kernel
  have hmem : ∀ name, g.Reaches "app" name → name = "lib" ∨ name = "app" := by
    intro name hn
    obtain ⟨-, horder⟩ := Graph.plan_eq_ok hplan
    simpa [← horder] using Graph.mem_postorder.mpr hn
  have hd : ∀ name, g.Reaches "app" name → g.dependencies name = h.dependencies name := by
    intro name hn
    rcases hmem name hn with rfl | rfl <;> decide
  have hr : ∀ name, g.Reaches "app" name → g.recipe name = h.recipe name := by
    intro name hn
    rcases hmem name hn with rfl | rfl <;> decide
  have hall := unreached_rules_have_no_effect (g := g) (h := h) (by decide) (by decide) hd
  obtain ⟨order, hgo, hho⟩ := hall.1
  have horder : order = ["lib", "app"] := by
    rw [hgo] at hplan
    exact Except.ok.inj hplan
  refine ⟨by decide, hplan, horder ▸ hho, hall.2 hr (by decide +kernel) (by decide +kernel)⟩

end BuildRunner
