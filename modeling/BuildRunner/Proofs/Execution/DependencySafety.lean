import BuildRunner.Proofs.Execution.Stages

/-! Dependency safety of every run, with or without success and for every runner: recipes wait for
all that their target requires, and no recipe is started twice. -/
namespace BuildRunner

/-- The dispatches that belong to the recipe of one target. -/
def dispatchesOf (name : String) (trace : List Dispatch) : List Dispatch :=
  trace.filter (·.target = name)

@[simp] theorem dispatchesOf_append (name : String) (first second : List Dispatch) :
    dispatchesOf name (first ++ second) = dispatchesOf name first ++ dispatchesOf name second :=
  List.filter_append ..

private theorem dispatchesOf_succeeded (name : String) (commands : List String) :
    dispatchesOf name (succeeded name commands) = succeeded name commands :=
  List.filter_eq_self.mpr (by simp [succeeded])

private theorem dispatchesOf_succeeded_of_ne {name other : String} (h : other ≠ name)
    (commands : List String) : dispatchesOf name (succeeded other commands) = [] :=
  List.filter_eq_nil_iff.mpr (by simp [succeeded, h])

private theorem dispatchesOf_completed (g : Graph) {names : List String} (hn : names.Nodup)
    (name : String) :
    dispatchesOf name (names.flatMap g.completed) = if name ∈ names then g.completed name else [] := by
  induction names with
  | nil => rfl
  | cons first rest ih =>
    obtain ⟨hf, hr⟩ := List.nodup_cons.mp hn
    rw [List.flatMap_cons, dispatchesOf_append, ih hr]
    by_cases he : first = name
    · subst he
      simp [hf, Graph.completed, dispatchesOf_succeeded]
    · simp [Graph.completed, dispatchesOf_succeeded_of_ne he, Ne.symm he]

namespace Execution
variable {σ : Type} {g : Graph} {runner : Runner σ} {target : String} {state : σ}
variable {before after : List Dispatch} {d : Dispatch}

/-- Where a dispatch of a run stands in the plan. -/
theorem run_place (h : (run g runner target state).dispatches = before ++ d :: after) :
    g.Acyclic ∧ ∃ finished rest done left,
      g.postorder target = finished ++ d.target :: rest ∧
        g.recipe d.target = done ++ d.command :: left ∧
        before = finished.flatMap g.completed ++ succeeded d.target done := by
  obtain ⟨he, -⟩ | ⟨ha, he, -⟩ := run_trace g runner target state
  · simp [he] at h
  · exact ⟨ha, executeOrder_place (he ▸ h)⟩

private theorem target_needed_of_mem (h : d ∈ (run g runner target state).dispatches) :
    g.Reaches target d.target := by
  obtain ⟨before, after, he⟩ := List.append_of_mem h
  obtain ⟨-, finished, rest, -, -, hp, -⟩ := run_place he
  exact Graph.mem_postorder.mp (hp ▸ by simp)

/-- When a command is dispatched, the recipe of every transitive dependency of its target has been
dispatched from its first command to its last, once, and each command has succeeded. -/
theorem required_completed (h : (run g runner target state).dispatches = before ++ d :: after)
    {name : String} (hr : g.Requires d.target name) :
    dispatchesOf name before = g.completed name := by
  obtain ⟨ha, finished, rest, done, left, hp, -, rfl⟩ := run_place h
  have hn := hp ▸ g.nodup_postorder target
  have hfirst : name ∈ finished := Graph.precedes_of_requires
    (fun u hu v => ha.postorder_precedes hu) (hp ▸ by simp) hr finished rest hp
  have hne : d.target ≠ name := fun he => ha name (he ▸ hr)
  rw [dispatchesOf_append, dispatchesOf_completed g (List.nodup_append.mp hn).1, if_pos hfirst,
    dispatchesOf_succeeded_of_ne hne, List.append_nil]

/-- The commands dispatched for one target are the first ones of its recipe, in order. -/
theorem commands_prefix_recipe (g : Graph) (runner : Runner σ) (target : String) (state : σ)
    (name : String) :
    (dispatchesOf name (run g runner target state).dispatches).map (·.command) <+: g.recipe name := by
  rcases List.eq_nil_or_concat (run g runner target state).dispatches with he | ⟨before, d, he⟩
  · rw [he]
    exact List.nil_prefix
  rw [List.concat_eq_append] at he
  obtain ⟨-, finished, rest, done, left, hp, hrecipe, rfl⟩ := run_place he
  have hn := List.nodup_append.mp (hp ▸ g.nodup_postorder target)
  rw [he, dispatchesOf_append, dispatchesOf_append, dispatchesOf_completed g hn.1]
  by_cases ht : d.target = name
  · subst ht
    have hnew : d.target ∉ finished := fun hm => hn.2.2 _ hm _ List.mem_cons_self rfl
    refine ⟨left, ?_⟩
    rw [if_neg hnew, dispatchesOf_succeeded, hrecipe]
    simp [dispatchesOf]
  · rw [dispatchesOf_succeeded_of_ne ht]
    split
    · exact ⟨[], by simp [Graph.completed, dispatchesOf, ht]⟩
    · simp [dispatchesOf, ht]

private theorem nodup_startedRecipes (g : Graph) (runner : Runner σ) (target : String) (state : σ) :
    (startedRecipes (run g runner target state).log).Nodup := by
  obtain ⟨-, he⟩ | ⟨-, -, he⟩ := run_trace g runner target state
  · rw [he]
    exact List.nodup_nil
  · rw [he]
    exact (g.nodup_postorder target).sublist (startedRecipes_executeOrder ..).sublist

/-- Whatever the runner answers: at each of its calls all that the command's target requires has
run with success, only what the requested target needs is dispatched, and no recipe is started
twice. -/
theorem run_dependency_safe (g : Graph) (runner : Runner σ) (target : String) (state : σ) :
    Replays runner state (run g runner target state).dispatches (run g runner target state).state ∧
      (∀ before d after, (run g runner target state).dispatches = before ++ d :: after →
        ∀ name, g.Requires d.target name →
          dispatchesOf name before = (g.recipe name).map (⟨name, ·, true⟩)) ∧
      (∀ d ∈ (run g runner target state).dispatches, g.Reaches target d.target) ∧
      (∀ name, (dispatchesOf name (run g runner target state).dispatches).map (·.command) <+:
        g.recipe name) ∧
      (startedRecipes (run g runner target state).log).Nodup :=
  ⟨replays_run g runner target state, fun _ _ _ h _ hr => required_completed h hr,
    fun _ h => target_needed_of_mem h, commands_prefix_recipe g runner target state,
    nodup_startedRecipes g runner target state⟩

end Execution
end BuildRunner
