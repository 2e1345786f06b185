import BuildRunner.Execution

/-! The dispatches of an execution are the calls of the runner. Before each of them are the whole
recipes of the names that come first in the order, and the earlier commands of its own recipe, all
with success. -/
namespace BuildRunner

/-- The trace is what the runner was given, from one state to another: each command in the state
that those before it left, with the success that it reports. -/
def Replays {σ : Type} (runner : Runner σ) : σ → List Dispatch → σ → Prop
  | state, [], last => last = state
  | state, d :: rest, last =>
    (runner.execute d.command state).result.isOk = d.succeeded ∧
      Replays runner (runner.execute d.command state).state rest last

theorem Replays.append {σ : Type} {runner : Runner σ} {state middle last : σ}
    {before after : List Dispatch} (h : Replays runner state before middle)
    (h' : Replays runner middle after last) : Replays runner state (before ++ after) last := by
  induction before generalizing state with
  | nil =>
    obtain rfl : middle = state := h
    exact h'
  | cons d rest ih => exact ⟨h.1, ih h.2⟩

namespace Outcome
variable {σ α β : Type} {first : Outcome σ α} {next : α → σ → Outcome σ β}

theorem andThen_of_ok {value : α} (h : first.result = .ok value) :
    first.andThen next =
      { next value first.state with
        log := first.log ++ (next value first.state).log
        dispatches := first.dispatches ++ (next value first.state).dispatches } := by
  simp [andThen, h]

theorem andThen_of_error {error : BuildError} (h : first.result = .error error) :
    first.andThen next = ⟨.error error, first.state, first.log, first.dispatches⟩ := by
  simp [andThen, h]

private theorem result_andThen_ok {value : β} (h : (first.andThen next).result = .ok value) :
    ∃ v, first.result = .ok v ∧ (next v first.state).result = .ok value := by
  cases hr : first.result with
  | error error =>
    rw [andThen_of_error hr] at h
    cases h
  | ok v =>
    rw [andThen_of_ok hr] at h
    exact ⟨v, rfl, h⟩

private theorem result_map_ok {f : α → β} {value : β} (h : (first.map f).result = .ok value) :
    ∃ v, first.result = .ok v := by
  cases hr : first.result with
  | error error =>
    rw [map, hr] at h
    cases h
  | ok v => exact ⟨v, rfl⟩

theorem replays_andThen {runner : Runner σ} {state : σ}
    (h : Replays runner state first.dispatches first.state)
    (hn : ∀ value, Replays runner first.state (next value first.state).dispatches
      (next value first.state).state) :
    Replays runner state (first.andThen next).dispatches (first.andThen next).state := by
  cases hr : first.result with
  | error error =>
    rw [andThen_of_error hr]
    exact h
  | ok value =>
    rw [andThen_of_ok hr]
    exact h.append (hn value)

private theorem dispatches_andThen {before after : List Dispatch} {d : Dispatch}
    (h : (first.andThen next).dispatches = before ++ d :: after) :
    (∃ rest, first.dispatches = before ++ d :: rest) ∨
      ∃ value left, first.result = .ok value ∧ before = first.dispatches ++ left ∧
        (next value first.state).dispatches = left ++ d :: after := by
  cases hr : first.result with
  | error error =>
    rw [andThen_of_error hr] at h
    exact .inl ⟨after, h⟩
  | ok value =>
    rw [andThen_of_ok hr] at h
    rcases List.append_eq_append_iff.mp h with ⟨left, hb, hn⟩ | ⟨right, hf, hn⟩
    · exact .inr ⟨value, left, rfl, hb, hn⟩
    · cases right with
      | nil => exact .inr ⟨value, [], rfl, by simpa using hf.symm, by simpa using hn.symm⟩
      | cons x right =>
        obtain ⟨rfl, -⟩ := List.cons.inj hn
        exact .inl ⟨right, hf⟩

end Outcome

/-- The dispatches of a target's commands, all with success. -/
def succeeded (target : String) (commands : List String) : List Dispatch :=
  commands.map (⟨target, ·, true⟩)

@[simp] theorem map_command_succeeded (name : String) (commands : List String) :
    (succeeded name commands).map (·.command) = commands := by
  simp [succeeded, Function.comp_def]

/-- The dispatches of a recipe that ran to its end. -/
def Graph.completed (g : Graph) (name : String) : List Dispatch := succeeded name (g.recipe name)

/-- The names of recipes whose start a log tells. -/
def startedRecipes (log : List Event) : List String :=
  log.filterMap fun
    | .executingRecipe name _ => some name
    | _ => none

@[simp] theorem startedRecipes_append (first second : List Event) :
    startedRecipes (first ++ second) = startedRecipes first ++ startedRecipes second :=
  List.filterMap_append

namespace Execution
variable {σ : Type} {g : Graph} {runner : Runner σ} {state : σ}

theorem replays_dispatch (runner : Runner σ) (target command : String) (state : σ) :
    Replays runner state (dispatch runner target command state).dispatches
      (dispatch runner target command state).state := ⟨rfl, rfl⟩

theorem dispatch_dispatches_of_ok {target command text : String}
    (h : (dispatch runner target command state).result = .ok text) :
    (dispatch runner target command state).dispatches = [⟨target, command, true⟩] := by
  have hr : (runner.execute command state).result = .ok text := h
  simp [dispatch, hr, Except.isOk, Except.toBool]

theorem startedRecipes_dispatch (runner : Runner σ) (target command : String) (state : σ) :
    startedRecipes (dispatch runner target command state).log = [] := by
  simp only [dispatch]
  cases (runner.execute command state).spawning <;> rfl

private theorem replays_runCommands (runner : Runner σ) (target : String) (commands : List String)
    (state : σ) :
    Replays runner state (runCommands runner target commands state).dispatches
      (runCommands runner target commands state).state := by
  induction commands generalizing state with
  | nil => rfl
  | cons command rest ih =>
    exact Outcome.replays_andThen (replays_dispatch runner target command state) fun _ => ih _

private theorem runCommands_dispatches_of_ok {target text : String} {commands : List String}
    (h : (runCommands runner target commands state).result = .ok text) :
    (runCommands runner target commands state).dispatches = succeeded target commands := by
  induction commands generalizing state text with
  | nil => rfl
  | cons command rest ih =>
    unfold runCommands at h ⊢
    obtain ⟨shown, hr, hn⟩ := Outcome.result_andThen_ok h
    obtain ⟨later, hl⟩ := Outcome.result_map_ok hn
    rw [Outcome.andThen_of_ok hr]
    simp only [Outcome.map, dispatch_dispatches_of_ok hr, ih hl]
    rfl

private theorem runCommands_place {target : String} {commands : List String}
    {before after : List Dispatch}
    {d : Dispatch} (h : (runCommands runner target commands state).dispatches = before ++ d :: after) :
    ∃ done left, commands = done ++ d.command :: left ∧ d.target = target ∧
      before = succeeded target done := by
  induction commands generalizing state before with
  | nil => simp [runCommands, Outcome.ok] at h
  | cons command rest ih =>
    unfold runCommands at h
    rcases Outcome.dispatches_andThen h with ⟨right, hf⟩ | ⟨text, left, hr, rfl, hn⟩
    · cases before with
      | nil =>
        obtain ⟨rfl, -⟩ := List.cons.inj hf
        exact ⟨[], rest, rfl, rfl, rfl⟩
      | cons x before => cases before <;> cases hf
    · obtain ⟨done, last, rfl, ht, rfl⟩ := ih hn
      refine ⟨command :: done, last, rfl, ht, ?_⟩
      rw [dispatch_dispatches_of_ok hr]
      rfl

private theorem startedRecipes_runCommands (runner : Runner σ) (target : String)
    (commands : List String)
    (state : σ) : startedRecipes (runCommands runner target commands state).log = [] := by
  induction commands generalizing state with
  | nil => rfl
  | cons command rest ih =>
    unfold runCommands
    cases hr : (dispatch runner target command state).result with
    | error error =>
      rw [Outcome.andThen_of_error hr]
      exact startedRecipes_dispatch runner target command state
    | ok shown =>
      rw [Outcome.andThen_of_ok hr, startedRecipes_append, startedRecipes_dispatch]
      exact ih _

/-- A target without commands dispatches nothing, as does a recipe of no commands. -/
theorem executeTarget_dispatches (g : Graph) (runner : Runner σ) (name : String) (state : σ) :
    (executeTarget g runner name state).dispatches =
      (runCommands runner name (g.recipe name) state).dispatches := by
  unfold executeTarget
  split
  · rename_i hr
    rw [hr]
    rfl
  · rfl

theorem replays_executeTarget (g : Graph) (runner : Runner σ) (name : String) (state : σ) :
    Replays runner state (executeTarget g runner name state).dispatches
      (executeTarget g runner name state).state := by
  unfold executeTarget
  split
  · rfl
  · exact replays_runCommands runner name _ state

private theorem executeTarget_dispatches_of_ok {name : String} {report : TargetReport}
    (h : (executeTarget g runner name state).result = .ok report) :
    (executeTarget g runner name state).dispatches = g.completed name := by
  rw [executeTarget_dispatches]
  unfold executeTarget at h
  split at h
  · cases h
  · obtain ⟨text, ht⟩ := Outcome.result_map_ok h
    exact runCommands_dispatches_of_ok ht

private theorem startedRecipes_executeTarget (g : Graph) (runner : Runner σ) (name : String)
    (state : σ) :
    startedRecipes (executeTarget g runner name state).log <+: [name] := by
  unfold executeTarget
  split
  · exact List.nil_prefix
  · simp only [Outcome.after, Outcome.map, startedRecipes_append, startedRecipes_runCommands]
    exact List.prefix_refl _

private theorem startedRecipes_executeTarget_of_ok {name : String} {report : TargetReport}
    (h : (executeTarget g runner name state).result = .ok report) :
    startedRecipes (executeTarget g runner name state).log = [name] := by
  unfold executeTarget at h ⊢
  split at h
  · cases h
  · simp only [Outcome.after, Outcome.map, startedRecipes_append, startedRecipes_runCommands]
    rfl

theorem replays_executeOrder (g : Graph) (runner : Runner σ) (order : List String) (state : σ) :
    Replays runner state (executeOrder g runner order state).dispatches
      (executeOrder g runner order state).state := by
  induction order generalizing state with
  | nil => rfl
  | cons name rest ih =>
    exact Outcome.replays_andThen (replays_executeTarget g runner name state) fun _ => ih _

/-- The place of a dispatch in the order: the names before its target have run to their end. -/
theorem executeOrder_place {order : List String} {before after : List Dispatch} {d : Dispatch}
    (h : (executeOrder g runner order state).dispatches = before ++ d :: after) :
    ∃ finished rest done left, order = finished ++ d.target :: rest ∧
      g.recipe d.target = done ++ d.command :: left ∧
      before = finished.flatMap g.completed ++ succeeded d.target done := by
  induction order generalizing state before with
  | nil => simp [executeOrder, Outcome.ok] at h
  | cons name order ih =>
    unfold executeOrder at h
    rcases Outcome.dispatches_andThen h with ⟨right, hf⟩ | ⟨report, later, hr, rfl, hn⟩
    · rw [executeTarget_dispatches] at hf
      obtain ⟨done, left, hrecipe, rfl, rfl⟩ := runCommands_place hf
      exact ⟨[], order, done, left, rfl, hrecipe, rfl⟩
    · obtain ⟨finished, rest, done, left, rfl, hrecipe, rfl⟩ := ih hn
      refine ⟨name :: finished, rest, done, left, rfl, hrecipe, ?_⟩
      rw [executeTarget_dispatches_of_ok hr, List.flatMap_cons, List.append_assoc]

/-- Recipes are started in the given order, each name of it at most once. -/
theorem startedRecipes_executeOrder (g : Graph) (runner : Runner σ) (order : List String)
    (state : σ) : startedRecipes (executeOrder g runner order state).log <+: order := by
  induction order generalizing state with
  | nil => exact List.prefix_refl _
  | cons name rest ih =>
    unfold executeOrder
    cases hr : (executeTarget g runner name state).result with
    | error error =>
      rw [Outcome.andThen_of_error hr]
      exact (startedRecipes_executeTarget g runner name state).trans (List.prefix_append [name] rest)
    | ok report =>
      rw [Outcome.andThen_of_ok hr, startedRecipes_append, startedRecipes_executeTarget_of_ok hr]
      exact (List.prefix_append_right_inj [name]).mpr (ih _)

end Execution
end BuildRunner
