import BuildRunner.Proofs.Execution.Dispatches

/-! How the execution of a list of names ends. It runs the recipes of the names as one list of
commands, up to the first name without commands or the first command that the runner refuses; what
stands behind that place is not dispatched. -/
namespace BuildRunner

/-- The runner takes the commands one after the other, each with success. It shows the texts and is
left in the last state. -/
inductive Runner.Accepts {σ : Type} (runner : Runner σ) : σ → List String → List String → σ → Prop
  | nil (state : σ) : Accepts runner state [] [] state
  | cons {state last : σ} {command text : String} {commands texts : List String}
      (shown : (runner.execute command state).result = .ok text)
      (rest : Accepts runner (runner.execute command state).state commands texts last) :
      Accepts runner state (command :: commands) (text :: texts) last

namespace Runner
variable {σ : Type} {runner : Runner σ} {state last : σ} {texts : List String}

theorem Accepts.split {first second : List String}
    (h : runner.Accepts state (first ++ second) texts last) :
    ∃ shown later middle, texts = shown ++ later ∧ runner.Accepts state first shown middle ∧
      runner.Accepts middle second later last := by
  induction first generalizing state texts with
  | nil => exact ⟨[], texts, state, rfl, .nil state, h⟩
  | cons command first ih =>
    cases h with
    | cons hs hr =>
      obtain ⟨shown, later, middle, rfl, hf, hl⟩ := ih hr
      exact ⟨_ :: shown, later, middle, rfl, .cons hs hf, hl⟩

theorem Accepts.append {first second later : List String} {middle : σ}
    (h : runner.Accepts state first texts middle) (h' : runner.Accepts middle second later last) :
    runner.Accepts state (first ++ second) (texts ++ later) last := by
  induction h with
  | nil => exact h'
  | cons hs _ ih => exact .cons hs (ih h')

/-- A runner accepts all of some commands, or there is a first one that it refuses. -/
theorem accepts_or_refuses (runner : Runner σ) (commands : List String) (state : σ) :
    (∃ texts last, runner.Accepts state commands texts last) ∨
      ∃ done command left texts middle error, commands = done ++ command :: left ∧
        runner.Accepts state done texts middle ∧
        (runner.execute command middle).result = .error error := by
  induction commands generalizing state with
  | nil => exact .inl ⟨[], state, .nil state⟩
  | cons command rest ih =>
    cases hr : (runner.execute command state).result with
    | error error => exact .inr ⟨[], command, rest, [], state, error, rfl, .nil state, hr⟩
    | ok text =>
      obtain ⟨texts, last, h⟩ | ⟨done, next, left, texts, middle, error, rfl, h, he⟩ := ih _
      · exact .inl ⟨text :: texts, last, .cons hr h⟩
      · exact .inr ⟨command :: done, next, left, text :: texts, middle, error, rfl, .cons hr h, he⟩

end Runner

/-- All of an outcome but its log. -/
structure Outcome.Gives {σ α : Type} (x : Outcome σ α) (result : Except BuildError α) (state : σ)
    (dispatches : List Dispatch) : Prop where
  result : x.result = result
  state : x.state = state
  dispatches : x.dispatches = dispatches

namespace Outcome
variable {σ α β : Type} {x : Outcome σ α} {next : α → σ → Outcome σ β}
variable {state last : σ} {dispatches later : List Dispatch}

theorem gives_self (x : Outcome σ α) : x.Gives x.result x.state x.dispatches := ⟨rfl, rfl, rfl⟩

theorem Gives.map {result : Except BuildError α} (h : x.Gives result state dispatches) (f : α → β) :
    (x.map f).Gives (result.map f) state dispatches := by
  obtain ⟨rfl, rfl, rfl⟩ := h
  exact ⟨rfl, rfl, rfl⟩

theorem Gives.after {result : Except BuildError α} (h : x.Gives result state dispatches)
    (events : List Event) : (x.after events).Gives result state dispatches := ⟨h.1, h.2, h.3⟩

theorem Gives.andThen {value : α} {result : Except BuildError β}
    (h : x.Gives (.ok value) state dispatches) (hn : (next value state).Gives result last later) :
    (x.andThen next).Gives result last (dispatches ++ later) := by
  obtain ⟨hr, rfl, rfl⟩ := h
  obtain ⟨rfl, rfl, rfl⟩ := hn
  rw [andThen_of_ok hr]
  exact ⟨rfl, rfl, rfl⟩

theorem Gives.andThen_log {result : Except BuildError α} {next : α → σ → Outcome σ α}
    (h : x.Gives result state dispatches)
    (hn : ∀ value state, (next value state).Gives (.ok value) state []) :
    (x.andThen next).Gives result state dispatches := by
  obtain ⟨rfl, rfl, rfl⟩ := h
  cases hr : x.result with
  | error error =>
    rw [andThen_of_error hr]
    exact ⟨rfl, rfl, rfl⟩
  | ok value =>
    obtain ⟨hv, hs, hd⟩ := hn value x.state
    rw [andThen_of_ok hr]
    exact ⟨hv, hs, by simp [hd]⟩

theorem Gives.andThen_error {error : BuildError} (h : x.Gives (.error error) state dispatches) :
    (x.andThen next).Gives (.error error) state dispatches := by
  obtain ⟨hr, rfl, rfl⟩ := h
  rw [andThen_of_error hr]
  exact ⟨rfl, rfl, rfl⟩

end Outcome

namespace Execution
variable {σ : Type} {g : Graph} {runner : Runner σ} {state middle last : σ}
variable {target name command : String} {commands done rest texts : List String}

private theorem dispatch_gives_ok {text : String}
    (h : (runner.execute command state).result = .ok text) :
    (dispatch runner target command state).Gives (.ok text) (runner.execute command state).state
      [⟨target, command, true⟩] :=
  ⟨h, rfl, dispatch_dispatches_of_ok h⟩

theorem dispatch_gives_error {error : BuildError}
    (h : (runner.execute command state).result = .error error) :
    (dispatch runner target command state).Gives (.error error) (runner.execute command state).state
      [⟨target, command, false⟩] :=
  ⟨h, rfl, by simp [dispatch, h, Except.isOk, Except.toBool]⟩

/-- After commands that are accepted, the remaining commands decide. -/
theorem runCommands_append {result : Except BuildError String} {dispatches : List Dispatch}
    (h : runner.Accepts state done texts middle)
    (hr : (runCommands runner target rest middle).Gives result last dispatches) :
    (runCommands runner target (done ++ rest) state).Gives
      (result.map (String.join texts ++ ·)) last (succeeded target done ++ dispatches) := by
  induction h with
  | nil state =>
    have hid : result.map (String.join [] ++ ·) = result := by cases result <;> simp [Except.map]
    exact hid.symm ▸ hr
  | @cons state last command text commands texts hs _ ih =>
    have hmap : result.map (String.join (text :: texts) ++ ·) =
        (result.map (String.join texts ++ ·)).map (text ++ ·) := by
      cases result <;> simp [Except.map, String.join_cons, String.append_assoc]
    rw [hmap]
    exact (dispatch_gives_ok hs).andThen ((ih hr).map (text ++ ·))

private theorem runCommands_of_accepts (h : runner.Accepts state commands texts last) :
    (runCommands runner target commands state).Gives (.ok (String.join texts)) last
      (succeeded target commands) := by
  have hnil : (runCommands runner target [] last).Gives (.ok "") last [] := ⟨rfl, rfl, rfl⟩
  simpa [Except.map] using runCommands_append h hnil

private theorem runCommands_of_refused {left : List String} {error : BuildError}
    (h : runner.Accepts state done texts middle)
    (he : (runner.execute command middle).result = .error error) :
    (runCommands runner target (done ++ command :: left) state).Gives (.error error)
      (runner.execute command middle).state (succeeded target done ++ [⟨target, command, false⟩]) := by
  have hstop : (runCommands runner target (command :: left) middle).Gives (.error error)
      (runner.execute command middle).state [⟨target, command, false⟩] :=
    (dispatch_gives_error he).andThen_error
  simpa [Except.map] using runCommands_append h hstop

theorem executeTarget_of_accepts (hne : g.recipe name ≠ [])
    (h : runner.Accepts state (g.recipe name) texts last) :
    (executeTarget g runner name state).Gives
      (.ok ⟨String.join texts, (g.recipe name).length⟩) last (g.completed name) := by
  unfold executeTarget
  split
  · contradiction
  · exact ((runCommands_of_accepts h).map _).after _

theorem executeTarget_of_refused {left : List String} {error : BuildError}
    (hr : g.recipe name = done ++ command :: left) (h : runner.Accepts state done texts middle)
    (he : (runner.execute command middle).result = .error error) :
    (executeTarget g runner name state).Gives (.error error) (runner.execute command middle).state
      (succeeded name done ++ [⟨name, command, false⟩]) := by
  unfold executeTarget
  rw [hr]
  split
  · simp_all
  · exact ((runCommands_of_refused h he).map _).after _

private theorem executeTarget_of_empty (h : g.recipe name = []) :
    (executeTarget g runner name state).Gives (.error (.targetHasNoCommands name)) state [] := by
  unfold executeTarget
  rw [h]
  exact ⟨rfl, rfl, rfl⟩

/-- How many commands the recipes of some names have together. -/
def commandCount (g : Graph) : List String → Nat
  | [] => 0
  | name :: rest => (g.recipe name).length + commandCount g rest

/-- After names whose recipes are accepted, the remaining names decide. -/
theorem executeOrder_append {before after : List String} {result : Except BuildError RunReport}
    {dispatches : List Dispatch} (hne : ∀ name ∈ before, g.recipe name ≠ [])
    (h : runner.Accepts state (before.flatMap g.recipe) texts middle)
    (hr : (executeOrder g runner after middle).Gives result last dispatches) :
    (executeOrder g runner (before ++ after) state).Gives
      (result.map fun report => ⟨before ++ report.order, commandCount g before + report.commandsRun,
        String.join texts ++ report.output⟩)
      last (before.flatMap g.completed ++ dispatches) := by
  induction before generalizing state texts with
  | nil =>
    cases h
    have hid : (result.map fun report => (⟨[] ++ report.order,
        commandCount g [] + report.commandsRun, String.join [] ++ report.output⟩ : RunReport)) =
        result := by
      cases result <;> simp [Except.map, commandCount]
    exact hid.symm ▸ hr
  | cons name before ih =>
    obtain ⟨hname, hbefore⟩ := List.forall_mem_cons.mp hne
    obtain ⟨shown, later, first, rfl, hs, hl⟩ := h.split
    have hmap : (result.map fun report => (⟨(name :: before) ++ report.order,
          commandCount g (name :: before) + report.commandsRun,
          String.join (shown ++ later) ++ report.output⟩ : RunReport)) =
        (result.map fun report => (⟨before ++ report.order,
          commandCount g before + report.commandsRun,
          String.join later ++ report.output⟩ : RunReport)).map
            (.cons name ⟨String.join shown, (g.recipe name).length⟩) := by
      cases result <;>
        simp [Except.map, RunReport.cons, commandCount, String.join_append, String.append_assoc,
          Nat.add_assoc]
    rw [hmap, List.flatMap_cons, List.append_assoc]
    exact (executeTarget_of_accepts hname hs).andThen ((ih hbefore hl).map _)

/-- The ways in which executing an order can end, with the result, the runner's state and the
commands that were dispatched. Each speaks of the recipes and of the runner only. -/
inductive Ending (g : Graph) (runner : Runner σ) (order : List String) (state : σ) :
    Except BuildError RunReport → σ → List Dispatch → Prop
  /-- Every name has commands and the runner accepts all of them. -/
  | complete {texts : List String} {last : σ}
      (recipes : ∀ name ∈ order, g.recipe name ≠ [])
      (accepted : runner.Accepts state (order.flatMap g.recipe) texts last) :
      Ending g runner order state (.ok ⟨order, commandCount g order, String.join texts⟩) last
        (order.flatMap g.completed)
  /-- A name has no commands; those before it have, and their commands are accepted. -/
  | noCommands {before after texts : List String} {name : String} {last : σ}
      (place : order = before ++ name :: after)
      (recipes : ∀ earlier ∈ before, g.recipe earlier ≠ [])
      (empty : g.recipe name = [])
      (accepted : runner.Accepts state (before.flatMap g.recipe) texts last) :
      Ending g runner order state (.error (.targetHasNoCommands name)) last
        (before.flatMap g.completed)
  /-- A command is refused; the names before its own have commands, and all before it is accepted. -/
  | refused {before after done left texts : List String} {name command : String} {middle : σ}
      {error : BuildError}
      (place : order = before ++ name :: after)
      (recipes : ∀ earlier ∈ before, g.recipe earlier ≠ [])
      (recipe : g.recipe name = done ++ command :: left)
      (accepted : runner.Accepts state (before.flatMap g.recipe ++ done) texts middle)
      (refusal : (runner.execute command middle).result = .error error) :
      Ending g runner order state (.error error) (runner.execute command middle).state
        (before.flatMap g.completed ++ succeeded name done ++ [⟨name, command, false⟩])

namespace Ending
variable {order : List String} {result : Except BuildError RunReport} {dispatches : List Dispatch}

private theorem exists_cons {name : String} (hne : g.recipe name ≠ [])
    (ha : runner.Accepts state (g.recipe name) texts middle)
    (h : Ending g runner order middle result last dispatches) :
    ∃ result' dispatches', Ending g runner (name :: order) state result' last dispatches' := by
  cases h with
  | complete recipes accepted =>
    exact ⟨_, _, .complete (List.forall_mem_cons.mpr ⟨hne, recipes⟩) (ha.append accepted)⟩
  | noCommands place recipes empty accepted =>
    exact ⟨_, _, .noCommands (congrArg (name :: ·) place) (List.forall_mem_cons.mpr ⟨hne, recipes⟩)
      empty (ha.append accepted)⟩
  | refused place recipes recipe accepted refusal =>
    have haccepted := ha.append accepted
    rw [← List.append_assoc] at haccepted
    exact ⟨_, _, .refused (congrArg (name :: ·) place) (List.forall_mem_cons.mpr ⟨hne, recipes⟩)
      recipe haccepted refusal⟩

/-- Whatever the recipes and the runner, an order ends in one of the ways. -/
theorem exists_ending (g : Graph) (runner : Runner σ) (order : List String) (state : σ) :
    ∃ result last dispatches, Ending g runner order state result last dispatches := by
  induction order generalizing state with
  | nil => exact ⟨_, _, _, .complete (by simp) (.nil state)⟩
  | cons name order ih =>
    have hplace : name :: order = [] ++ name :: order := rfl
    by_cases hname : g.recipe name = []
    · exact ⟨_, _, _, .noCommands hplace (by simp) hname (.nil state)⟩
    obtain ⟨texts, middle, ha⟩ | ⟨done, command, left, texts, middle, error, hr, ha, he⟩ :=
      runner.accepts_or_refuses (g.recipe name) state
    · obtain ⟨result, last, dispatches, h⟩ := ih middle
      obtain ⟨result', dispatches', h'⟩ := h.exists_cons hname ha
      exact ⟨result', last, dispatches', h'⟩
    · exact ⟨_, _, _, .refused hplace (by simp) hr ha he⟩

theorem gives (h : Ending g runner order state result last dispatches) :
    (executeOrder g runner order state).Gives result last dispatches := by
  cases h with
  | complete recipes accepted =>
    have hnil : (executeOrder g runner [] last).Gives (.ok .empty) last [] := ⟨rfl, rfl, rfl⟩
    simpa [Except.map, RunReport.empty] using executeOrder_append recipes accepted hnil
  | @noCommands before after texts name _ place recipes empty accepted =>
    have hstop : (executeOrder g runner (name :: after) last).Gives
        (.error (.targetHasNoCommands name)) last [] := (executeTarget_of_empty empty).andThen_error
    simpa [place, Except.map] using executeOrder_append recipes accepted hstop
  | @refused before after done left texts name command middle error place recipes recipe accepted
      refusal =>
    obtain ⟨shown, later, first, rfl, hs, hl⟩ := accepted.split
    have hstop : (executeOrder g runner (name :: after) first).Gives (.error error)
        (runner.execute command middle).state (succeeded name done ++ [⟨name, command, false⟩]) :=
      (executeTarget_of_refused recipe hl refusal).andThen_error
    simpa [place, Except.map] using executeOrder_append recipes hs hstop

end Ending

theorem executeOrder_gives_iff {order : List String} {result : Except BuildError RunReport}
    {dispatches : List Dispatch} :
    (executeOrder g runner order state).Gives result last dispatches ↔
      Ending g runner order state result last dispatches := by
  constructor
  · rintro ⟨rfl, rfl, rfl⟩
    obtain ⟨result, last, dispatches, h⟩ := Ending.exists_ending g runner order state
    obtain ⟨hr, hs, hd⟩ := h.gives
    rwa [hr, hs, hd]
  · exact Ending.gives

/-- An execution fails for a name without commands or with the error of one of its commands. -/
theorem executeOrder_error_cases {order : List String} {error : BuildError}
    (h : (executeOrder g runner order state).result = .error error) :
    (∃ name, error = .targetHasNoCommands name) ∨
      ∃ name, ∃ command ∈ g.recipe name, ∃ middle,
        (runner.execute command middle).result = .error error := by
  have hend := executeOrder_gives_iff.mp (Outcome.gives_self (executeOrder g runner order state))
  rw [h] at hend
  generalize (executeOrder g runner order state).dispatches = dispatches at hend
  generalize (executeOrder g runner order state).state = last at hend
  cases hend with
  | @noCommands _ _ _ name => exact .inl ⟨name, rfl⟩
  | @refused _ _ _ _ _ name command middle _ _ _ recipe _ refusal =>
    exact .inr ⟨name, command, by simp [recipe], middle, refusal⟩

theorem length_completed (g : Graph) (names : List String) :
    (names.flatMap g.completed).length = commandCount g names := by
  induction names with
  | nil => rfl
  | cons name rest ih => simp [commandCount, Graph.completed, succeeded, ← ih]

/-- Execution stops at the first name that has no commands and at the first command that fails,
with the commands before that place dispatched and none behind it. Otherwise it reports the order,
the number of commands and their texts, all in the order of dispatch. -/
theorem execution_is_fail_fast (g : Graph) (runner : Runner σ) (order : List String) (state : σ) :
    (∀ result last dispatches,
        (executeOrder g runner order state).Gives result last dispatches ↔
          Ending g runner order state result last dispatches) ∧
      Replays runner state (executeOrder g runner order state).dispatches
        (executeOrder g runner order state).state ∧
      ∀ report, (executeOrder g runner order state).result = .ok report →
        report.commandsRun = (executeOrder g runner order state).dispatches.length := by
  refine ⟨fun _ _ _ => executeOrder_gives_iff, replays_executeOrder g runner order state,
    fun report hr => ?_⟩
  have hend := executeOrder_gives_iff.mp (Outcome.gives_self (executeOrder g runner order state))
  rw [hr] at hend
  generalize (executeOrder g runner order state).dispatches = dispatches at hend ⊢
  cases hend with
  | complete => rw [length_completed]

end Execution
end BuildRunner
