import BuildRunner.Proofs.Execution.FaultPrecedence
import BuildRunner.Proofs.Runner.Writing

/-! The output that is reported and the text that was written. With a report they are the same.
Without one, the text is what the commands that completed have shown, and then whole lines of the
command that failed. -/
namespace BuildRunner

/-- The commands of a trace that ended in success, or those that did not. -/
def commandsEnded (success : Bool) (trace : List Dispatch) : List String :=
  (trace.filter (·.succeeded == success)).map (·.command)

section
variable (success : Bool)

@[simp] theorem commandsEnded_append (first second : List Dispatch) :
    commandsEnded success (first ++ second) =
      commandsEnded success first ++ commandsEnded success second := by
  simp [commandsEnded]

@[simp] theorem commandsEnded_refused (target command : String) :
    commandsEnded success [⟨target, command, false⟩] = if success then [] else [command] := by
  cases success <;> rfl

@[simp] theorem commandsEnded_succeeded (target : String) (commands : List String) :
    commandsEnded success (succeeded target commands) = if success then commands else [] := by
  cases success with
  | false => simp [commandsEnded, succeeded]
  | true =>
    rw [commandsEnded, List.filter_eq_self.mpr (by simp [succeeded]), map_command_succeeded]
    rfl

@[simp] theorem commandsEnded_completed (g : Graph) (names : List String) :
    commandsEnded success (names.flatMap g.completed) =
      if success then names.flatMap g.recipe else [] := by
  induction names with
  | nil => cases success <;> rfl
  | cons name names ih => cases success <;> simp [Graph.completed, ih]

end

section
variable {σ α β : Type}

/-- How the text that an execution has written from a state on stands to its outcome. -/
structure Outcome.Shows (x : Outcome σ α) (runner : Runner σ) (written : σ → String)
    (due : String → σ → List String) (output : α → String) (state : σ) : Prop where
  /-- It is the output that is reported. -/
  report : ∀ value, x.result = .ok value → written x.state = written state ++ output value
  /-- It is what the runner replied to the commands that succeeded, followed by whole lines, from
  the first on, of the one that failed, if one did. -/
  failure : ∀ error, x.result = .error error →
    (∀ d ∈ x.dispatches, IsOneLine d.command) →
    ∃ texts middle shown,
      runner.Accepts state (commandsEnded true x.dispatches) texts middle ∧
      (commandsEnded false x.dispatches).length ≤ 1 ∧
      shown <+: (commandsEnded false x.dispatches).flatMap (due · middle) ∧
      (∀ line ∈ shown, IsOneLine line) ∧
      written x.state = written state ++ String.join texts ++ joinLines shown

namespace Outcome.Shows
variable {x : Outcome σ α} {y : Outcome σ α} {runner : Runner σ} {written : σ → String}
variable {due : String → σ → List String} {output : α → String} {state : σ}

private theorem of_gives (h : x.Shows runner written due output state)
    (hy : y.Gives x.result x.state x.dispatches) : y.Shows runner written due output state where
  report := by
    rw [hy.result, hy.state]
    exact h.report
  failure := by
    rw [hy.result, hy.state, hy.dispatches]
    exact h.failure

private theorem of_idle {error : BuildError} (log : List Event) :
    (⟨.error error, state, log, []⟩ : Outcome σ α).Shows runner written due output state where
  report value h := by cases h
  failure _ _ _ := ⟨[], state, [], .nil state, by simp [commandsEnded], by simp, by simp, by simp⟩

end Outcome.Shows

namespace Execution
variable {g : Graph} {runner : Runner σ} {written : σ → String} {due : String → σ → List String}
variable {state last : σ}

private theorem written_of_accepts (hw : runner.Writes written due) {commands texts : List String}
    (h : runner.Accepts state commands texts last) :
    written last = written state ++ String.join texts := by
  induction h with
  | nil => simp
  | cons shown _ ih => rw [ih, hw.reply _ _ _ shown, String.join_cons, String.append_assoc]

private theorem Ending.shows (hw : runner.Writes written due) {order : List String}
    {result : Except BuildError RunReport} {dispatches : List Dispatch}
    (h : Ending g runner order state result last dispatches) :
    (⟨result, last, [], dispatches⟩ : Outcome σ RunReport).Shows runner written due (·.output)
      state := by
  cases h with
  | complete recipes accepted =>
    refine ⟨fun value hvalue => ?_, nofun⟩
    cases hvalue
    exact written_of_accepts hw accepted
  | @noCommands before after texts name _ place recipes empty accepted =>
    refine ⟨nofun, fun _ _ _ => ⟨texts, last, [], ?_, ?_, List.nil_prefix, by simp, ?_⟩⟩
    · rwa [commandsEnded_completed, if_pos rfl]
    · rw [commandsEnded_completed]
      exact Nat.zero_le 1
    · rw [joinLines_nil, String.append_empty]
      exact written_of_accepts hw accepted
  | @refused before after done left texts name command middle error place recipes recipe accepted
      refusal =>
    -- the recipes before the name, and what its own recipe did before the command, were accepted
    have haccepted : commandsEnded true (before.flatMap g.completed ++ succeeded name done ++
        [⟨name, command, false⟩]) = before.flatMap g.recipe ++ done := by simp
    have hrefused : commandsEnded false (before.flatMap g.completed ++ succeeded name done ++
        [⟨name, command, false⟩]) = [command] := by simp
    refine ⟨nofun, fun _ _ hone => ?_⟩
    have hcommand : IsOneLine command := hone ⟨name, command, false⟩ (by simp)
    obtain ⟨shown, hfirst, hwritten⟩ := hw.failure command middle error hcommand refusal
    refine ⟨texts, middle, shown, ?_, ?_, ?_, ?_, ?_⟩
    · rwa [haccepted]
    · rw [hrefused, List.length_singleton]
    · rwa [hrefused, List.flatMap_singleton]
    · exact fun line hl => hw.oneLine command middle hcommand line (hfirst.subset hl)
    · rw [← written_of_accepts hw accepted]
      exact hwritten

private theorem executeOrder_shows (hw : runner.Writes written due) (g : Graph)
    (order : List String) (state : σ) :
    (executeOrder g runner order state).Shows runner written due (·.output) state :=
  (Ending.shows hw (executeOrder_gives_iff.mp (Outcome.gives_self _))).of_gives ⟨rfl, rfl, rfl⟩

private theorem executeOrder_singleton (g : Graph) (runner : Runner σ) (name : String) (state : σ) :
    (executeOrder g runner [name] state).Gives
      ((executeTarget g runner name state).result.map (RunReport.cons name · .empty))
      (executeTarget g runner name state).state (executeTarget g runner name state).dispatches := by
  cases hr : (executeTarget g runner name state).result with
  | error error =>
    rw [executeOrder, Outcome.andThen_of_error hr]
    exact ⟨rfl, rfl, rfl⟩
  | ok report =>
    rw [executeOrder, Outcome.andThen_of_ok hr]
    exact ⟨rfl, rfl, by simp [executeOrder, Outcome.map, Outcome.ok]⟩

private theorem executeTarget_shows (hw : runner.Writes written due) (g : Graph) (name : String)
    (state : σ) :
    (executeTarget g runner name state).Shows runner written due (·.output) state := by
  have horder := executeOrder_shows hw g [name] state
  have hone := executeOrder_singleton g runner name state
  constructor
  · intro report hreport
    have hresult := hone.result
    rw [hreport] at hresult
    have houtput := horder.report _ hresult
    rw [hone.state] at houtput
    simpa [RunReport.cons, RunReport.empty] using houtput
  · intro error herror hcommands
    have hresult := hone.result
    rw [herror] at hresult
    rw [← hone.dispatches] at hcommands
    have hfailure := horder.failure error hresult hcommands
    rwa [hone.dispatches, hone.state] at hfailure

private theorem run_shows (hw : runner.Writes written due) (g : Graph) (target : String)
    (state : σ) :
    (run g runner target state).Shows runner written due (·.output) state := by
  obtain ⟨error, log, -, hrun⟩ | ⟨-, hgives⟩ := run_cases g runner target state
  · rw [hrun]
    exact .of_idle log
  · exact (executeOrder_shows hw g (g.postorder target) state).of_gives hgives

end Execution

/-- What is executed for a graph, be it a recipe, an order or a whole run, is reported as the runner
has written it. -/
structure Runner.ReportsWritten (runner : Runner σ) (written : σ → String)
    (due : String → σ → List String) (g : Graph) : Prop where
  target : ∀ name state, (Execution.executeTarget g runner name state).Shows runner written due
    (·.output) state
  order : ∀ order state, (Execution.executeOrder g runner order state).Shows runner written due
    (·.output) state
  run : ∀ target state, (Execution.run g runner target state).Shows runner written due
    (·.output) state

private theorem Runner.Writes.reportsWritten {runner : Runner σ} {written : σ → String}
    {due : String → σ → List String} (hw : runner.Writes written due) (g : Graph) :
    runner.ReportsWritten written due g where
  target := Execution.executeTarget_shows hw g
  order := Execution.executeOrder_shows hw g
  run := Execution.run_shows hw g

end

/-- A process is cut off after the line that its writer had room for. -/
example :
    let host : Host Unit :=
      ⟨fun _ _ => true, fun _ _ s => (.ok ⟨[0x61, 0x0A, 0x62, 0x0A], none, .code 0⟩, s)⟩
    let g : Graph := ⟨.ofList [("t", [])], .ofList [("t", ["show"])]⟩
    let x := Execution.executeTarget g (.onHost host) "t" (.new (some 2), ())
    x.result = .error (.io .closed) ∧ x.state.1.written = "show\na\n" := by
  exact ⟨rfl, rfl⟩

end BuildRunner
