import BuildRunner.Proofs.Execution.ReportedOutput
import BuildRunner.Proofs.Runner.Unlimited

/-! A dry run and a run on a host of the same target. Both go through the same commands, so the dry
run tells what will be done, and the other one can only end earlier, for a reason that lies with the
host. -/
namespace BuildRunner

namespace Execution
variable {σ : Type} {g : Graph} {runner : Runner σ} {state middle : σ}

/-- Commands that are accepted have been dispatched, whatever comes after them. -/
theorem executeOrder_dispatches_of_accepts {before after done left texts : List String}
    {name : String} (recipes : ∀ earlier ∈ before, g.recipe earlier ≠ [])
    (recipe : g.recipe name = done ++ left)
    (accepted : runner.Accepts state (before.flatMap g.recipe ++ done) texts middle) :
    ∃ later, (executeOrder g runner (before ++ name :: after) state).dispatches =
      before.flatMap g.completed ++ succeeded name done ++ later := by
  obtain ⟨shown, own, first, rfl, hbefore, hdone⟩ := accepted.split
  have htarget : (executeTarget g runner name first).dispatches =
      succeeded name done ++ (runCommands runner name left middle).dispatches := by
    rw [executeTarget_dispatches, recipe]
    exact (runCommands_append hdone (Outcome.gives_self _)).dispatches
  have horder : ∃ rest, (executeOrder g runner (name :: after) first).dispatches =
      (executeTarget g runner name first).dispatches ++ rest := by
    rw [executeOrder]
    cases hr : (executeTarget g runner name first).result with
    | error error => exact ⟨[], by rw [Outcome.andThen_of_error hr, List.append_nil]⟩
    | ok report => exact ⟨_, by rw [Outcome.andThen_of_ok hr]⟩
  obtain ⟨rest, hrest⟩ := horder
  have hafter := Outcome.gives_self (executeOrder g runner (name :: after) first)
  have hall := (executeOrder_append recipes hbefore hafter).dispatches
  refine ⟨(runCommands runner name left middle).dispatches ++ rest, ?_⟩
  rw [hall, hrest, htarget]
  simp only [List.append_assoc]

end Execution

section
variable {η : Type} {host : Host η}

/-- What the report of a dry run tells of the report of a run on a host, with the commands of both. -/
structure RunReport.Tells (foretold report : RunReport) (commands : List String) (host : Host η)
    (s : η) : Prop where
  order : foretold.order = report.order
  commandsRun : foretold.commandsRun = report.commandsRun
  output : foretold.output = joinLines (commands.map Command.shownText)
  /-- The host shows the same lines, but for commands with a marker, and those of each process after
  the line of its command. -/
  performed : ∃ children last, host.Performs s commands children last ∧
    report.output = joinLines ((commands.zip children).flatMap fun (raw, child) =>
      Command.ownLines raw ++ child.lines)

/-- How a dry run stands to a run on a host of the same. -/
structure Outcome.Foretells (told : Outcome Writer RunReport)
    (done : Outcome (Writer × η) RunReport) (host : Host η) (s : η) : Prop where
  /-- The dry run shows the commands that it comes to, each in a line. -/
  shown : told.state.written =
    joinLines ((commandsEnded true told.dispatches).map Command.shownText)
  /-- What is carried out was told: the same commands, one after the other. -/
  success : ∀ report, done.result = .ok report →
    ∃ foretold, told.result = .ok foretold ∧ told.dispatches = done.dispatches ∧
      foretold.Tells report (told.dispatches.map (·.command)) host s
  /-- What cannot be told cannot be carried out. The error is the same, unless the host has one for
  an earlier command, which the dry run has shown. -/
  failure : ∀ error, told.result = .error error →
    ∃ error', done.result = .error error' ∧
      ((error' = error ∧ done.dispatches = told.dispatches) ∨
        ∃ before target command after,
          told.dispatches = before ++ ⟨target, command, true⟩ :: after ∧
          done.dispatches = before ++ [⟨target, command, false⟩] ∧ Host.Fault command error')

private theorem Outcome.Foretells.of_gives {told told' : Outcome Writer RunReport}
    {done done' : Outcome (Writer × η) RunReport} {s : η} (h : told.Foretells done host s)
    (ht : told'.Gives told.result told.state told.dispatches)
    (hd : done'.Gives done.result done.state done.dispatches) : told'.Foretells done' host s where
  shown := by
    rw [ht.state, ht.dispatches]
    exact h.shown
  success := by
    rw [ht.result, ht.dispatches, hd.result, hd.dispatches]
    exact h.success
  failure := by
    rw [ht.result, ht.dispatches, hd.result, hd.dispatches]
    exact h.failure

namespace Execution
variable {g : Graph} {order : List String} {w : Writer} {s : η}

private theorem Ending.shown {result : Except BuildError RunReport} {last : Writer}
    {dispatches : List Dispatch} (h : Ending g .dry order (.new none) result last dispatches) :
    last.written = joinLines ((commandsEnded true dispatches).map Command.shownText) := by
  cases h with
  | complete recipes accepted =>
    rw [(Runner.written_of_dry_accepts rfl accepted).2.1, commandsEnded_completed, if_pos rfl]
    exact String.empty_append
  | noCommands place recipes empty accepted =>
    rw [(Runner.written_of_dry_accepts rfl accepted).2.1, commandsEnded_completed, if_pos rfl]
    exact String.empty_append
  | @refused before after done left texts name command middle error place recipes recipe accepted
      refusal =>
    obtain ⟨hroom, hwritten, -⟩ := Runner.written_of_dry_accepts rfl accepted
    have hraw : Command.parse? command = none := by
      by_contra hparsed
      rw [(Runner.dry_execute_of_parsed hroom hparsed).1] at refusal
      cases refusal
    rw [Runner.dry_execute_of_unparsed hraw, hwritten]
    simp [Writer.new]

private theorem dry_accepts_of_onHost {state last : Writer × η} {commands texts : List String}
    (hs : state.1.room = none) (h : (Runner.onHost host).Accepts state commands texts last)
    (hw : w.room = none) :
    Runner.dry.Accepts w commands (commands.map (Command.shownText · ++ "\n"))
      ⟨none, w.written ++ joinLines (commands.map Command.shownText)⟩ := by
  obtain ⟨-, children, hperforms, -⟩ := Host.performs_of_accepts hs h
  exact Runner.dry_accepts hw hperforms.parsed

private theorem executeOrder_success_foretold {report : RunReport}
    (h : (executeOrder g (.onHost host) order (.new none, s)).result = .ok report) :
    let told := executeOrder g .dry order (.new none)
    ∃ foretold, told.result = .ok foretold ∧
      told.dispatches = (executeOrder g (.onHost host) order (.new none, s)).dispatches ∧
      foretold.Tells report (told.dispatches.map (·.command)) host s := by
  intro told
  have hend := executeOrder_gives_iff.mp
    (Outcome.gives_self (executeOrder g (.onHost host) order (.new none, s)))
  rw [h] at hend
  generalize (executeOrder g (.onHost host) order (.new none, s)).dispatches = dispatches at hend ⊢
  generalize (executeOrder g (.onHost host) order (.new none, s)).state = last at hend
  cases hend with
  | complete recipes accepted =>
    obtain ⟨-, children, hperforms, htexts⟩ := Host.performs_of_accepts rfl accepted
    have hdry := dry_accepts_of_onHost rfl accepted (w := .new none) rfl
    have htold : told.Gives _ _ _ := (Ending.complete recipes hdry).gives
    have hcommands : told.dispatches.map (·.command) = order.flatMap g.recipe := by
      simp [htold.dispatches, List.map_flatMap, Graph.completed]
    rw [hcommands]
    exact ⟨_, htold.result, htold.dispatches, {
      order := rfl
      commandsRun := rfl
      output := (Runner.written_of_dry_accepts rfl hdry).2.2
      performed := ⟨children, last.2, hperforms, htexts⟩ }⟩

/-- If the dry execution fails, the host fails at the same place or before it. -/
theorem executeOrder_failure_foretold {error : BuildError}
    (h : (executeOrder g .dry order (.new none)).result = .error error) :
    let told := executeOrder g .dry order (.new none)
    let done := executeOrder g (.onHost host) order (.new none, s)
    ∃ error', done.result = .error error' ∧
      ((error' = error ∧ done.dispatches = told.dispatches) ∨
        ∃ before target command after,
          told.dispatches = before ++ ⟨target, command, true⟩ :: after ∧
          done.dispatches = before ++ [⟨target, command, false⟩] ∧ Host.Fault command error') := by
  intro told done
  have hend := executeOrder_gives_iff.mp (Outcome.gives_self done)
  generalize done.result = result at hend ⊢
  generalize done.dispatches = dispatches at hend ⊢
  generalize done.state = last at hend
  cases hend with
  | complete recipes accepted =>
    have hdry := dry_accepts_of_onHost rfl accepted (w := .new none) rfl
    rw [(Ending.complete recipes hdry).gives.result] at h
    cases h
  | noCommands place recipes empty accepted =>
    have hdry := dry_accepts_of_onHost rfl accepted (w := .new none) rfl
    have htold := (Ending.noCommands place recipes empty hdry).gives
    rw [htold.result] at h
    cases h
    exact ⟨_, rfl, .inl ⟨rfl, htold.dispatches.symm⟩⟩
  | @refused before after doneCommands left texts name command middle error' place recipes recipe
      accepted refusal =>
    have hdry := dry_accepts_of_onHost rfl accepted (w := .new none) rfl
    obtain ⟨hroom, -⟩ := Host.performs_of_accepts rfl accepted
    refine ⟨error', rfl, ?_⟩
    obtain ⟨hraw, rfl⟩ | hfault := Runner.onHost_execute_error hroom refusal
    · -- an empty command is refused by both runners
      have hrefused := Runner.dry_execute_of_unparsed hraw
        ⟨none, (Writer.new none).written ++ joinLines
          ((before.flatMap g.recipe ++ doneCommands).map Command.shownText)⟩
      have htold := (Ending.refused place recipes recipe hdry (by rw [hrefused])).gives
      rw [htold.result] at h
      cases h
      exact .inl ⟨rfl, htold.dispatches.symm⟩
    · -- the dry runner has gone past the command, whatever it does then
      have hnext := hdry.append (.cons (Runner.dry_execute_of_parsed rfl hfault.parsed).1 (.nil _))
      rw [List.append_assoc] at hnext
      rw [List.append_cons] at recipe
      obtain ⟨later, hlater⟩ := executeOrder_dispatches_of_accepts recipes recipe hnext
      rw [← place] at hlater
      refine .inr ⟨before.flatMap g.completed ++ succeeded name doneCommands, name, command, later,
        ?_, rfl, hfault⟩
      rw [hlater]
      simp [succeeded]

private theorem executeOrder_foretells (g : Graph) (host : Host η) (order : List String) (s : η) :
    (executeOrder g .dry order (.new none)).Foretells
      (executeOrder g (.onHost host) order (.new none, s)) host s where
  shown := (executeOrder_gives_iff.mp (Outcome.gives_self _)).shown
  success _ := executeOrder_success_foretold
  failure _ := executeOrder_failure_foretold

end Execution

end
end BuildRunner
