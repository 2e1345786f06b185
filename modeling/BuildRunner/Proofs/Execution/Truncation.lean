import BuildRunner.Proofs.Execution.FailFast
import BuildRunner.Proofs.RuleFile.WellFormed
import BuildRunner.Proofs.Runner.Limits

/-! Executions that may write a number of lines, against those that may write any. The two go the
same way down to the first line that there is no room for, and there the one with a limit ends. -/
namespace BuildRunner
open Text

/-- Each command of the graph can stand in one line. -/
def Graph.OneLineCommands (g : Graph) : Prop :=
  ∀ name, ∀ command ∈ g.recipe name, IsOneLine command

private theorem RuleFile.oneLineCommands_of_parseText {policy : DuplicatePolicy} {text : String}
    {g : Graph} (h : (parseText policy text).result = .ok g) : g.OneLineCommands :=
  fun name command hc => ((wellFormed_of_parseText h).commands name command hc).no_lineFeed

section
variable {σ α β : Type}

/-- A trace that stops at the command with the first line after so many. That command counts as
failed, and the later ones of the whole trace are left out. -/
inductive StopsAt (screen : Screen σ) (runner : Runner σ) (limit : Nat) (state : σ) :
    List Dispatch → List Dispatch → Prop
  | command {before after : List Dispatch} {d : Dispatch} {middle : σ}
      (replayed : Replays runner state before middle)
      (room : lineCount (screen.writer middle).written ≤ limit)
      (none_left :
        limit < lineCount (screen.writer (runner.execute d.command middle).state).written) :
      StopsAt screen runner limit state (before ++ d :: after)
        (before ++ [{ d with succeeded := false }])

private theorem StopsAt.before {screen : Screen σ} {runner : Runner σ} {limit : Nat}
    {state middle : σ}
    {first whole cut : List Dispatch} (h : StopsAt screen runner limit middle whole cut)
    (hfirst : Replays runner state first middle) :
    StopsAt screen runner limit state (first ++ whole) (first ++ cut) := by
  cases h with
  | @command before after d middle replayed room none_left =>
    rw [← List.append_assoc, ← List.append_assoc]
    exact .command (hfirst.append replayed) room none_left

private theorem StopsAt.append {screen : Screen σ} {runner : Runner σ} {limit : Nat} {state : σ}
    {whole cut : List Dispatch} (h : StopsAt screen runner limit state whole cut)
    (later : List Dispatch) : StopsAt screen runner limit state (whole ++ later) cut := by
  cases h with
  | command replayed room none_left =>
    rw [List.append_assoc, List.cons_append]
    exact .command replayed room none_left

/-- How an execution with room for so many lines in all stands to the one from the same state with
room for any. -/
structure Outcome.CutsOff (whole cut : Outcome σ α) (screen : Screen σ) (runner : Runner σ)
    (limit : Nat) (state : σ) : Prop where
  grows : ∃ lines,
    screen.writer whole.state = ⟨none, (screen.writer state).written ++ joinLines lines⟩
  fits : lineCount (screen.writer whole.state).written ≤ limit →
    cut.Gives whole.result (screen.capped limit whole.state) whole.dispatches
  exceeds : lineCount (screen.writer state).written ≤ limit →
    limit < lineCount (screen.writer whole.state).written →
    ∃ stop dispatches, cut.Gives (.error (.io .closed)) stop dispatches ∧
      (screen.writer stop).written = firstLines limit (screen.writer whole.state).written ∧
      StopsAt screen runner limit state whole.dispatches dispatches

namespace Outcome.CutsOff
variable {x y : Outcome σ α} {screen : Screen σ} {runner : Runner σ} {limit : Nat} {state : σ}

private theorem unlimited (h : x.CutsOff y screen runner limit state)
    (hw : (screen.writer state).Unlimited) : (screen.writer x.state).Unlimited := by
  obtain ⟨lines, hlast⟩ := h.grows
  rw [hlast]
  exact hw.append lines

private theorem idle (hw : (screen.writer state).Unlimited) (result : Except BuildError α)
    (log log' : List Event) :
    Outcome.CutsOff ⟨result, state, log, []⟩ ⟨result, screen.capped limit state, log', []⟩ screen
      runner limit state where
  grows := ⟨[], by rw [joinLines_nil, String.append_empty, ← hw.room]⟩
  fits _ := ⟨rfl, rfl, rfl⟩
  exceeds hle hlt := absurd hlt (Nat.not_lt.mpr hle)

private theorem map (h : x.CutsOff y screen runner limit state) (f : α → β) :
    (x.map f).CutsOff (y.map f) screen runner limit state where
  grows := h.grows
  fits hle := (h.fits hle).map f
  exceeds hle hlt := by
    obtain ⟨stop, dispatches, hgives, hstop⟩ := h.exceeds hle hlt
    exact ⟨stop, dispatches, hgives.map f, hstop⟩

private theorem after (h : x.CutsOff y screen runner limit state) (events events' : List Event) :
    (x.after events).CutsOff (y.after events') screen runner limit state where
  grows := h.grows
  fits hle := (h.fits hle).after events'
  exceeds hle hlt := by
    obtain ⟨stop, dispatches, hgives, hstop⟩ := h.exceeds hle hlt
    exact ⟨stop, dispatches, hgives.after events', hstop⟩

private theorem lineCount_le (h : x.CutsOff y screen runner limit state) :
    lineCount (screen.writer state).written ≤ lineCount (screen.writer x.state).written := by
  obtain ⟨lines, hlast⟩ := h.grows
  rw [hlast, lineCount_append]
  exact Nat.le_add_right _ _

/-- The second step goes on where the first one ended, unless a line was refused in the first. -/
theorem andThen {next next' : α → σ → Outcome σ β} (hw : (screen.writer state).Unlimited)
    (h : x.CutsOff y screen runner limit state) (hx : Replays runner state x.dispatches x.state)
    (hn : ∀ value, (next value x.state).CutsOff (next' value (screen.capped limit x.state)) screen
      runner limit x.state) :
    (x.andThen next).CutsOff (y.andThen next') screen runner limit state := by
  cases hr : x.result with
  | error error =>
    rw [Outcome.andThen_of_error hr]
    refine ⟨h.grows, fun hle => ?_, fun hle hlt => ?_⟩
    · have hfits := h.fits hle
      rw [hr] at hfits
      exact hfits.andThen_error
    · obtain ⟨stop, dispatches, hgives, hstop⟩ := h.exceeds hle hlt
      exact ⟨stop, dispatches, hgives.andThen_error, hstop⟩
  | ok value =>
    have hnext := hn value
    rw [Outcome.andThen_of_ok hr]
    refine ⟨?grows, fun hle => ?fits, fun hle hlt => ?exceeds⟩
    case grows =>
      obtain ⟨first, hfirst⟩ := h.grows
      obtain ⟨later, hlater⟩ := hnext.grows
      refine ⟨first ++ later, ?_⟩
      rw [hlater, hfirst, joinLines_append, String.append_assoc]
    case fits =>
      have hfits := h.fits (hnext.lineCount_le.trans hle)
      rw [hr] at hfits
      exact hfits.andThen (hnext.fits hle)
    case exceeds =>
      by_cases hroom : lineCount (screen.writer x.state).written ≤ limit
      · have hfits := h.fits hroom
        rw [hr] at hfits
        obtain ⟨stop, dispatches, hgives, hwritten, hstops⟩ := hnext.exceeds hroom hlt
        exact ⟨stop, _, hfits.andThen hgives, hwritten, hstops.before hx⟩
      · obtain ⟨stop, dispatches, hgives, hwritten, hstops⟩ := h.exceeds hle (Nat.not_le.mp hroom)
        refine ⟨stop, dispatches, hgives.andThen_error, ?_, hstops.append _⟩
        -- what the second step adds stands behind the lines that are left
        obtain ⟨later, hlater⟩ := hnext.grows
        rw [hwritten, hlater]
        exact (firstLines_append (h.unlimited hw).finished (Nat.le_of_not_le hroom) _).symm

end Outcome.CutsOff

namespace Execution
variable {g : Graph} {screen : Screen σ} {runner : Runner σ} {state : σ}

private theorem dispatch_cutsOff (hr : runner.Truncates screen)
    (hw : (screen.writer state).Unlimited)
    (limit : Nat) (target : String) {command : String} (hone : IsOneLine command) :
    (dispatch runner target command state).CutsOff
      (dispatch runner target command (screen.capped limit state)) screen runner limit state := by
  have ht := hr command state limit hone hw
  refine ⟨ht.grows, fun hle => ?_, fun hle hlt => ?_⟩
  · obtain ⟨hresult, hstate⟩ := ht.fits hle
    exact ⟨hresult, hstate, by simp [dispatch, hresult]⟩
  · obtain ⟨hresult, hwritten⟩ := ht.exceeds hle hlt
    have hnothing : Replays runner state [] state := rfl
    exact ⟨_, _, dispatch_gives_error hresult, hwritten, .command hnothing hle hlt⟩

private theorem runCommands_cutsOff (hr : runner.Truncates screen)
    (hw : (screen.writer state).Unlimited) (limit : Nat) (target : String) {commands : List String}
    (hone : ∀ command ∈ commands, IsOneLine command) :
    (runCommands runner target commands state).CutsOff
      (runCommands runner target commands (screen.capped limit state)) screen runner limit
      state := by
  induction commands generalizing state with
  | nil => exact .idle hw _ _ _
  | cons command commands ih =>
    obtain ⟨hcommand, hcommands⟩ := List.forall_mem_cons.mp hone
    have hfirst := dispatch_cutsOff hr hw limit target hcommand
    exact hfirst.andThen hw (replays_dispatch runner target command state) fun text =>
      (ih (hfirst.unlimited hw) hcommands).map _

private theorem executeTarget_cutsOff (hr : runner.Truncates screen) (hg : g.OneLineCommands)
    (hw : (screen.writer state).Unlimited) (limit : Nat) (name : String) :
    (executeTarget g runner name state).CutsOff
      (executeTarget g runner name (screen.capped limit state)) screen runner limit state := by
  have hcommands := runCommands_cutsOff hr hw limit name (hg name)
  unfold executeTarget
  split
  · exact .idle hw _ _ _
  · exact (hcommands.map _).after _ _

private theorem executeOrder_cutsOff (hr : runner.Truncates screen) (hg : g.OneLineCommands)
    (hw : (screen.writer state).Unlimited) (limit : Nat) (order : List String) :
    (executeOrder g runner order state).CutsOff
      (executeOrder g runner order (screen.capped limit state)) screen runner limit state := by
  induction order generalizing state with
  | nil => exact .idle hw _ _ _
  | cons name order ih =>
    have hfirst := executeTarget_cutsOff hr hg hw limit name
    exact hfirst.andThen hw (replays_executeTarget g runner name state) fun report =>
      (ih (hfirst.unlimited hw)).map _

private theorem run_cutsOff (hr : runner.Truncates screen) (hg : g.OneLineCommands)
    (hw : (screen.writer state).Unlimited) (limit : Nat) (target : String) :
    (run g runner target state).CutsOff (run g runner target (screen.capped limit state)) screen
      runner limit state := by
  refine Outcome.CutsOff.andThen hw (.idle hw _ _ _) rfl fun _ => ?_
  refine Outcome.CutsOff.andThen hw (.idle hw _ _ _) rfl fun order => ?_
  have horder := executeOrder_cutsOff hr hg hw limit order
  exact (horder.after _ _).andThen hw (replays_executeOrder g runner order state) fun report =>
    .idle (horder.unlimited hw) _ _ _

end Execution

/-- The text that an execution leaves. -/
def Screen.shown (screen : Screen σ) (x : Outcome σ α) : String := (screen.writer x.state).written

/-- Executions that begin with a new writer, one for each limit on its lines and one without any.
Those with a limit are cut off from the whole one and not different in any other way. -/
structure OnlyTruncated (screen : Screen σ) (runner : Runner σ) (start : σ)
    (outcome : Option Nat → Outcome σ α) : Prop where
  finished : Finished (screen.shown (outcome none)).toList
  fits : ∀ limit, lineCount (screen.shown (outcome none)) ≤ limit →
    (outcome (some limit)).result = (outcome none).result ∧
      screen.shown (outcome (some limit)) = screen.shown (outcome none) ∧
      (outcome (some limit)).dispatches = (outcome none).dispatches
  exceeds : ∀ limit, limit < lineCount (screen.shown (outcome none)) →
    (outcome (some limit)).result = .error (.io .closed) ∧
      screen.shown (outcome (some limit)) = firstLines limit (screen.shown (outcome none)) ∧
      StopsAt screen runner limit start (outcome none).dispatches (outcome (some limit)).dispatches
  monotone : ∀ small large, small ≤ large →
    (screen.shown (outcome (some small))).toList <+: (screen.shown (outcome (some large))).toList

private theorem OnlyTruncated.of_cutsOff {screen : Screen σ} {runner : Runner σ} {start : σ}
    {outcome : Option Nat → Outcome σ α} (hstart : screen.writer start = .new none)
    (h : ∀ limit, (outcome none).CutsOff (outcome (some limit)) screen runner limit start) :
    OnlyTruncated screen runner start outcome := by
  have hfinished : Finished (screen.shown (outcome none)).toList :=
    ((h 0).unlimited (hstart ▸ .new)).finished
  have hroom (limit : Nat) : lineCount (screen.writer start).written ≤ limit := by
    rw [hstart]
    exact Nat.zero_le limit
  have hshown (limit : Nat) : screen.shown (outcome (some limit)) =
      firstLines limit (screen.shown (outcome none)) := by
    by_cases hle : lineCount (screen.shown (outcome none)) ≤ limit
    · rw [firstLines_of_le hfinished hle, Screen.shown, ((h limit).fits hle).state, Screen.capped,
        screen.writer_put]
      rfl
    · obtain ⟨stop, dispatches, hgives, hwritten, -⟩ :=
        (h limit).exceeds (hroom limit) (Nat.not_le.mp hle)
      rw [Screen.shown, hgives.state, hwritten, Screen.shown]
  refine ⟨hfinished, fun limit hle => ?_, fun limit hlt => ?_, fun small large hle => ?_⟩
  · have hfits := (h limit).fits hle
    exact ⟨hfits.result, by rw [hshown, firstLines_of_le hfinished hle], hfits.dispatches⟩
  · obtain ⟨stop, dispatches, hgives, -, hstops⟩ := (h limit).exceeds (hroom limit) hlt
    exact ⟨hgives.result, hshown limit, by rwa [hgives.dispatches]⟩
  · rw [hshown, hshown]
    exact firstLines_prefix hle _

private theorem Runner.Truncates.run {runner : Runner σ} {screen : Screen σ}
    (hr : runner.Truncates screen)
    {g : Graph} (hg : g.OneLineCommands) (target : String) (state : σ) :
    OnlyTruncated screen runner (screen.put (.new none) state) fun limit =>
      Execution.run g runner target (screen.put (.new limit) state) := by
  have hstart : screen.writer (screen.put (.new none) state) = .new none := screen.writer_put _ _
  refine .of_cutsOff hstart fun limit => ?_
  have hcapped : screen.put (.new (some limit)) state =
      screen.capped limit (screen.put (.new none) state) := by
    rw [Screen.capped, screen.writer_put, screen.put_put]
    rfl
  have hw : (screen.writer (screen.put (.new none) state)).Unlimited := by
    rw [hstart]
    exact .new
  simp only [hcapped]
  exact Execution.run_cutsOff hr hg hw limit target

end

/-- A writer that fails after some lines only truncates a run. With room for all the lines there is
no difference. With less, the run has written as many of the first lines as there was room for, and
it ends with the refusal of the next one, in place of the report or the error that the whole run
comes to; what is dispatched last is the command of that line. Commands of rule files have one line
each. -/
theorem failing_writer_only_truncates {η : Type} (host : Host η) (s : η) :
    (∀ policy text g, (RuleFile.parseText policy text).result = .ok g → g.OneLineCommands) ∧
    ∀ g : Graph, g.OneLineCommands → ∀ target,
      OnlyTruncated .alone .dry (.new none)
        (fun limit => Execution.run g .dry target (.new limit)) ∧
      OnlyTruncated (.beside η) (.onHost host) (.new none, s)
        (fun limit => Execution.run g (.onHost host) target (.new limit, s)) := by
  refine ⟨fun _ _ _ => RuleFile.oneLineCommands_of_parseText, fun g hg target => ⟨?dry, ?onHost⟩⟩
  case dry => exact Runner.dry_truncates.run hg target (.new none)
  case onHost => exact (Runner.onHost_truncates host).run hg target (.new none, s)

/-- A line that is refused outweighs the end of its process, which counts once there is room. -/
example :
    let host : Host Unit :=
      ⟨fun _ _ => true, fun _ _ s => (.ok ⟨[0x61, 0x0A, 0x62, 0x0A], none, .signal⟩, s)⟩
    let g : Graph := ⟨.ofList [("t", [])], .ofList [("t", ["show"])]⟩
    let result := fun limit =>
      (Execution.executeOrder g (.onHost host) ["t"] (.new limit, ())).result
    result (some 2) = .error (.io .closed) ∧
      result (some 3) = .error (.commandFailed "show" .signal) := by
  exact ⟨rfl, rfl⟩

end BuildRunner
