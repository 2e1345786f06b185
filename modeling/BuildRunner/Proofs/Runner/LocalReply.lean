import BuildRunner.Runner.Local

/-! The replies of a local runner. There is one case for each place at which a command can end, with
all that was asked of the writer and of the host on the way there. -/
namespace BuildRunner
variable {η : Type}

/-- The process of a command starts, after the command's own line was written. -/
structure Host.Starts (host : Host η) (raw : String) (state : Writer × η) (command : Command)
    (w : Writer) (child : Child) (after : η) : Prop where
  parsed : Command.parse? raw = some command
  resolved : host.resolves command.program state.2 = true
  echoed : state.1.writeAll command.echoLines = (w, none)
  spawned : host.spawn command.program command.arguments state.2 = (.ok child, after)

/-- How a local runner replies to a command in a state. -/
inductive Host.Replies (host : Host η) (raw : String) (state : Writer × η) :
    Reply (Writer × η) → Prop
  /-- No program is left. -/
  | empty (parsed : Command.parse? raw = none) :
      Replies host raw state ⟨.error (.commandFailed raw .empty), state, none⟩
  | unresolved {command : Command} (parsed : Command.parse? raw = some command)
      (unresolved : host.resolves command.program state.2 = false) :
      Replies host raw state ⟨.error (.binaryNotFound command.program), state, none⟩
  /-- The command's own line is refused. -/
  | echoRefused {command : Command} {w : Writer} {refusal : IoError}
      (parsed : Command.parse? raw = some command)
      (resolved : host.resolves command.program state.2 = true)
      (echoed : state.1.writeAll command.echoLines = (w, some refusal)) :
      Replies host raw state ⟨.error (.io refusal), (w, state.2), none⟩
  | notSpawned {command : Command} {w : Writer} {fault : IoError} {after : η}
      (parsed : Command.parse? raw = some command)
      (resolved : host.resolves command.program state.2 = true)
      (echoed : state.1.writeAll command.echoLines = (w, none))
      (spawned : host.spawn command.program command.arguments state.2 = (.error fault, after)) :
      Replies host raw state
        ⟨.error (.commandFailed command.text (.spawn fault)), (w, after), some command.arguments⟩
  /-- A line of the process is refused, whatever becomes of the process. -/
  | outputRefused {command : Command} {w last : Writer} {child : Child} {after : η}
      {refusal : IoError} (started : host.Starts raw state command w child after)
      (shown : w.writeAll child.lines = (last, some refusal)) :
      Replies host raw state ⟨.error (.io refusal), (last, after), some command.arguments⟩
  | failed {command : Command} {w last : Writer} {child : Child} {after : η}
      {cause : CommandFailure} (started : host.Starts raw state command w child after)
      (shown : w.writeAll child.lines = (last, none)) (failure : child.failure = some cause) :
      Replies host raw state
        ⟨.error (.commandFailed command.text cause), (last, after), some command.arguments⟩
  | completed {command : Command} {w last : Writer} {child : Child} {after : η}
      (started : host.Starts raw state command w child after)
      (shown : w.writeAll child.lines = (last, none)) (success : child.failure = none) :
      Replies host raw state
        ⟨.ok (joinLines (command.echoLines ++ child.lines)), (last, after), some command.arguments⟩

theorem Host.Starts.execute_eq {host : Host η} {raw : String} {state : Writer × η}
    {command : Command} {w : Writer} {child : Child} {after : η}
    (h : host.Starts raw state command w child after) :
    (Runner.onHost host).execute raw state = child.reply command w after := by
  simp [Runner.onHost, h.parsed, h.resolved, h.echoed, h.spawned]

private theorem Host.Starts.replies {host : Host η} {raw : String} {state : Writer × η}
    {command : Command}
    {w : Writer} {child : Child} {after : η} (h : host.Starts raw state command w child after) :
    host.Replies raw state (child.reply command w after) := by
  unfold Child.reply
  cases hshown : w.writeAll child.lines with
  | mk last refusal =>
    cases refusal with
    | some refusal => exact .outputRefused h hshown
    | none =>
      cases hfailure : child.failure with
      | some cause => exact .failed h hshown hfailure
      | none => exact .completed h hshown hfailure

theorem Runner.onHost_replies (host : Host η) (raw : String) (state : Writer × η) :
    host.Replies raw state ((Runner.onHost host).execute raw state) := by
  unfold Runner.onHost
  cases hparsed : Command.parse? raw with
  | none => simpa [hparsed] using .empty hparsed
  | some command =>
    cases hresolved : host.resolves command.program state.2 with
    | false => simpa [hparsed, hresolved] using .unresolved hparsed hresolved
    | true =>
      cases hechoed : state.1.writeAll command.echoLines with
      | mk w refusal =>
        cases refusal with
        | some refusal => simpa [hparsed, hresolved, hechoed] using .echoRefused hparsed hresolved hechoed
        | none =>
          cases hspawned : host.spawn command.program command.arguments state.2 with
          | mk spawned after =>
            cases spawned with
            | error fault =>
              simpa [hparsed, hresolved, hechoed, hspawned] using
                .notSpawned hparsed hresolved hechoed hspawned
            | ok child =>
              have hstarts : host.Starts raw state command w child after :=
                ⟨hparsed, hresolved, hechoed, hspawned⟩
              simpa [hparsed, hresolved, hechoed, hspawned] using hstarts.replies

end BuildRunner
