import BuildRunner.Proofs.Runner.EmptyCommand
import BuildRunner.Proofs.Runner.Limits

/-! Runners whose writers take everything. The dry runner then accepts each command that has a
program. A local runner accepts no others, and refuses one of these for reasons of its host only. -/
namespace BuildRunner
open Text

namespace Command
variable {raw : String} {command : Command}

/-- The text of a command as it is shown, without its marker. -/
def shownText (raw : String) : String := String.ofList (strip raw.toList).1

/-- A command with a marker in front, blanks apart. -/
def HasMarker (raw : String) : Prop := (trim raw.toList).head? = some silentMarker

instance (raw : String) : Decidable (HasMarker raw) :=
  inferInstanceAs (Decidable ((trim raw.toList).head? = some silentMarker))

/-- The line that shows a command before it runs, if there is one. -/
def ownLines (raw : String) : List String := if HasMarker raw then [] else [shownText raw]

private theorem strip_snd_iff {s : List Char} :
    (strip s).2 = true ↔ (trim s).head? ≠ some silentMarker := by
  by_cases hmarker : (trim s).head? = some silentMarker
  · obtain ⟨rest, ht⟩ := List.head?_eq_some_iff.mp hmarker
    simp [strip_of_marker ht, hmarker]
  · simp [strip_of_no_marker hmarker, hmarker]

private theorem echoLines_of_parse? (h : parse? raw = some command) :
    command.echoLines = ownLines raw := by
  have htext := text_of_parse? h
  have hecho : command.echo = (strip raw.toList).2 := by rw [(parse?_eq_some_iff.mp h).1]
  by_cases hmarker : HasMarker raw
  · have hsilent : command.echo = false := by
      rw [hecho, ← Bool.not_eq_true, strip_snd_iff]
      exact not_not.mpr hmarker
    rw [echoLines, ownLines, hsilent, if_pos hmarker]
    rfl
  · have hloud : command.echo = true := by
      rw [hecho, strip_snd_iff]
      exact hmarker
    rw [echoLines, ownLines, hloud, if_pos rfl, if_neg hmarker, htext, shownText]

end Command

section
variable {w last : Writer} {raw : String} {commands texts : List String}

theorem Runner.dry_execute_of_parsed (hw : w.room = none) (h : Command.parse? raw ≠ none) :
    (Runner.dry.execute raw w).result = .ok (Command.shownText raw ++ "\n") ∧
      (Runner.dry.execute raw w).state =
        ⟨none, w.written ++ joinLines [Command.shownText raw]⟩ := by
  obtain ⟨command, hraw⟩ := Option.ne_none_iff_exists'.mp h
  have htext : command.text = Command.shownText raw := Command.text_of_parse? hraw
  have hwrite := Writer.writeAll_of_room hw [command.text]
  rw [Writer.writeAll_singleton, htext] at hwrite
  simp [Runner.dry, hraw, htext, hwrite]

theorem Runner.dry_execute_of_unparsed (h : Command.parse? raw = none) (w : Writer) :
    Runner.dry.execute raw w = ⟨.error (.commandFailed raw .empty), w, none⟩ := by
  simp [Runner.dry, h]

/-- A dry runner asks for nothing but a program in each command. -/
theorem Runner.dry_accepts (hw : w.room = none) (h : ∀ raw ∈ commands, Command.parse? raw ≠ none) :
    Runner.dry.Accepts w commands (commands.map (Command.shownText · ++ "\n"))
      ⟨none, w.written ++ joinLines (commands.map Command.shownText)⟩ := by
  induction commands generalizing w with
  | nil =>
    rw [List.map_nil, List.map_nil, joinLines_nil, String.append_empty, ← hw]
    exact .nil w
  | cons raw commands ih =>
    obtain ⟨hraw, hcommands⟩ := List.forall_mem_cons.mp h
    obtain ⟨hresult, hstate⟩ := Runner.dry_execute_of_parsed hw hraw
    have hlines : w.written ++ joinLines ((raw :: commands).map Command.shownText) =
        w.written ++ joinLines [Command.shownText raw] ++
          joinLines (commands.map Command.shownText) := by
      rw [List.map_cons, String.append_assoc, ← joinLines_append, List.singleton_append]
    refine .cons hresult ?_
    rw [hstate, hlines]
    exact ih (w := ⟨none, w.written ++ joinLines [Command.shownText raw]⟩) rfl hcommands

private theorem Runner.Accepts.unique {σ : Type} {runner : Runner σ} {state last last' : σ}
    {texts' : List String} (h : runner.Accepts state commands texts last)
    (h' : runner.Accepts state commands texts' last') : texts = texts' ∧ last = last' := by
  induction h generalizing texts' with
  | nil =>
    cases h'
    exact ⟨rfl, rfl⟩
  | cons shown _ ih =>
    cases h' with
    | cons shown' rest' =>
      obtain ⟨rfl, rfl⟩ := ih rest'
      rw [shown] at shown'
      exact ⟨congrArg (· :: _) (Except.ok.inj shown'), rfl⟩

private theorem Runner.parsed_of_dry_accepts (h : Runner.dry.Accepts w commands texts last) :
    ∀ raw ∈ commands, Command.parse? raw ≠ none := by
  induction h with
  | nil => exact nofun
  | cons shown rest ih =>
    refine List.forall_mem_cons.mpr ⟨fun hraw => ?_, ih⟩
    rw [Runner.dry_execute_of_unparsed hraw] at shown
    cases shown

/-- What a dry runner leaves is told by the commands that it accepted. -/
theorem Runner.written_of_dry_accepts (hw : w.room = none)
    (h : Runner.dry.Accepts w commands texts last) :
    last.room = none ∧
      last.written = w.written ++ joinLines (commands.map Command.shownText) ∧
      String.join texts = joinLines (commands.map Command.shownText) := by
  obtain ⟨rfl, rfl⟩ := h.unique (Runner.dry_accepts hw (Runner.parsed_of_dry_accepts h))
  refine ⟨rfl, rfl, ?_⟩
  rw [joinLines, List.map_map]
  rfl

end

section
variable {η : Type} {host : Host η} {raw : String} {error : BuildError}
variable {commands texts : List String} {state last : Writer × η}

/-- The processes that a host runs for some commands, one after the other and all to a good end. -/
inductive Host.Performs (host : Host η) : η → List String → List Child → η → Prop
  | nil (s : η) : Performs host s [] [] s
  | cons {s middle last : η} {raw : String} {command : Command} {child : Child}
      {commands : List String} {children : List Child}
      (parsed : Command.parse? raw = some command)
      (resolved : host.resolves command.program s = true)
      (spawned : host.spawn command.program command.arguments s = (.ok child, middle))
      (success : child.failure = none)
      (rest : Performs host middle commands children last) :
      Performs host s (raw :: commands) (child :: children) last

/-- The errors that a host can give a command. -/
inductive Host.Fault (raw : String) : BuildError → Prop
  | unresolved {command : Command} (parsed : Command.parse? raw = some command) :
      Fault raw (.binaryNotFound command.program)
  /-- Its process does not start, cannot be read or waited for, or ends badly. -/
  | failed {command : Command} {cause : CommandFailure}
      (parsed : Command.parse? raw = some command) (tried : cause ≠ .empty) :
      Fault raw (.commandFailed command.text cause)

theorem Host.Fault.parsed (h : Host.Fault raw error) : Command.parse? raw ≠ none := by
  cases h with
  | unresolved parsed => simp [parsed]
  | failed parsed _ => simp [parsed]

private theorem Runner.onHost_execute_ok {text : String} (hw : state.1.room = none)
    (h : ((Runner.onHost host).execute raw state).result = .ok text) :
    ∃ command child after, Command.parse? raw = some command ∧
      host.resolves command.program state.2 = true ∧
      host.spawn command.program command.arguments state.2 = (.ok child, after) ∧
      child.failure = none ∧ text = joinLines (Command.ownLines raw ++ child.lines) ∧
      ((Runner.onHost host).execute raw state).state =
        (⟨none, state.1.written ++ text⟩, after) := by
  have hreplies := Runner.onHost_replies host raw state
  generalize (Runner.onHost host).execute raw state = reply at h hreplies ⊢
  cases hreplies with
  | @completed command begun last child after started shown success =>
    cases h
    have hechoed := started.echoed
    rw [Writer.writeAll_of_room hw] at hechoed
    obtain ⟨rfl, -⟩ := Prod.mk.inj hechoed
    rw [Writer.writeAll_of_room rfl] at shown
    obtain ⟨rfl, -⟩ := Prod.mk.inj shown
    have hown := Command.echoLines_of_parse? started.parsed
    refine ⟨command, child, after, started.parsed, started.resolved, started.spawned, success,
      ?_, ?_⟩
    · rw [hown]
    · rw [joinLines_append, String.append_assoc]
  | _ => cases h

/-- Without a refused line, only an empty command or the host can make a command fail. -/
theorem Runner.onHost_execute_error (hw : state.1.room = none)
    (h : ((Runner.onHost host).execute raw state).result = .error error) :
    (Command.parse? raw = none ∧ error = .commandFailed raw .empty) ∨ Host.Fault raw error := by
  have hreplies := Runner.onHost_replies host raw state
  generalize (Runner.onHost host).execute raw state = reply at h hreplies
  cases hreplies with
  | empty parsed =>
    cases h
    exact .inl ⟨parsed, rfl⟩
  | unresolved parsed =>
    cases h
    exact .inr (.unresolved parsed)
  | echoRefused _ _ echoed =>
    rw [Writer.writeAll_of_room hw] at echoed
    cases echoed
  | notSpawned parsed =>
    cases h
    exact .inr (.failed parsed nofun)
  | outputRefused started shown =>
    have hechoed := started.echoed
    rw [Writer.writeAll_of_room hw] at hechoed
    obtain ⟨rfl, -⟩ := Prod.mk.inj hechoed
    rw [Writer.writeAll_of_room rfl] at shown
    cases shown
  | @failed _ _ _ child _ _ started _ failure =>
    cases h
    exact .inr (.failed started.parsed fun hempty => child.failure_ne_empty (hempty ▸ failure))
  | completed => cases h

/-- What a local runner accepts has been carried out by its host, and shown. -/
theorem Host.performs_of_accepts (hw : state.1.room = none)
    (h : (Runner.onHost host).Accepts state commands texts last) :
    last.1.room = none ∧ ∃ children, host.Performs state.2 commands children last.2 ∧
      String.join texts = joinLines ((commands.zip children).flatMap fun (raw, child) =>
        Command.ownLines raw ++ child.lines) := by
  induction h with
  | nil state => exact ⟨hw, [], .nil state.2, rfl⟩
  | @cons state last raw text commands texts shown rest ih =>
    obtain ⟨command, child, after, parsed, resolved, spawned, success, htext, hstate⟩ :=
      Runner.onHost_execute_ok hw shown
    rw [hstate] at ih
    obtain ⟨hlast, children, hperforms, hjoin⟩ := ih rfl
    refine ⟨hlast, child :: children, .cons parsed resolved spawned success hperforms, ?_⟩
    rw [String.join_cons, hjoin, htext, ← joinLines_append, List.zip_cons_cons, List.flatMap_cons]

theorem Host.Performs.parsed {s last : η} {children : List Child}
    (h : host.Performs s commands children last) : ∀ raw ∈ commands, Command.parse? raw ≠ none := by
  induction h with
  | nil => exact nofun
  | cons parsed _ _ _ _ ih => exact List.forall_mem_cons.mpr ⟨by simp [parsed], ih⟩

end
end BuildRunner
