import BuildRunner.Proofs.Execution.FaultPrecedence
import BuildRunner.Proofs.RuleFile.WellFormed
import BuildRunner.Proofs.Runner.CommandForm
import BuildRunner.Proofs.Runner.LocalReply

/-! Empty commands. The reader of rule files and the runners tell them in two ways that agree on
every text without outer blanks, so no runner is given one by a rule file. -/
namespace BuildRunner
open Text RuleFile

private theorem Command.parse?_eq_none_iff_of_trimmed {raw : String}
    (h : trim raw.toList = raw.toList) :
    Command.parse? raw = none ↔ raw = "" ∨ raw = "@" := by
  have htrimmed : Trimmed raw.toList := trim_eq_self_iff.mp h
  rw [Command.parse?_eq_none_iff, ← String.toList_inj, ← String.toList_inj, Command.strip, h]
  cases hraw : raw.toList with
  | nil => simp [words_nil]
  | cons c rest =>
    rw [hraw] at htrimmed
    by_cases hmarker : c = silentMarker
    · -- blanks may follow a marker, but none end a trimmed text
      have hempty : words (trimStart rest) = [] ↔ rest = [] := by
        rw [words_trimStart, words_eq_nil_iff, htrimmed.blank_tail_iff]
      simp [hmarker, hempty, silentMarker]
    · have hne : c ≠ '@' := hmarker
      have hsolid : isBlank c = false := htrimmed.starts c rfl
      simp [hne, hmarker, words_eq_nil_iff, hsolid]

/-- What the reader takes for an empty command is what a runner finds no program in. -/
theorem isEmptyCommand_iff_parse?_eq_none {line text : String}
    (h : Line.classify line = .command text) :
    isEmptyCommand text = true ↔ Command.parse? text = none := by
  obtain ⟨-, -, -, rfl⟩ := Line.classify_eq_command_iff.mp h
  have htrimmed : trim (String.ofList (trim line.toList)).toList =
      (String.ofList (trim line.toList)).toList := by
    rw [String.toList_ofList, trim_trim]
  rw [isEmptyCommand_iff htrimmed, Command.parse?_eq_none_iff_of_trimmed htrimmed]

/-- Not so with blanks in front, which only the runners take away. -/
example : isEmptyCommand "  @" = false ∧ Command.parse? "  @" = none := ⟨rfl, rfl⟩

theorem RuleFile.IsCommand.parse?_ne_none {command : String} (h : IsCommand command) :
    Command.parse? command ≠ none := by
  rw [ne_eq, Command.parse?_eq_none_iff_of_trimmed h.trimmed, not_or]
  exact ⟨h.nonempty, h.not_marker⟩

/-- The runner calls a command empty only if it finds no program in it. -/
def Runner.NamesEmpty {σ : Type} (runner : Runner σ) : Prop :=
  ∀ raw state command, (runner.execute raw state).result = .error (.commandFailed command .empty) →
    Command.parse? raw = none

private theorem Runner.dry_namesEmpty : Runner.dry.NamesEmpty := by
  intro raw w command h
  cases hraw : Command.parse? raw with
  | none => rfl
  | some parsed =>
    simp only [Runner.dry, hraw] at h
    split at h <;> cases h

theorem Child.failure_ne_empty (child : Child) : child.failure ≠ some .empty := by
  unfold failure
  split <;> simp

private theorem Runner.onHost_namesEmpty {η : Type} (host : Host η) :
    (Runner.onHost host).NamesEmpty := by
  intro raw state command h
  have hreplies := Runner.onHost_replies host raw state
  generalize (Runner.onHost host).execute raw state = reply at h hreplies
  cases hreplies with
  | empty parsed => exact parsed
  | @failed _ _ _ child _ _ _ _ failure =>
    cases h
    exact absurd failure child.failure_ne_empty
  | _ => cases h

namespace Execution
variable {σ : Type} {g : Graph} {runner : Runner σ} {target : String} {state : σ}

private theorem run_ne_empty (hrunner : runner.NamesEmpty) (hg : g.WellFormed) (command : String) :
    (run g runner target state).result ≠ .error (.commandFailed command .empty) := by
  intro h
  obtain hearly | ⟨name, he⟩ | ⟨name, raw, hmem, middle, he⟩ := run_error_cases h
  · cases hearly
  · cases he
  · exact (hg.commands name raw hmem).parse?_ne_none (hrunner raw middle command he)

/-- An empty command in a rule file is what a runner would call empty, and no accepted text brings
one before a runner, whatever is written, started or shown. -/
theorem rule_files_hold_no_empty_command {η : Type} (host : Host η) :
    (∀ line text, Line.classify line = .command text →
      (isEmptyCommand text = true ↔ Command.parse? text = none)) ∧
    ∀ policy text g, (parseText policy text).result = .ok g → ∀ target command,
      (∀ w, (run g .dry target w).result ≠ .error (.commandFailed command .empty)) ∧
      ∀ state, (run g (.onHost host) target state).result ≠ .error (.commandFailed command .empty) :=
  ⟨fun _ _ h => isEmptyCommand_iff_parse?_eq_none h, fun _ _ _ hparse _ command =>
    ⟨fun _ => run_ne_empty Runner.dry_namesEmpty (wellFormed_of_parseText hparse) command,
      fun _ => run_ne_empty (Runner.onHost_namesEmpty host) (wellFormed_of_parseText hparse) command⟩⟩

end Execution
end BuildRunner
