import BuildRunner.Command
import BuildRunner.Runner.Basic
import BuildRunner.Runner.Writer

/-! Runners that only write commands. The dry runner shows every command without its marker; the
recorder shows commands as they are and fails at some of them. -/
namespace BuildRunner

def Runner.dry : Runner Writer where
  execute raw w :=
    match Command.parse? raw with
    | none => ⟨.error (.commandFailed raw .empty), w, none⟩
    | some command =>
      match w.writeLine command.text with
      | (w, some refusal) => ⟨.error (.io refusal), w, none⟩
      | (w, none) => ⟨.ok (command.text ++ "\n"), w, none⟩

/-- A command and its line feed are one write. Commands in the list fail with exit code 2 after
they are written. -/
def Runner.recorder (failing : List String) : Runner Writer where
  execute raw w :=
    match w.write (raw ++ "\n") with
    | .error refusal => ⟨.error (.io refusal), w, none⟩
    | .ok next =>
      if failing.contains raw then ⟨.error (.commandFailed raw (.exit 2)), next, none⟩
      else ⟨.ok (raw ++ "\n"), next, none⟩

end BuildRunner
