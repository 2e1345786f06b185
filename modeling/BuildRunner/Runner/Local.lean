import BuildRunner.Command
import BuildRunner.Runner.Basic
import BuildRunner.Runner.Writer
import BuildRunner.Text.Lines
import BuildRunner.Text.Utf8

/-! The local runner: each command is a process of a host, and its output is shown line by line. -/
namespace BuildRunner
open Text

inductive ExitStatus where
  | code (n : Int)
  | signal
  /-- The process could not be waited for. -/
  | unknown (fault : IoError)
deriving DecidableEq, Repr

/-- What is seen of a started process: its output, the fault that cut it off if there was one,
and how it ended. -/
structure Child where
  output : List UInt8
  readFault : Option IoError
  status : ExitStatus
deriving DecidableEq, Repr

/-- Where processes run. Starting one may change the host. -/
structure Host (η : Type) where
  resolves : String → η → Bool
  spawn : String → List String → η → Except IoError Child × η

namespace Child

def shownLine (piece : List UInt8) : String := String.ofList (chomp (Utf8.decodeLossy piece))

/-- The output as lines; an unfinished one is lost if the reading fails. -/
def lines (child : Child) : List String :=
  (if child.readFault.isSome then completePieces Utf8.lineFeed child.output
    else pieces Utf8.lineFeed child.output).map shownLine

/-- Why the process as a whole failed, if it did. -/
def failure (child : Child) : Option CommandFailure :=
  match child.readFault, child.status with
  | some fault, _ => some (.stream fault)
  | none, .code 0 => none
  | none, .code n => some (.exit n)
  | none, .signal => some .signal
  | none, .unknown fault => some (.stream fault)

end Child

/-- Lines written one by one, up to the first refusal. -/
def Writer.writeAll (w : Writer) : List String → Writer × Option IoError
  | [] => (w, none)
  | line :: rest =>
    match w.writeLine line with
    | (w, some refusal) => (w, some refusal)
    | (w, none) => w.writeAll rest

/-- Lines as one text, each with a line feed at its end. -/
def joinLines (lines : List String) : String := String.join (lines.map (· ++ "\n"))

namespace Command

/-- The line that shows a command before it runs; a silent command has none. -/
def echoLines (command : Command) : List String :=
  if command.echo then [command.text] else []

end Command

/-- What becomes of a started process: its lines are shown, and a refused line outweighs all else. -/
def Child.reply {η : Type} (child : Child) (command : Command) (w : Writer) (host : η) :
    Reply (Writer × η) :=
  let shown := w.writeAll child.lines
  let result :=
    match shown.2, child.failure with
    | some refusal, _ => .error (.io refusal)
    | none, some cause => .error (.commandFailed command.text cause)
    | none, none => .ok (joinLines (command.echoLines ++ child.lines))
  ⟨result, (shown.1, host), some command.arguments⟩

/-- The program is looked up before the command is shown, and started after. -/
def Runner.onHost {η : Type} (host : Host η) : Runner (Writer × η) where
  execute raw state :=
    match Command.parse? raw with
    | none => ⟨.error (.commandFailed raw .empty), state, none⟩
    | some command =>
      if host.resolves command.program state.2 then
        match state.1.writeAll command.echoLines with
        | (w, some refusal) => ⟨.error (.io refusal), (w, state.2), none⟩
        | (w, none) =>
          match host.spawn command.program command.arguments state.2 with
          | (.error fault, after) =>
            ⟨.error (.commandFailed command.text (.spawn fault)), (w, after), some command.arguments⟩
          | (.ok child, after) => child.reply command w after
      else ⟨.error (.binaryNotFound command.program), state, none⟩

end BuildRunner
