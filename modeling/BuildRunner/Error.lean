/-! The errors of a build: what a rule file, its graph, a command or a stream can do wrong, the
text that is shown, and the chain of underlying errors. -/
namespace BuildRunner

/-- Failures of files, streams and processes below the build itself. -/
inductive IoError where
  | notFound
  | notDirectory
  | isDirectory
  | nameTooLong
  | invalidUtf8
  | nulInPath
  | nulInArgument
  | closed
  | reported (text : String)
deriving DecidableEq, Repr

namespace IoError

def message : IoError → String
  | notFound => "No such file or directory (os error 2)"
  | notDirectory => "Not a directory (os error 20)"
  | isDirectory => "Is a directory (os error 21)"
  | nameTooLong => "File name too long (os error 36)"
  | invalidUtf8 => "stream did not contain valid UTF-8"
  | nulInPath => "file name contained an unexpected NUL byte"
  | nulInArgument => "nul byte found in provided data"
  | closed => "closed"
  | reported text => text

end IoError

inductive FormatIssue where
  /-- A command stands before every target. -/
  | globalCommand
  /-- Nothing is left of a command without its marker. -/
  | emptyCommand
  /-- The line has none of the known forms. -/
  | unrecognized
deriving DecidableEq, Repr

def FormatIssue.message : FormatIssue → String
  | globalCommand => "global command"
  | emptyCommand => "empty command"
  | unrecognized => "unrecognized line"

inductive CommandFailure where
  | empty
  | spawn (cause : IoError)
  | stream (cause : IoError)
  | exit (code : Int)
  | signal
deriving DecidableEq, Repr

namespace CommandFailure

def message : CommandFailure → String
  | empty => "no program to run"
  | spawn cause => "spawn failed: " ++ cause.message
  | stream cause => "output stream failed: " ++ cause.message
  | exit code => "exit code " ++ toString code
  | signal => "terminated by signal"

def sources : CommandFailure → List String
  | spawn cause | stream cause => [cause.message]
  | empty | exit _ | signal => []

end CommandFailure

inductive BuildError where
  | format (line : Nat) (issue : FormatIssue)
  | duplicateTarget (name : String) (line : Nat)
  | cycleDetected (dependent dependency : String)
  | missingDependency (names : List String)
  | targetNotFound (name : String)
  | targetHasNoCommands (name : String)
  | binaryNotFound (name : String)
  | commandFailed (command : String) (cause : CommandFailure)
  | unreadable (path : String) (cause : IoError)
  | io (cause : IoError)
deriving DecidableEq, Repr

namespace BuildError

def message : BuildError → String
  | format line issue => "invalid format at line " ++ toString line ++ ": " ++ issue.message
  | duplicateTarget name line => "target '" ++ name ++ "' redefined at line " ++ toString line
  | cycleDetected dependent dependency =>
    "circular dependency detected between '" ++ dependent ++ "' -> '" ++ dependency ++ "'"
  | missingDependency names => "missing dependencies: '" ++ ", ".intercalate names ++ "'"
  | targetNotFound name => "target '" ++ name ++ "' does not exist"
  | targetHasNoCommands name => "nothing to be done for '" ++ name ++ "': target has no commands"
  | binaryNotFound name => "binary not found: '" ++ name ++ "'"
  | commandFailed command cause => "command '" ++ command ++ "' failed: " ++ cause.message
  | unreadable path cause => "failed to read " ++ path ++ ": " ++ cause.message
  | io cause => "io error: " ++ cause.message

/-- Texts of the errors underneath, the outermost first. -/
def sources : BuildError → List String
  | commandFailed _ cause => cause.message :: cause.sources
  | unreadable _ cause | io cause => [cause.message]
  | _ => []

end BuildError
end BuildRunner
