/-! Shell scripts as they are read: words with their quotes and expansions, and commands. -/
namespace BuildRunner.Sandbox.Shell

/-- What an expansion of a parameter does with its value. An operation may count an empty value as
none. -/
inductive Operation where
  | value
  | length
  | orElse (emptyToo : Bool)
  | orAssign (emptyToo : Bool)
  | orFail (emptyToo : Bool)
  | andThen (emptyToo : Bool)
  | dropFront (longest : Bool)
  | dropBack (longest : Bool)
  /-- A form that has no meaning; expanding it fails. -/
  | malformed
deriving DecidableEq, Repr

inductive Opening where
  | input
  | output
  /-- Output even to a file that is there while such files are protected. -/
  | overwrite
  | append
  | both
deriving DecidableEq, Repr

mutual

/-- A piece of a word. -/
inductive Part where
  | text (s : String)
  | quoted (s : String)
  /-- What stands between double quotes. -/
  | quotes (parts : List Part)
  | parameter (name : String) (operation : Operation) (word : List Part)
  | substitution (body : Command)
  | arithmetic (expression : List Part)

inductive Redirection where
  | file (descriptor : Nat) (how : Opening) (path : List Part)
  | duplicate (descriptor : Nat) (source : List Part)
  /-- Text in the script itself, by its number among such texts. -/
  | document (descriptor : Nat) (number : Nat)

inductive Command where
  | nothing
  | simple (line : Nat) (assignments : List (String × List Part)) (words : List (List Part))
      (redirections : List Redirection)
  | pipeline (commands : List Command)
  | both (first second : Command)
  | either (first second : Command)
  | sequence (commands : List Command)
  | negation (body : Command)
  | background (body : Command)
  | subshell (line : Nat) (body : Command) (redirections : List Redirection)
  | redirected (line : Nat) (body : Command) (redirections : List Redirection)
  | branch (condition yes no : Command)
  /-- Repeats while the condition succeeds, or until it does. -/
  | loop (isUntil : Bool) (condition body : Command)
  | each (line : Nat) (name : String) (words : List (List Part)) (body : Command)
  | choice (line : Nat) (subject : List Part) (clauses : List (List (List Part) × Command))
  | definition (name : String) (line : Nat) (body : Command)

end

abbrev Word := List Part

instance : Inhabited Command := ⟨.nothing⟩

namespace Name

def isStart (c : Char) : Bool := c.isAlpha || c == '_'

def isInner (c : Char) : Bool := c.isAlphanum || c == '_'

def isValid (name : String) : Bool :=
  match name.toList with
  | c :: rest => isStart c && rest.all isInner
  | [] => false

def isSpecial (c : Char) : Bool := c.isDigit || "#?*@$!-".toList.contains c

end Name

/-- The name and the value of a text that assigns. -/
def assignment? (text : String) : Option (String × String) :=
  let chars := text.toList
  let name := chars.takeWhile (· ≠ '=')
  match chars.drop name.length with
  | _ :: value => if Name.isValid (String.ofList name) then some (String.ofList name, String.ofList value) else none
  | [] => none

/-- The same for a word, whose value may have quotes and expansions. -/
def Word.assignment? : Word → Option (String × Word)
  | .text s :: rest => do
    let (name, value) ← Shell.assignment? s
    return (name, if value.isEmpty then rest else .text value :: rest)
  | _ => none

/-- Commands that a shell runs itself. -/
def builtinNames : List String :=
  [".", ":", "[", "alias", "bg", "break", "cd", "chdir", "command", "continue", "echo", "eval", "exec",
   "exit", "export", "false", "fg", "getopts", "hash", "jobs", "kill", "local", "printf", "pwd", "read",
   "readonly", "return", "set", "shift", "test", "times", "trap", "true", "type", "ulimit", "umask",
   "unalias", "unset", "wait"]

/-- Those whose failures end the shell and whose assignments stay. -/
def specialBuiltins : List String :=
  [".", ":", "break", "continue", "eval", "exec", "exit", "export", "local", "readonly", "return", "set",
   "shift", "times", "trap", "unset"]

end BuildRunner.Sandbox.Shell
