import BuildRunner.Sandbox.Shell.Syntax

/-! Where the reading of a script stands: the characters to come, their line, a token that was put
back, and texts in the script that begin after the next line feed. -/
namespace BuildRunner.Sandbox.Shell

structure SyntaxFault where
  line : Nat
  message : String

inductive Token where
  | word (parts : Word) (quoted : Bool)
  | redirection (descriptor : Nat) (sign : String)
  | sign (text : String)
  | lineFeed
  | ended

namespace Token

def shown : Token → String
  | word .. => "word"
  | redirection .. => "redirection"
  | sign text => "\"" ++ text ++ "\""
  | lineFeed => "newline"
  | ended => "end of file"

def isSign (t : Token) (text : String) : Bool :=
  match t with
  | sign s => s == text
  | _ => false

/-- Whether a list of commands ends before this. -/
def endsList : Token → Bool
  | ended => true
  | sign s => [")", ";;", "do", "done", "elif", "else", "esac", "fi", "then", "\x7d"].contains s
  | _ => false

end Token

/-- A text in the script that is still to come. -/
structure Pending where
  number : Nat
  mark : String
  strips : Bool
  isVerbatim : Bool

structure Reader where
  rest : List Char
  line : Nat
  last : Token
  putBack : Bool
  pending : List Pending
  documents : Array Word
  aliases : List (String × String)
  /-- Aliases whose text is being read, with what is left after it. -/
  inUse : List (String × Nat)

abbrev Parse := EStateM SyntaxFault Reader

namespace Reader

def start (text : String) (line : Nat) (documents : Array Word) (aliases : List (String × String)) : Reader :=
  ⟨text.toList, line, .ended, false, [], documents, aliases, []⟩

def reservedWords : List String :=
  ["!", "case", "do", "done", "elif", "else", "esac", "fi", "for", "if", "in", "then", "until", "while",
   "\x7b", "\x7d"]

/-- Drops line feeds that a backslash hides. -/
def dropJoins : Nat → List Char → Nat × List Char
  | line, '\\' :: '\n' :: rest => dropJoins (line + 1) rest
  | line, rest => (line, rest)

def fail {α : Type} (message : String) : Parse α := fun r => .error ⟨r.line, message⟩ r

def peek : Parse (Option Char) := fun r =>
  let (line, rest) := dropJoins r.line r.rest
  .ok rest.head? { r with line, rest }

def take : Parse (Option Char) := fun r =>
  match r.rest with
  | [] => .ok none r
  | c :: rest => .ok (some c) { r with rest, line := if c == '\n' then r.line + 1 else r.line }

def skip : Parse Unit := do
  discard take

def takes (c : Char) : Parse Bool := do
  if (← peek) == some c then
    skip
    return true
  else return false

def dropOne : Parse Unit := modify fun r => { r with rest := r.rest.tail }

def takeWhile (test : Char → Bool) : Parse String := fun r =>
  let found := r.rest.takeWhile test
  .ok (String.ofList found) { r with rest := r.rest.drop found.length, line := r.line + found.count '\n' }

/-- A name, which hidden line feeds may interrupt. -/
def takeName (test : Char → Bool) : Nat → String → Parse String
  | 0, name => return name
  | fuel + 1, name => do
    match ← peek with
    | some c =>
      if test c then
        skip
        takeName test fuel (name.push c)
      else return name
    | none => return name

def takeSingleQuoted : Parse String := do
  let text ← takeWhile (· ≠ '\'')
  match ← take with
  | some _ => return text
  | none => fail "Unterminated quoted string"

/-- What stands between backquotes, after the first of them. A backslash guards some characters. -/
def takeBackquoted (inQuotes : Bool) : Nat → List Char → Parse String
  | 0, _ => fail "EOF in backquote substitution"
  | fuel + 1, text => do
    match ← peek with
    | none => fail "EOF in backquote substitution"
    | some '\\' =>
      skip
      match ← take with
      | none => takeBackquoted inQuotes fuel ('\\' :: text)
      | some c =>
        if c == '\\' || c == '\x60' || c == '$' || (inQuotes && c == '"') then
          takeBackquoted inQuotes fuel (c :: text)
        else takeBackquoted inQuotes fuel (c :: '\\' :: text)
    | some c =>
      skip
      if c == '\x60' then return String.ofList text.reverse
      else takeBackquoted inQuotes fuel (c :: text)

/-- Puts the last token back. -/
def unread : Parse Unit := modify fun r => { r with putBack := true }

def remember (t : Token) : Parse Token := do
  modify fun r => { r with last := t }
  return t

def unexpected {α : Type} : Parse α := do
  fail ((← get).last.shown ++ " unexpected")

def expected {α : Type} (t : Token) : Parse α := do
  fail ((← get).last.shown ++ " unexpected (expecting " ++ t.shown ++ ")")

/-- Whether an odd number of backslashes ends a line, given in reverse. -/
def endsInBackslash (reversed : List Char) : Bool := (reversed.takeWhile (· == '\\')).length % 2 == 1

/-- The lines up to a mark, in reverse order of their characters, with how many line feeds were
passed and what follows. -/
def documentLines (p : Pending) : Nat → List Char → Bool → Nat → List Char → List Char × Nat × List Char
  | 0, done, _, lines, rest => (done, lines, rest)
  | _, done, _, lines, [] => (done, lines, [])
  | fuel + 1, done, joined, lines, c :: rest =>
    let all := c :: rest
    let all := if p.strips && !joined then all.dropWhile (· == '\t') else all
    let line := all.takeWhile (· ≠ '\n')
    let after := all.drop line.length
    if !joined && line == p.mark.toList then (done, lines + min 1 after.length, after.drop 1)
    else
      match after with
      | [] => (line.reverse ++ done, lines, [])
      | _ :: rest =>
        documentLines p fuel ('\n' :: (line.reverse ++ done))
          (!p.isVerbatim && endsInBackslash line.reverse) (lines + 1) rest

def takeDocument (p : Pending) : Parse String := fun r =>
  let (text, lines, rest) := documentLines p (r.rest.length + 1) [] false 0 r.rest
  .ok (String.ofList text.reverse) { r with rest, line := r.line + lines }

/-- A place for a document that is announced. -/
def announce (mark : String) (strips isVerbatim : Bool) : Parse Nat := fun r =>
  let number := r.documents.size
  .ok number { r with
    documents := r.documents.push []
    pending := r.pending ++ [⟨number, mark, strips, isVerbatim⟩] }

/-- Reads another text, whose lines count from a given one, and comes back to this one. -/
def within {α : Type} (text : String) (line : Nat) (body : Parse α) : Parse α := do
  let outer ← get
  set { outer with rest := text.toList, line, pending := [], inUse := [] }
  let result ← body
  modify fun r => { outer with documents := r.documents }
  return result

/-- The text of an alias, unless it is being read. -/
def alias? (name : String) : Parse (Option String) := do
  let r ← get
  let inUse := r.inUse.filter fun (_, left) => r.rest.length > left
  set { r with inUse }
  if inUse.any (·.1 == name) then return none
  return r.aliases.lookup name

def pushAlias (name text : String) : Parse Unit := modify fun r =>
  { r with rest := text.toList ++ r.rest, inUse := (name, r.rest.length) :: r.inUse }

end Reader
end BuildRunner.Sandbox.Shell
