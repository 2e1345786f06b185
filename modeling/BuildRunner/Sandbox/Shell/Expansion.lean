import BuildRunner.Sandbox.Shell.Arithmetic
import BuildRunner.Sandbox.Shell.Pattern

/-! Expansion of words: parameters, the output of commands and arithmetic take the place of what
asks for them, the result is cut into fields, and fields that are patterns become the paths that
match. -/
namespace BuildRunner.Sandbox.Shell

/-- Where a character of an expanded word comes from. Only what an expansion outside of quotes gives
is cut into fields, and nothing from quotes is part of a pattern. -/
inductive Origin where
  | quoted
  | literal
  | expanded
deriving DecidableEq

inductive Atom where
  | char (c : Char) (origin : Origin)
  /-- A cut between parameters. -/
  | cut
  /-- Keeps a field that has no characters. -/
  | hold
deriving DecidableEq

namespace Atom

def ofText (origin : Origin) (s : String) : List Atom := s.toList.map (char · origin)

def ofValue (inQuotes : Bool) (s : String) : List Atom := ofText (if inQuotes then .quoted else .expanded) s

def text (atoms : List Atom) : String :=
  String.ofList (atoms.filterMap fun
    | char c _ => some c
    | _ => none)

/-- A pattern. In the result of an expansion a backslash guards what follows it. -/
def pattern : List Atom → Pattern
  | [] => []
  | .char '\\' .expanded :: .char c _ :: rest => (c, true) :: pattern rest
  | .char c origin :: rest => (c, origin == .quoted) :: pattern rest
  | _ :: rest => pattern rest

/-- Fields, from the one that is being filled, if one is. After a blank that ended a field, a divider
that is no blank belongs to the same cut. -/
def fieldsFrom (dividers : List Char) : Option Pattern → Bool → List Atom → List Pattern
  | current, _, [] => (current.map List.reverse).toList
  | current, _, .hold :: rest => fieldsFrom dividers (some (current.getD [])) false rest
  | current, _, .cut :: rest => (current.map List.reverse).toList ++ fieldsFrom dividers none false rest
  | current, afterBlank, .char c origin :: rest =>
    if origin == .expanded && dividers.contains c then
      let isBlank := c == ' ' || c == '\t' || c == '\n'
      match current with
      | some field => field.reverse :: fieldsFrom dividers none isBlank rest
      | none =>
        if isBlank || afterBlank then fieldsFrom dividers none (isBlank && afterBlank) rest
        else [] :: fieldsFrom dividers none false rest
    else fieldsFrom dividers (some ((c, origin == .quoted) :: current.getD [])) false rest

def fields (dividers : List Char) (atoms : List Atom) : List Pattern := fieldsFrom dividers none false atoms

end Atom

namespace Expansion
open Eval

/-- How a stretch of a word is expanded. -/
structure Manner where
  /-- Whether it becomes one text, so that all parameters together are joined. -/
  joins : Bool
  inQuotes : Bool
  /-- Whether it is the text of an expansion, which counts as its result. -/
  isInner : Bool

/-- Whether a part stands for all parameters, each a field of its own. -/
def isAll : Part → Bool
  | .parameter "@" _ _ => true
  | _ => false

/-- The directory that a word with a tilde means. -/
def home? (user : String) : Eval (Option String) := do
  if user.isEmpty then value? "HOME"
  else return if user == "root" then some "/root" else none

/-- Replaces a tilde at the start of a text and, in an assignment, after a colon. -/
def tildeText (assigns last : Bool) : Nat → List Char → Eval Word
  | 0, s => return [.text (String.ofList s)]
  | fuel + 1, s => do
    let rest (s : List Char) : Eval Word := do
      if !assigns then return if s.isEmpty then [] else [.text (String.ofList s)]
      let before := s.takeWhile (· ≠ ':')
      match s.drop before.length with
      | [] => return if s.isEmpty then [] else [.text (String.ofList s)]
      | _ :: after => return .text (String.ofList (before ++ [':'])) :: (← tildeText assigns last fuel after)
    match s with
    | '~' :: more =>
      let user := more.takeWhile fun c => c ≠ '/' && !(assigns && c == ':')
      let after := more.drop user.length
      if after.isEmpty && !last then rest s
      else
        match ← home? (String.ofList user) with
        | some dir => return .quoted dir :: (← rest after)
        | none => rest s
    | s => rest s

def tildes (assigns : Bool) : Word → Eval Word
  | .text s :: more => do
    let front ← tildeText assigns more.isEmpty (s.length + 1) s.toList
    return front ++ more
  | w => return w

def dropLineFeeds (s : String) : String :=
  String.ofList ((s.toList.reverse.dropWhile (· == '\n')).reverse.filter (· ≠ '\x00'))

/-- All parameters, each a field or, in quotes and under one name, joined. -/
def allParameters (m : Manner) (name : String) : Eval (List Atom) := do
  let values := (← get).parameters
  if m.joins || (name == "*" && m.inQuotes) then
    return Atom.ofValue m.inQuotes ((← separator).intercalate values)
  let hold : List Atom := if m.inQuotes then [.hold] else []
  return [Atom.cut].intercalate (values.map fun v => hold ++ Atom.ofValue m.inQuotes v)

mutual

def part (run : Command → Eval String) : Nat → Manner → Part → Eval (List Atom)
  | 0, _, _ => fail "Word too long"
  | fuel + 1, m, p => do
    match p with
    | .text s =>
      return Atom.ofText (if m.inQuotes then .quoted else if m.isInner then .expanded else .literal) s
    | .quoted s => return .hold :: Atom.ofText .quoted s
    | .quotes ps =>
      let atoms ← parts run fuel ⟨m.joins, true, m.isInner⟩ ps
      return if atoms.isEmpty && !ps.isEmpty && ps.all isAll then [] else .hold :: atoms
    | .substitution body => return Atom.ofValue m.inQuotes (dropLineFeeds (← run body))
    | .arithmetic ps =>
      let atoms ← parts run fuel ⟨true, true, false⟩ ps
      return Atom.ofValue m.inQuotes (toString (← Arithmetic.evaluate (Atom.text atoms)))
    | .parameter name operation word =>
      let value ← value? name
      let isList := name == "@" || name == "*"
      let emit : Eval (List Atom) := do
        if isList then allParameters m name else return Atom.ofValue m.inQuotes (value.getD "")
      let isMissing (emptyToo : Bool) : Bool := value.isNone || (emptyToo && value == some "")
      let alternative : Eval (List Atom) := do
        parts run fuel { m with isInner := true } (← tildes false word)
      let required : Eval Unit := do
        if value.isNone && !isList && (← has 'u') then fail (name ++ ": parameter not set")
      match operation with
      | .malformed => fail "Bad substitution"
      | .value =>
        required
        emit
      | .length =>
        required
        return Atom.ofValue m.inQuotes (toString (value.getD "").length)
      | .orElse emptyToo => if isMissing emptyToo then alternative else emit
      | .andThen emptyToo => if isMissing emptyToo then return [] else alternative
      | .orAssign emptyToo =>
        if isMissing emptyToo then
          let value := Atom.text (← parts run fuel ⟨true, m.inQuotes, false⟩ (← tildes false word))
          if !Name.isValid name then fail (name ++ ": bad variable name")
          assign name value
          return Atom.ofValue m.inQuotes value
        else emit
      | .orFail emptyToo =>
        if isMissing emptyToo then
          if word.isEmpty then
            fail (name ++ ": parameter not set" ++ (if emptyToo then " or null" else ""))
          fail (name ++ ": " ++ Atom.text (← parts run fuel ⟨true, m.inQuotes, false⟩ word))
        else emit
      | .dropFront longest =>
        required
        let pattern := Atom.pattern (← parts run fuel ⟨true, false, false⟩ (← tildes false word))
        return Atom.ofValue m.inQuotes (String.ofList (pattern.dropFront longest (value.getD "").toList))
      | .dropBack longest =>
        required
        let pattern := Atom.pattern (← parts run fuel ⟨true, false, false⟩ (← tildes false word))
        return Atom.ofValue m.inQuotes (String.ofList (pattern.dropBack longest (value.getD "").toList))

def parts (run : Command → Eval String) : Nat → Manner → List Part → Eval (List Atom)
  | 0, _, _ => fail "Word too long"
  | fuel + 1, m, ps => do
    match ps with
    | [] => return []
    | p :: rest =>
      let first ← part run fuel m p
      return first ++ (← parts run fuel m rest)

end

/-- How deep and long a word may be. -/
def fuel : Nat := 100000

def fields (run : Command → Eval String) (w : Word) : Eval (List String) := do
  let atoms ← parts run fuel ⟨false, false, false⟩ (← tildes false w)
  let found := Atom.fields (← dividers) atoms
  let s ← get
  return found.flatMap fun field =>
    if s.options.contains 'f' || !field.isOpen then [field.text]
    else
      match field.paths s.machine.files s.process.workdir with
      | [] => [field.text]
      | paths => paths

def single (run : Command → Eval String) (w : Word) : Eval String := do
  return Atom.text (← parts run fuel ⟨true, false, false⟩ (← tildes false w))

def value (run : Command → Eval String) (w : Word) : Eval String := do
  return Atom.text (← parts run fuel ⟨true, false, false⟩ (← tildes true w))

def pattern (run : Command → Eval String) (w : Word) : Eval Pattern := do
  return Atom.pattern (← parts run fuel ⟨true, false, false⟩ (← tildes false w))

end Expansion
end BuildRunner.Sandbox.Shell
