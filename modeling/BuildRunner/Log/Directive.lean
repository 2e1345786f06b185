import BuildRunner.Log.Event
import BuildRunner.Log.Pattern
import BuildRunner.Text.Alphanumeric
import BuildRunner.Text.Blank
import BuildRunner.Text.Utf8

/-! Log directives: `area[span{fields}]=level`, with every part optional. A directive sets the least
severe level shown for the events of an area that have certain fields. -/
namespace BuildRunner
open Text

/-- The name of a field, and whether a value is asked of it. -/
structure FieldTest where
  name : String
  hasValue : Bool
deriving DecidableEq, Repr

/-- No level means that nothing is shown. -/
structure Directive where
  area : Option String
  span : Option String
  fields : List FieldTest
  level : Option Level
deriving DecidableEq, Repr

namespace Directive

def number? (name : List Char) : Option Nat :=
  let digits := if name.head? == some '+' then name.tail else name
  if digits.isEmpty || !digits.all Char.isDigit then none else some (Nat.ofDigitChars 10 digits 0)

/-- Levels are named in any case, or numbered from the gravest. -/
def level? (name : List Char) : Option (Option Level) :=
  match number? name with
  | some 0 => some none
  | some 1 => some (some .error)
  | some 2 => some (some .warn)
  | some 3 => some (some .info)
  | some 4 => some (some .debug)
  | some 5 => some (some .trace)
  | _ =>
    match String.ofList (name.map Char.toLower) with
    | "off" => some none
    | "error" => some (some .error)
    | "warn" => some (some .warn)
    | "info" => some (some .info)
    | "debug" => some (some .debug)
    | "trace" => some (some .trace)
    | _ => none

def fieldTest? (text : List Char) : Option FieldTest :=
  if text.isEmpty then none
  else
    let name := String.ofList (text.takeWhile (· ≠ '='))
    match text.dropWhile (· ≠ '=') with
    | [] => some ⟨name, false⟩
    | _ :: value =>
      let value := value.takeWhile (· ≠ '=')
      if Pattern.isSigned value || Pattern.isWellFormed value then some ⟨name, true⟩ else none

/-- What is being read; the numbers are the offsets where pieces begin. -/
inductive Reading where
  | start
  | area (start : Nat)
  | span (start : Nat)
  | field (start : Nat)
  | fieldsEnd
  | spanEnd
  | level (start : Nat)

/-- The characters between two offsets, counted in bytes. -/
def cut? (given : List UInt8) (start stop : Nat) : Option (List Char) :=
  Utf8.decode? ((given.drop start).take (stop - start))

/-- One character at an offset. Nothing but a letter, a digit or one of a few signs begins an area. -/
def step? (given : List UInt8) (state : Reading × Directive) (offset : Nat) (c : Char) :
    Option (Reading × Directive) :=
  let (reading, d) := state
  match reading, c with
  | .start, '[' => some (.span (offset + 1), d)
  | .start, c =>
    if isAlphanumeric c || c == '-' || c == ':' || c == '_' then some (.area offset, d) else none
  | .area start, '=' => do
    return (.level (offset + 1), { d with area := some (String.ofList (← cut? given start offset)) })
  | .area start, '[' => do
    return (.span (offset + 1), { d with area := some (String.ofList (← cut? given start offset)) })
  | .span start, ']' => do
    return (.spanEnd, { d with span := some (String.ofList (← cut? given start offset)) })
  | .span start, '{' => do
    let name ← cut? given start offset
    let span := if name.isEmpty then none else some (String.ofList name)
    return (.field (offset + 1), { d with span })
  | .field start, '}' => do
    let test ← fieldTest? (← cut? given start offset)
    return (.fieldsEnd, { d with fields := d.fields ++ [test] })
  | .fieldsEnd, ']' => some (.spanEnd, d)
  | .spanEnd, '=' => some (.level (offset + 1), d)
  | .fieldsEnd, _ | .spanEnd, _ => none
  | reading, _ => some (reading, d)

/-- What the end of the text makes of a reading: a name alone is a level, or an area of which
everything is shown. -/
def finish? (given : List UInt8) (state : Reading × Directive) : Option Directive :=
  let (reading, d) := state
  match reading with
  | .area start => do
    let name ← cut? given start given.length
    match level? name with
    | some level => return { d with level }
    | none => return { d with area := some (String.ofList name) }
  | .level start => do
    let name ← cut? given start given.length
    if name.isEmpty then return d
    return { d with level := ← level? name }
  | .spanEnd => some d
  | _ => none

def scan? (given : List UInt8) :
    Nat → Reading × Directive → List Char → Option (Reading × Directive)
  | _, state, [] => some state
  | offset, state, c :: rest => do
    scan? given (offset + c.utf8Size) (← step? given state offset c) rest

/-- Offsets are found without the blanks around the text, and pieces are cut from the text as it is
given: a blank in front shifts every piece. -/
def parse? (text : List Char) : Option Directive := do
  let given := Utf8.encode text
  finish? given (← scan? given 0 (.start, ⟨none, none, [], some .trace⟩) (trim text))

/-- Directives that ask about a span or about values of fields say nothing of events outside spans. -/
def concernsEvents (d : Directive) : Bool := d.span.isNone && d.fields.all (!·.hasValue)

def fits (d : Directive) (event : Event) : Bool :=
  (match d.area with
    | none => true
    | some area => area.toList.isPrefixOf event.area.toList) &&
  d.fields.all fun f => event.fieldNames.contains f.name

/-- How two directives compare in what decides between them: first the length of the area, then
the number of fields, and where these are equal the names themselves. -/
def specificity (a b : Directive) : Ordering :=
  (compare (a.area.map String.utf8ByteSize) (b.area.map String.utf8ByteSize)).then <|
  (compare a.fields.length b.fields.length).then <|
  (compare a.area b.area).then <|
  compare (a.fields.map (·.name)) (b.fields.map (·.name))

def admits (d : Directive) (event : Event) : Bool :=
  match d.level with
  | none => false
  | some level => event.level.rank ≤ level.rank

end Directive
end BuildRunner
