import BuildRunner.Sandbox.Arguments
import BuildRunner.Sandbox.Format
import BuildRunner.Sandbox.Quotation
import BuildRunner.Sandbox.Utility.Escape

/-! Programs that print their arguments: words, or values under a format. -/
namespace BuildRunner.Sandbox.Utility
open Act

namespace Echo

def isOption (word : String) : Bool :=
  match word.toList with
  | '-' :: c :: rest => (c :: rest).all fun c => c == 'n' || c == 'e' || c == 'E'
  | _ => false

def run : Act Unit := do
  let given ← arguments
  let letters := (given.takeWhile isOption).flatMap String.toList
  let line := " ".intercalate (given.dropWhile isOption)
  let (text, last) :=
    if (letters.filter fun c => c == 'e' || c == 'E').getLast? == some 'e' then
      Escape.expandAll Escape.inWord line
    else (line, none)
  print (if letters.contains 'n' || last.isSome then text else text ++ "\n")

end Echo

namespace Printf

def verify (argument : String) (rest : Option (List Char)) : Act Unit := do
  match rest with
  | none =>
    if !argument.isEmpty then
      complain (Quotation.quoted argument ++ ": expected a numeric value")
      atLeast 1
  | some [] => return
  | some _ =>
    complain (Quotation.quoted argument ++ ": value not completely converted")
    atLeast 1

def outOfRange (argument : String) : Act Unit := do
  complain (Quotation.quoted argument ++ ": Numerical result out of range")
  atLeast 1

def character? (argument : String) : Act (Option Int) := do
  match argument.toList with
  | quote :: c :: rest =>
    if quote == '\'' || quote == '"' then
      if !rest.isEmpty then
        complain ("warning: " ++ String.ofList rest ++
          ": character(s) following character constant have been ignored")
      return some c.toNat
    else return none
  | _ => return none

def signed (argument : String) : Act Int := do
  if let some n ← character? argument then return n
  match Numeral.integer? argument.toList with
  | none => verify argument none; return 0
  | some (n, rest) =>
    if n > Word64.greatest then outOfRange argument; return Word64.greatest
    if n < Word64.least then outOfRange argument; return Word64.least
    verify argument (some rest)
    return n

def unsigned (argument : String) : Act Nat := do
  if let some n ← character? argument then return n.toNat
  match Numeral.integer? argument.toList with
  | none => verify argument none; return 0
  | some (n, rest) =>
    if n.natAbs ≥ Word64.size.toNat then outOfRange argument; return Word64.size.toNat - 1
    verify argument (some rest)
    return Word64.unsigned n

def real (argument : String) : Act Real := do
  if let some n ← character? argument then return .ofInt n
  match Numeral.real? Real.extended argument.toList with
  | none => verify argument none; return .finite false 0 0
  | some (x, rest) =>
    verify argument (some rest)
    return x

/-- Letters of conversions that the flags, and a precision, leave open. -/
def allowed (flags : List Char) (hasPrecision : Bool) : List Char :=
  let barred := flags.flatMap fun
    | '\'' => "aAceEosxX".toList
    | 'I' => "aAceEosxX".toList
    | '#' => "cdisu".toList
    | '0' => "cs".toList
    | _ => []
  let barred := if hasPrecision then 'c' :: barred else barred
  "aAcdeEfFgGiosuxX".toList.filter (!barred.contains ·)

def count (text : List Char) (arguments : List String) :
    Act (Option Int × List Char × List String) := do
  match text with
  | '*' :: rest =>
    match arguments with
    | [] => return (some 0, rest, [])
    | argument :: arguments =>
      let n ← signed argument
      if n < -2147483648 || n > 2147483647 then
        fail 1 ("invalid field width: " ++ Quotation.quoted argument)
      return (some n, rest, arguments)
  | text =>
    let digits := text.takeWhile Char.isDigit
    return (if digits.isEmpty then none else some (Numeral.valueOf 10 digits),
      text.drop digits.length, arguments)

def convert (c : Conversion) (letter : Char) (argument : String) : Act Unit := do
  let text ← match letter with
    | 'd' | 'i' => do pure (c.integer (← signed argument))
    | 'o' => do pure (c.natural 8 false (← unsigned argument))
    | 'u' => do pure (c.natural 10 false (← unsigned argument))
    | 'x' => do pure (c.natural 16 false (← unsigned argument))
    | 'X' => do pure (c.natural 16 true (← unsigned argument))
    | 'c' => pure (c.pad [argument.toList.headD '\x00'])
    | 's' => pure (c.text argument.toList)
    | _ => do pure (c.real letter Real.extended (← real argument))
  print (String.ofList text)

def escaped (argument : String) : Act Unit := do
  let (text, last) := Escape.expandAll (Escape.inFormat true) argument
  print text
  match last with
  | some (.malformed message) => fail 1 message
  | some _ => exit 0
  | none => return

/-- One conversion: what stands after its percent sign, and the arguments that are left. -/
def conversion (text : List Char) (arguments : List String) : Act (List Char × List String) := do
  match text with
  | '%' :: rest => print "%"; return (rest, arguments)
  | 'b' :: rest =>
    if let argument :: _ := arguments then escaped argument
    return (rest, arguments.tail)
  | 'q' :: rest =>
    if let argument :: _ := arguments then print (Quotation.bare argument)
    return (rest, arguments.tail)
  | _ =>
    let flags := text.takeWhile fun c => "-+ #0'I".toList.contains c
    let (width, rest, arguments) ← count (text.drop flags.length) arguments
    let (precision, rest, arguments) ← match rest with
      | '.' :: rest => do
        let (n, rest, arguments) ← count rest arguments
        pure (some (n.getD 0), rest, arguments)
      | rest => pure (none, rest, arguments)
    let specified := rest
    let rest := rest.dropWhile fun c => "lLhjtz".toList.contains c
    let letter := rest.headD '\x00'
    if !(allowed flags precision.isSome).contains letter then
      let shown := text.take (text.length - rest.length + min 1 specified.length)
      fail 1 ("%" ++ String.ofList shown ++ ": invalid conversion specification")
    let width := width.getD 0
    let flags := if width < 0 then '-' :: flags else flags
    let precision := precision.bind fun n => if n < 0 then none else some n.toNat
    convert ⟨flags, width.natAbs, precision⟩ letter (arguments.headD "")
    return (rest.tail, arguments.tail)

def pass : Nat → List Char → List String → Act (List String)
  | 0, _, arguments | _, [], arguments => return arguments
  | fuel + 1, '%' :: rest, arguments => do
    let (rest, arguments) ← conversion rest arguments
    pass fuel rest arguments
  | fuel + 1, '\\' :: rest, arguments => do
    match Escape.inFormat false rest with
    | (.octets text, rest) =>
      print (String.ofList text)
      pass fuel rest arguments
    | (.malformed message, _) => fail 1 message
    | (.stop, _) => exit 0
  | fuel + 1, c :: rest, arguments => do
    print c.toString
    pass fuel rest arguments

def passes (format : List Char) : Nat → List String → Act Unit
  | 0, _ | _, [] => return
  | fuel + 1, arguments => do passes format fuel (← pass (format.length + 1) format arguments)

/-- A format is used once, and again only if it takes arguments. -/
def allPasses (format : List Char) (arguments : List String) : Act Unit := do
  let rest ← pass (format.length + 1) format arguments
  if !rest.isEmpty && rest.length == arguments.length then
    complain ("warning: ignoring excess arguments, starting with " ++ Quotation.quoted (rest.headD ""))
  else passes format rest.length rest

def run : Act Unit := do
  let given ← arguments
  match if given.head? == some "--" then given.tail else given with
  | [] => misused 1 "missing operand"
  | format :: arguments => allPasses format.toList arguments

end Printf
end BuildRunner.Sandbox.Utility
