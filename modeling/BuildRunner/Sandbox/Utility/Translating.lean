import BuildRunner.Sandbox.Utility.Reading

/-! Translation of characters: those of one set become those of another, are dropped, or stand once
where they stand in a row. -/
namespace BuildRunner.Sandbox.Utility
namespace Translate
open Act Text

inductive Element where
  | one (c : Char)
  | range (low high : Char)
  | named (name : String)
  /-- What counts as equal to a character: itself alone. -/
  | equals (c : Char)
  | «repeat» (c : Char) (count : Option Nat)

/-- A character, and whether a backslash stands before it. -/
abbrev Unescaped := Char × Bool

/-- The characters of a text, with what is to be said about backslashes in it. -/
def unescape : Nat → List Char → List Unescaped × List String
  | 0, _ => ([], [])
  | _, [] => ([], [])
  | _, ['\\'] => ([('\\', true)], ["an unescaped backslash at end of string is not portable"])
  | fuel + 1, '\\' :: c :: rest =>
    if Numeral.isOctal c then
      let digits := ((c :: rest).take 3).takeWhile Numeral.isOctal
      let isLong := Numeral.valueOf 8 digits > 255
      let short := if isLong then digits.take 2 else digits
      let warning := "the ambiguous octal escape \\" ++ String.ofList digits ++
        " is being\n\tinterpreted as the 2-byte sequence \\0" ++ String.ofList short ++ ", " ++
        String.ofList (digits.drop 2)
      let (more, warnings) := unescape fuel ((c :: rest).drop short.length)
      ((Char.ofNat (Numeral.valueOf 8 short), true) :: more,
        if isLong then warning :: warnings else warnings)
    else
      let found := match c with
        | 'a' => '\x07'
        | 'b' => '\x08'
        | 'f' => '\x0c'
        | 'n' => '\n'
        | 'r' => '\r'
        | 't' => '\t'
        | 'v' => '\x0b'
        | c => c
      let (more, warnings) := unescape fuel rest
      ((found, true) :: more, warnings)
  | fuel + 1, c :: rest =>
    let (more, warnings) := unescape fuel rest
    ((c, false) :: more, warnings)

def chars (part : List Unescaped) : List Char := part.map (·.1)

def marked? (mark : Char) (text : List Unescaped) : Option (List Char × List Unescaped) :=
  let rec go : Nat → List Unescaped → List Char → Option (List Char × List Unescaped)
    | 0, _, _ => none
    | _, [], _ => none
    | fuel + 1, (c, e) :: rest, done =>
      match rest with
      | (']', false) :: after =>
        if c == mark && !e && !done.isEmpty then some (done.reverse, after) else go fuel rest (c :: done)
      | _ => go fuel rest (c :: done)
  go text.length text []

def repetition? (text : List Unescaped) : Option (Except (List Char) Element × List Unescaped) :=
  match text with
  | (c, _) :: ('*', false) :: rest =>
    let digits := rest.takeWhile fun (c, e) => !(c == ']' && !e)
    match rest.drop digits.length with
    | _ :: after =>
      let digits := chars digits
      if digits.isEmpty then some (.ok (.repeat c none), after)
      else if digits.all Char.isDigit then
        let n := Numeral.valueOf (if digits.head? == some '0' then 8 else 10) digits
        some (.ok (.repeat c (if n == 0 then none else some n)), after)
      else some (.error digits, after)
    | [] => none
  | _ => none

def shown (c : Char) : String :=
  if ' ' ≤ c && c ≤ '~' then (if c == '\\' then "\\\\" else c.toString)
  else String.ofList ('\\' :: Quotation.escapeTail c)

def classNames : List String :=
  ["alnum", "alpha", "blank", "cntrl", "digit", "graph", "lower", "print", "punct", "space", "upper", "xdigit"]

def elements : Nat → List Unescaped → Act (List Element)
  | 0, _ => return []
  | _, [] => return []
  | fuel + 1, ('[', false) :: (':', false) :: rest => do
    match marked? ':' rest with
    | some (name, after) =>
      let name := String.ofList name
      if !classNames.contains name then fail 1 ("invalid character class " ++ Quotation.quoted name)
      return .named name :: (← elements fuel after)
    | none => plain fuel ('[', false) ((':', false) :: rest)
  | fuel + 1, ('[', false) :: ('=', false) :: rest => do
    match marked? '=' rest with
    | some ([c], after) => return .equals c :: (← elements fuel after)
    | some (name, _) =>
      fail 1 (String.ofList name ++ ": equivalence class operand must be a single character")
    | none => plain fuel ('[', false) (('=', false) :: rest)
  | fuel + 1, ('[', false) :: rest => do
    match repetition? rest with
    | some (.ok e, after) => return e :: (← elements fuel after)
    | some (.error digits, _) =>
      fail 1 ("invalid repeat count " ++ Quotation.quoted (String.ofList digits) ++ " in [c*n] construct")
    | none => plain fuel ('[', false) rest
  | fuel + 1, c :: rest => plain fuel c rest
where
  /-- A character alone or the beginning of a range. -/
  plain (fuel : Nat) (c : Unescaped) (rest : List Unescaped) : Act (List Element) := do
    match rest with
    | ('-', false) :: (d, _) :: after =>
      if d < c.1 then
        fail 1 ("range-endpoints of '" ++ shown c.1 ++ "-" ++ shown d ++ "' are in reverse collating sequence order")
      return .range c.1 d :: (← elements fuel after)
    | rest => return .one c.1 :: (← elements fuel rest)

def octets : List Char := (List.range 256).map Char.ofNat

def inClass (name : String) (c : Char) : Bool :=
  let visible := '!' ≤ c && c ≤ '~'
  match name with
  | "alnum" => c.isAlphanum
  | "alpha" => c.isAlpha
  | "blank" => c == ' ' || c == '\t'
  | "cntrl" => c.toNat < 32 || c.toNat == 127
  | "digit" => c.isDigit
  | "graph" => visible
  | "lower" => c.isLower
  | "print" => visible || c == ' '
  | "punct" => visible && !c.isAlphanum
  | "space" => Numeral.isSpace c
  | "upper" => c.isUpper
  | _ => c.isDigit || ('a' ≤ c.toLower && c.toLower ≤ 'f')

/-- The characters that an element stands for; a repetition without a count is given one. -/
def Element.expand (filling : Nat) : Element → List Char
  | .one c | .equals c => [c]
  | .range low high => (octets.drop low.toNat).take (high.toNat - low.toNat + 1)
  | .named name => octets.filter (inClass name)
  | .repeat c count => List.replicate (count.getD filling) c

def Element.isEndless : Element → Bool
  | .repeat _ none => true
  | _ => false

def expand (filling : Nat) (es : List Element) : List Char := es.flatMap (·.expand filling)

/-- The class of letters of one case that an element stands for. -/
def Element.case? : Element → Option String
  | .named "upper" => some "upper"
  | .named "lower" => some "lower"
  | _ => none

/-- Pairs of characters of two sets. Where the second one comes to a class of letters of one case,
the first has to come to one as well, and the letters are paired by their other case. -/
def pairs? : Nat → List Char → List Element → List Char → List Element → Option (List (Char × Char))
  | 0, _, _, _, _ => some []
  | fuel + 1, [], e :: es, [], f :: fs =>
    match e.case?, f.case? with
    | some a, some b =>
      let letters := octets.filter (inClass a)
      let turned (c : Char) : Char := if a == b then c else if b == "upper" then c.toUpper else c.toLower
      (pairs? fuel [] es [] fs).map (letters.map (fun c => (c, turned c)) ++ ·)
    | _, some _ => none
    | _, none => pairs? fuel (e.expand 0) es (f.expand 0) fs
  | fuel + 1, [], e :: es, ds, fs => pairs? fuel (e.expand 0) es ds fs
  | fuel + 1, c :: cs, es, [], f :: fs =>
    if f.case?.isSome then none else pairs? fuel (c :: cs) es (f.expand 0) fs
  | fuel + 1, c :: cs, es, d :: ds, fs => (pairs? fuel cs es ds fs).map ((c, d) :: ·)
  | _, _, _, _, _ => some []

/-- One of each character of a set that stands several times in a row. -/
def squeeze (set : Array Bool) : Option Char → List Char → List Char
  | _, [] => []
  | last, c :: rest =>
    if last == some c && set.getD c.toNat false then squeeze set last rest
    else c :: squeeze set (some c) rest

def tableOf (set : List Char) : Array Bool := set.foldl (fun t c => t.set! c.toNat true) (Array.replicate 256 false)

def switches : List Switch :=
  [.letter 'c' "complement" .plain, .flag 'C' "", .flag 'd' "delete", .flag 's' "squeeze-repeats",
   .flag 't' "truncate-set1"]

/-- The second set once all is right with both, with what it lacks filled in, and the pairs. The
number says how many characters the first set stands for. -/
def pairing (isComplement truncates : Bool) (set : List Char) (first second : List Element) :
    Act (List (Char × Char)) := do
  if second.any fun | .equals _ => true | _ => false then
    fail 1 "[=c=] expressions may not appear in string2 when translating"
  if second.any fun | .named name => name != "upper" && name != "lower" | _ => false then
    fail 1 "when translating, the only character classes that may appear in\nstring2 are 'upper' and 'lower'"
  -- a class of one case takes one place, whatever the first set has there
  let hasCase := second.any (·.case?.isSome)
  let size (es : List Element) : Nat :=
    ((es.map fun e => if hasCase && e.case?.isSome then 1 else (e.expand 0).length)).foldl (· + ·) 0
  let length := if isComplement then set.length else size first
  let second := second.map fun
    | .repeat c none => .repeat c (some (length - size second))
    | e => e
  let aligned := if isComplement then some [] else pairs? (10 * (length + second.length + 600)) [] first [] second
  if aligned.isNone then fail 1 "misaligned [:upper:] and/or [:lower:] construct"
  let length := if isComplement then set.length else length
  let has := if isComplement then (expand 0 second).length else size second
  if length > has && !truncates then
    if second.isEmpty || has == 0 then fail 1 "when not truncating set1, string2 must be non-empty"
    if let some (.named _) := second.getLast? then
      fail 1 "when translating with string1 longer than string2,\nthe latter string must not end with a character class"
  let last := ((expand 0 second).getLast?).getD ' '
  let filled := if truncates then second else second ++ [.repeat last (some (length - has))]
  if isComplement && first.any fun | .named _ => true | _ => false then
    if (expand 0 filled).eraseDups.length > 1 then
      fail 1 "when translating with complemented character classes,\nstring2 must map all characters in the domain to one"
  if isComplement then return set.zip (expand 0 filled)
  return (pairs? (10 * (length + filled.length + 600)) [] first [] filled).getD []

def run : Act Unit := do
  let a ← readLeadingArguments 1 switches
  let deletes := a.has "d"
  let squeezes := a.has "s"
  let least := if deletes == squeezes then 2 else 1
  let most := if deletes && !squeezes then 1 else 2
  match a.operands with
  | [] => misused 1 "missing operand"
  | [one] =>
    if least > 1 then
      complain ("missing operand after " ++ Quotation.quoted one)
      sayError ("Two strings must be given when " ++
        (if squeezes then "both deleting and squeezing repeats." else "translating."))
      refer 1
  | operands =>
    if operands.length > most then
      complain ("extra operand " ++ Quotation.quoted (operands.getD most ""))
      if operands.length == 2 then
        sayError "Only one string may be given when deleting without squeezing repeats."
      refer 1
  let read (text : String) : Act (List Element) := do
    let (found, warnings) := unescape (text.length + 1) text.toList
    warnings.forM fun w => complain ("warning: " ++ w)
    elements (text.length + 1) found
  let first ← read (a.operands.headD "")
  let second? ← a.operands[1]?.mapM read
  if first.any (·.isEndless) then fail 1 "the [c*] repeat construct may not appear in string1"
  let set := expand 0 first
  let isComplement := a.has "c" || a.has "C"
  let set := if isComplement then octets.filter (!set.contains ·) else set
  let translates := second?.isSome && !deletes
  let second := second?.getD []
  if (second.filter (·.isEndless)).length > 1 then
    fail 1 "only one [c*] repeat construct may appear in string2"
  if !translates && second.any (·.isEndless) then
    fail 1 "the [c*] construct may appear in string2 only when translating"
  let mapping ← if translates then pairing isComplement (a.has "t") set first second else pure []
  let text ← match ← readAll 0 with
    | .ok data => pure (Octets.ofByteArray data).toList
    | .error fault => fail 1 ("read error: " ++ fault.reason)
  let changed :=
    if deletes then
      let t := tableOf set
      text.filter fun c => !t.getD c.toNat false
    else if translates then
      let t := mapping.foldl (fun t (c, d) => t.set! c.toNat d) octets.toArray
      text.map fun c => t.getD c.toNat c
    else text
  let results := if translates then mapping.map (·.2) ++ expand 0 second else expand 0 second
  let final :=
    if squeezes then squeeze (tableOf (if second?.isSome then results else set)) none changed else changed
  print (String.ofList final)

end Translate
end BuildRunner.Sandbox.Utility
