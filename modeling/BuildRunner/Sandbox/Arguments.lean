import BuildRunner.Sandbox.Process

/-! Arguments of programs: switches, given by a letter or a word, and operands. Letters may stand
together, words may be shortened as long as they stay clear, and two dashes end the switches. -/
namespace BuildRunner.Sandbox

inductive Arity where
  | plain
  | required
  | optional
deriving DecidableEq, Repr

structure Switch where
  /-- The name under which a program finds the switch. -/
  key : String
  letters : List Char
  words : List String
  arity : Arity

structure Arguments where
  switches : List (String × String)
  operands : List String

namespace Switch

/-- A switch with a letter, and perhaps a word; its key is the letter. -/
def letter (c : Char) (word : String) (arity : Arity) : Switch :=
  ⟨c.toString, [c], if word.isEmpty then [] else [word], arity⟩

def flag (c : Char) (word : String) : Switch := .letter c word .plain

def value (c : Char) (word : String) : Switch := .letter c word .required

/-- A switch that has only a word. -/
def word (word : String) (arity : Arity) : Switch := ⟨word, [], [word], arity⟩

end Switch

namespace Arguments

def has (a : Arguments) (key : String) : Bool := a.switches.any (·.1 == key)

def get? (a : Arguments) (key : String) : Option String := (a.switches.reverse.lookup key)

def getAll (a : Arguments) (key : String) : List String :=
  (a.switches.filter (·.1 == key)).map (·.2)

def lastOf (a : Arguments) (keys : List String) : Option String :=
  ((a.switches.map (·.1)).filter keys.contains).getLast?

/-- Letters that stand together: the switches, and the one that still lacks its value. -/
def readLetters (switches : List Switch) :
    List Char → Except String (List (String × String) × Option (Switch × Char))
  | [] => .ok ([], none)
  | c :: rest =>
    match switches.find? (·.letters.contains c) with
    | none => .error ("invalid option -- '" ++ c.toString ++ "'")
    | some s =>
      match s.arity with
      | .plain => do
        let (more, lacking) ← readLetters switches rest
        return ((s.key, "") :: more, lacking)
      | .optional => .ok ([(s.key, String.ofList rest)], none)
      | .required =>
        if rest.isEmpty then .ok ([], some (s, c)) else .ok ([(s.key, String.ofList rest)], none)

/-- The switch that a word or the beginning of one means, and its full word. -/
def findWord (switches : List Switch) (given : String) (name : String) :
    Except String (Switch × String) :=
  let all := switches.flatMap fun s => s.words.map fun w => (s, w)
  match all.find? (·.2 == name) with
  | some found => .ok found
  | none =>
    match all.filter fun (_, w) => w.startsWith name with
    | [] => .error ("unrecognized option '" ++ given ++ "'")
    | found :: others =>
      if others.all fun (s, _) => s.key == found.1.key then .ok found
      else
        .error ("option '" ++ given ++ "' is ambiguous; possibilities:" ++
          String.join ((found :: others).map fun (_, w) => " '--" ++ w ++ "'"))

/-- What is still to come: a value that a switch lacks, with the refusal if there is none. -/
def readAll (switches : List Switch) (permute : Bool) :
    Option (String × String) → List String → Except String Arguments
  | some (_, refusal), [] => .error refusal
  | none, [] => .ok ⟨[], []⟩
  | some (key, _), value :: rest => do
    let a ← readAll switches permute none rest
    return { a with switches := (key, value) :: a.switches }
  | none, argument :: rest =>
    match argument.toList with
    | '-' :: '-' :: [] => .ok ⟨[], rest⟩
    | '-' :: '-' :: chars => do
      let name := String.ofList (chars.takeWhile (· ≠ '='))
      let (s, w) ← findWord switches ("--" ++ String.ofList chars) name
      let given (key value : String) : Except String Arguments := do
        let a ← readAll switches permute none rest
        return { a with switches := (key, value) :: a.switches }
      match s.arity, chars.dropWhile (· ≠ '=') with
      | .plain, _ :: _ => throw ("option '--" ++ w ++ "' doesn't allow an argument")
      | .required, [] =>
        readAll switches permute (some (s.key, "option '--" ++ w ++ "' requires an argument")) rest
      | _, [] => given s.key ""
      | _, _ :: value => given s.key (String.ofList value)
    | '-' :: c :: chars => do
      let (found, lacking) ← readLetters switches (c :: chars)
      let a ← readAll switches permute
        (lacking.map fun (s, c) => (s.key, "option requires an argument -- '" ++ c.toString ++ "'")) rest
      return { a with switches := found ++ a.switches }
    | _ =>
      if permute then do
        let a ← readAll switches permute none rest
        return { a with operands := argument :: a.operands }
      else .ok ⟨[], argument :: rest⟩

end Arguments

namespace Act

/-- The arguments of the program, switches anywhere among the operands. -/
def readArguments (failure : Nat) (switches : List Switch) : Act Arguments := do
  match Arguments.readAll switches true none (← arguments) with
  | .ok a => return a
  | .error refusal => misused failure refusal

/-- The same for a program whose operands may look like switches after the first one. -/
def readLeadingArguments (failure : Nat) (switches : List Switch) : Act Arguments := do
  match Arguments.readAll switches false none (← arguments) with
  | .ok a => return a
  | .error refusal => misused failure refusal

end Act
end BuildRunner.Sandbox
