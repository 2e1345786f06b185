import BuildRunner.Sandbox.Shell.Evaluation

/-! The shell as a program: its switches, and where its commands come from. -/
namespace BuildRunner.Sandbox.Shell
open Eval Text

namespace Program

def ownVariables (p : Process) : List (String × Variable) :=
  let plain (name value : String) : String × Variable := (name, ⟨some value, false, false⟩)
  [plain "IFS" " \t\n", plain "PATH" Builtin.usualPath, plain "PS1" "# ", plain "PS2" "> ", plain "PS4" "+ ",
   plain "OPTIND" "1", plain "PPID" (toString (p.ancestors.headD 0))]

def initial (launch : Launcher) (p : Process) (m : Machine) : State :=
  let given := p.environment.filter fun (name, _) => Name.isValid name && name != "IFS" && name != "OPTIND" && name != "PPID"
  let imported : List (String × Variable) := given.map fun (name, value) => (name, ⟨some value, true, false⟩)
  let own := (ownVariables p).filter fun (name, _) => (given.lookup name).isNone
  { launch, machine := m, process := p, shownNumber := p.number, name := p.name, parameters := []
    store := own ++ imported, frames := [], functions := [], aliases := [], documents := #[], options := []
    status := 0, substituted := 0, traps := [], jobs := [], lastJob := none, hashed := []
    line := 0, reached := 0, command := none
    loops := 0, returnable := 0, optionIndex := 1, optionOffset := 0, final := none }

/-- Reads switches; whether commands are given as an argument, and the words after the switches. -/
def switches : Nat → Bool → List String → Eval (Bool × List String)
  | 0, given, words => return (given, words)
  | _, given, [] => return (given, [])
  | fuel + 1, given, word :: rest => do
    match word.toList with
    | ['-'] | ['-', '-'] => return (given, rest)
    | '-' :: letters =>
      let others := letters.filter fun c => c ≠ 'c' && c ≠ 'l'
      switches fuel (given || letters.contains 'c') (← Builtin.optionLetters true others rest)
    | '+' :: letters =>
      let others := letters.filter fun c => c ≠ 'c' && c ≠ 'l'
      switches fuel (given || letters.contains 'c') (← Builtin.optionLetters false others rest)
    | _ => return (given, word :: rest)

def script (text : String) : Eval Unit := do
  modify fun s => { s with line := 1 }
  runLines (Evaluation.evaluate Evaluation.depth) .plain true patience (Reader.start text 1 #[] [])

def main (arguments : List String) : Eval Unit := do
  let (given, words) ← switches (arguments.length + 1) false arguments
  let here ← Builtin.place
  assignWith true "PWD" here
  if given then
    match words with
    | [] => fail "-c requires an argument"
    | text :: rest =>
      modify fun s => { s with name := rest.headD s.name, parameters := rest.tail, line := 1 }
      runText (Evaluation.evaluate Evaluation.depth) ⟨false, true⟩ text
  else
    match ← has 's', words with
    | false, path :: rest =>
      match ← Change.open? .input path with
      | .error fault => fail ("cannot open " ++ path ++ ": " ++ Change.reason "No such file" fault)
      | .ok number =>
        let text ← match (← get).machine.read number none with
          | .ok (data, m) => do
            setMachine m
            pure (Octets.ofByteArray data)
          | .error _ => pure ""
        modify fun s => { s with name := path, parameters := rest }
        script text
    | _, words =>
      Builtin.setOption true 's'
      modify fun s => { s with parameters := words }
      let s ← get
      match s.process.descriptor? 0 with
      | none => return
      | some number =>
        match s.machine.read number none with
        | .error _ => return
        | .ok (data, m) =>
          setMachine m
          script (Octets.ofByteArray data)

end Program

def program : Sandbox.Program := fun launch p m =>
  let (ending, s) := conclude (Evaluation.evaluate Evaluation.depth) (Program.main p.arguments) (Program.initial launch p m)
  (ending, s.machine)

end BuildRunner.Sandbox.Shell
