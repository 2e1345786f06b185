import BuildRunner.Sandbox.Shell.Parser
import BuildRunner.Sandbox.Shell.State

/-! What a shell does around its commands: it reads them from a text, takes up signals, works in
copies of itself, in the background too, and comes to its end. -/
namespace BuildRunner.Sandbox.Shell
open Eval Text

namespace Eval

/-- How often a loop is repeated and how many lines a text has, at most. -/
def patience : Nat := 200000

/-- Gives up on a shell that does not end: when its time is limited, it is stopped then, and else
when nobody reads what it writes. -/
def giveUp {α : Type} : Eval α := do
  let m := (← get).machine
  match m.deadline with
  | some moment =>
    setMachine { m with now := max m.now moment }
    throw (.killed Signal.term)
  | none => throw (.killed Signal.pipe)

def repeatWhile : Nat → Eval Bool → Eval Unit
  | 0, _ => giveUp
  | fuel + 1, step => do
    if ← step then repeatWhile fuel step

/-- Runs the commands of a text. The last one may be replaced by a program if the shell ends with
the text. Lines are shown as they are read if this is asked for. -/
def runLines (evaluate : Evaluator) (course : Course) (shows : Bool) : Nat → Reader → Eval Unit
  | 0, _ => giveUp
  | fuel + 1, r => do
    let s ← get
    match Parser.next.run { r with documents := s.documents, aliases := s.aliases } with
    | .error fault _ =>
      modify fun s => { s with line := fault.line }
      fail ("Syntax error: " ++ fault.message)
    | .ok c after =>
      set { s with documents := after.documents, reached := after.line }
      if shows && s.options.contains 'v' then
        discard <| writeTo 2 (String.ofList (r.rest.take (r.rest.length - after.rest.length)))
      match c with
      | none => return
      | some c =>
        let isAtEnd := after.putBack && (match after.last with | .ended => true | _ => false)
        evaluate { course with isLast := course.isLast && isAtEnd } c
        runLines evaluate course shows fuel after

def runText (evaluate : Evaluator) (course : Course) (text : String) : Eval Unit := do
  let s ← get
  let r := Reader.start text 1 s.documents s.aliases
  match Parser.next.run r with
  | .ok none _ => setStatus 0
  | _ => runLines evaluate course false patience r

/-! Signals -/

/-- Stops a shell whose time is over. One that expects this takes up the signal and has no limit
any more. -/
def checkTime : Eval Unit := do
  let s ← get
  let m := s.machine
  if m.deadline.any (m.now ≥ ·) then
    if (s.traps.lookup Signal.term).isNone then throw (.killed Signal.term)
    setMachine { m with deadline := none, signals := m.signals ++ [(s.process.number, Signal.term)] }

/-- Takes up the signals that have come for this shell. -/
def takeSignals (evaluate : Evaluator) : Eval Unit := do
  let s ← get
  if s.machine.signals.isEmpty then return
  let (mine, others) := s.machine.signals.partition fun (number, _) => number == s.process.number
  if mine.isEmpty then return
  setMachine { s.machine with signals := others }
  mine.forM fun (_, signal) => do
    if Signal.isFinal signal then throw (.killed signal)
    let s ← get
    if s.process.ignored.contains signal then return
    match s.traps.lookup signal with
    | some action =>
      let status := s.status
      runText evaluate .plain action
      setStatus status
    | none => if Signal.isFatal signal then throw (.killed signal)

/-! Jobs -/

/-- What happens when a job is run from its start, and how late it is then. -/
def outcome (m : Machine) (j : Job) : Ending × Nat × Machine :=
  let (ending, after) := j.run { m with now := j.started }
  (ending, after.now, { after with now := max m.now after.now })

/-- The job among those that have not ended that ends first. -/
def earliest (m : Machine) (jobs : List Job) : Option (Job × Ending × Nat × Machine) :=
  jobs.foldl
    (fun best j =>
      if j.ending.isSome then best
      else
        let found := outcome m j
        match best with
        | some (_, _, moment, _) => if found.2.1 < moment then some (j, found) else best
        | none => some (j, found))
    none

/-- Runs jobs in the order in which they end, as long as they end before a moment. -/
def settle (limit : Option Nat) : Nat → Eval Unit
  | 0 => return
  | fuel + 1 => do
    let s ← get
    match earliest s.machine s.jobs with
    | none => return
    | some (j, ending, moment, m) =>
      if limit.any (moment > ·) then return
      let ended (k : Job) : Job := if k.number == j.number then { k with ending := some ending } else k
      let now := if limit.isSome then s.machine.now else m.now
      set { s with machine := { m with now }, jobs := s.jobs.map ended }
      settle limit fuel

def settleAll : Eval Unit := do
  settle none (← get).jobs.length

def await (number : Nat) : Eval (Option Ending) := do
  let s ← get
  match s.jobs.find? (·.number == number) with
  | none => return none
  | some j =>
    match j.ending with
    | some ending => return some ending
    | none =>
      let (_, moment, _) := outcome s.machine j
      settle (some moment) s.jobs.length
      modify fun s => { s with machine := { s.machine with now := max s.machine.now moment } }
      return ((← get).jobs.find? (·.number == number)).bind (·.ending)

/-! The end of a shell -/

/-- Runs a shell to its end: after its commands come the action for the end and the jobs that still
run. -/
def conclude (evaluate : Evaluator) (body : Eval Unit) (s : State) : Ending × State :=
  let withJobs (ending : Ending) (s : State) : Ending × State :=
    match settleAll.run s with
    | .ok _ s | .error _ s => (ending, s)
  let atEnd (s : State) : Ending × State :=
    match s.traps.lookup 0 with
    | none => withJobs (.exit s.status) s
    | some action =>
      let status := s.status
      let s := { s with traps := s.traps.filter (·.1 ≠ 0), final := some status, loops := 0, returnable := 0 }
      match (runText evaluate .plain action).run s with
      | .ok _ s => withJobs (.exit status) s
      | .error (.killed signal) s => withJobs (.killed signal) s
      | .error (.replaced ending) s => withJobs ending s
      | .error .exited s | .error .failed s => withJobs (.exit s.status) s
      | .error _ s => withJobs (.exit status) s
  match body.run s with
  | .ok _ s => atEnd s
  | .error (.killed signal) s => withJobs (.killed signal) s
  | .error (.replaced ending) s => withJobs ending s
  | .error _ s => atEnd s

/-! Copies -/

/-- A copy of the shell: a process of its own, in which only what is ignored of the signals stays so
and which knows of no jobs. -/
def copy (number : Nat) (s : State) : State :=
  { s with
    process := { s.process with number, ancestors := s.process.number :: s.process.ancestors }
    traps := s.traps.filter fun (signal, _) => s.process.ignored.contains signal
    jobs := []
    final := none }

/-- Runs a body in a copy of the shell. Only the machine comes back. -/
def inCopy (evaluate : Evaluator) (body : Eval Unit) : Eval Ending := do
  let number ← newNumber
  let s ← get
  let (ending, after) := conclude evaluate body (copy number s)
  setMachine after.machine
  checkTime
  return ending

def substitute (evaluate : Evaluator) (c : Command) : Eval String := do
  match c with
  | .nothing => return ""
  | c =>
    let (source, sink, m) := (← get).machine.addPipe
    setMachine m
    let ending ← inCopy evaluate do
      setDescriptor 1 (some sink)
      evaluate ⟨false, true⟩ c
    sayEnding ending
    modify fun s => { s with substituted := statusOf ending }
    match (← get).machine.read source none with
    | .ok (data, m) =>
      setMachine m
      return Octets.ofByteArray data
    | .error _ => return ""

/-- Starts a command in the background. Nothing is there for it to read. -/
def startJob (evaluate : Evaluator) (body : Eval Unit) : Eval Unit := do
  let number ← newNumber
  let s ← get
  let inner := copy number { s with
    process := { s.process with ignored := 2 :: 3 :: s.process.ignored } }
  let quiet : Eval Unit := do
    let s ← get
    if let .ok (null, m) := s.process.openPath s.machine "/dev/null" .reading then
      setMachine m
      setDescriptor 0 (some null)
  let run (m : Machine) : Ending × Machine :=
    let (ending, after) := conclude evaluate (do quiet; body) { inner with machine := m }
    (ending, after.machine)
  let job : Job := ⟨number, s.machine.now, run, none⟩
  set { s with jobs := s.jobs ++ [job], lastJob := some number, status := 0 }

end Eval
end BuildRunner.Sandbox.Shell
