import BuildRunner.Log.Directive

/-! Log filters: which events are shown. A filter is a list of directives separated by commas, and
of those that fit an event the most specific one decides. -/
namespace BuildRunner

abbrev LogFilter := List Directive

namespace LogFilter

def atLevel (level : Level) : LogFilter := [⟨none, none, [], some level⟩]

def parse? (text : String) : Option LogFilter := do
  let parts := (text.toList.splitOn ',').filter (!·.isEmpty)
  let directives ← parts.mapM Directive.parse?
  return if directives.isEmpty then atLevel .error else directives

/-- Of directives that are equally specific the later one decides. -/
def decisive? (filter : LogFilter) (event : Event) : Option Directive :=
  (filter.filter fun d => d.concernsEvents && d.fits event).foldl
    (fun best d =>
      match best with
      | none => some d
      | some b => if d.specificity b == .lt then some b else some d)
    none

def admits (filter : LogFilter) (event : Event) : Bool :=
  match filter.decisive? event with
  | none => false
  | some d => d.admits event

/-- Verbose runs show debug events; otherwise the environment decides, and warnings are shown where
it says nothing that can be read. -/
def select (verbose : Bool) (environment : Option String) : LogFilter :=
  if verbose then atLevel .debug else (environment.bind parse?).getD (atLevel .warn)

end LogFilter
end BuildRunner
