import BuildRunner.Graph.CycleSearch
import BuildRunner.Log.Logged

/-! The checks of a whole graph before anything runs: first for cycles, then for dependencies that
no rule declares. -/
namespace BuildRunner.Graph

/-- Dependencies that are no targets, each once, in the order in which they first occur. -/
def missingDependencies (g : Graph) : List String :=
  ((g.targets.flatMap g.dependencies).filter (!g.contains ·)).eraseDups

def validate (g : Graph) : Logged Unit :=
  match g.checkCycles with
  | .error error => .fail error
  | .ok () =>
    match g.missingDependencies with
    | [] => ⟨[.graphValidated g.size], .ok ()⟩
    | names => .fail (.missingDependency names)

end BuildRunner.Graph
