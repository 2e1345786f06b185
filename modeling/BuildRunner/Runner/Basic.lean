import BuildRunner.Error

/-! Command runners: what carries out the commands of recipes, one at a time. -/
namespace BuildRunner

structure Reply (σ : Type) where
  /-- The text that the command showed, its own line included. -/
  result : Except BuildError String
  state : σ
  /-- Arguments of the process that the runner set out to start, if it came to that. -/
  spawning : Option (List String)

structure Runner (σ : Type) where
  execute : String → σ → Reply σ

/-- The same runner beside a state that it does not touch. -/
def Runner.beside {σ : Type} (τ : Type) (runner : Runner σ) : Runner (σ × τ) where
  execute command state :=
    let reply := runner.execute command state.1
    ⟨reply.result, (reply.state, state.2), reply.spawning⟩

end BuildRunner
