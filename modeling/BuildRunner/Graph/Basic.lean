import BuildRunner.OrderedMap

/-! The dependency graph of a rule file: for every target the names it depends on and the
commands of its recipe, both in the order of the file. -/
namespace BuildRunner

structure Graph where
  adjacency : OrderedMap String (List String)
  recipes : OrderedMap String (List String)
deriving DecidableEq

namespace Graph

def empty : Graph := ⟨.empty, .empty⟩

instance : Inhabited Graph := ⟨empty⟩

def targets (g : Graph) : List String := g.adjacency.keys

def size (g : Graph) : Nat := g.adjacency.size

def isEmpty (g : Graph) : Bool := g.size == 0

def contains (g : Graph) (name : String) : Bool := g.adjacency.contains name

def target? (g : Graph) (name : String) : Option String := g.targets.find? (· == name)

def dependencies? (g : Graph) (name : String) : Option (List String) := g.adjacency.get? name

def recipe? (g : Graph) (name : String) : Option (List String) := g.recipes.get? name

/-- Dependencies of any name; a name that is no target has none. -/
def dependencies (g : Graph) (name : String) : List String := (g.dependencies? name).getD []

/-- Commands of any name; a name without a recipe has none. -/
def recipe (g : Graph) (name : String) : List String := (g.recipe? name).getD []

/-- Declares a target with an empty recipe, in place of an earlier declaration if there is one. -/
def declare (g : Graph) (name : String) (dependencies : List String) : Graph :=
  ⟨g.adjacency.insert name dependencies, g.recipes.insert name []⟩

def addCommand (g : Graph) (name command : String) : Graph :=
  { g with recipes := g.recipes.modify name (· ++ [command]) }

theorem contains_iff (g : Graph) (name : String) : g.contains name = true ↔ name ∈ g.targets :=
  OrderedMap.contains_iff g.adjacency name

theorem dependencies?_of_mem {g : Graph} {name : String} (h : name ∈ g.targets) :
    g.dependencies? name = some (g.dependencies name) := by
  obtain ⟨list, hl⟩ := (g.adjacency.mem_keys_iff name).mp h
  have hd : g.dependencies? name = some list := hl
  rw [dependencies, hd, Option.getD_some]

theorem recipe?_of_mem {g : Graph} {name : String} (h : name ∈ g.recipes.keys) :
    g.recipe? name = some (g.recipe name) := by
  obtain ⟨list, hl⟩ := (g.recipes.mem_keys_iff name).mp h
  have hr : g.recipe? name = some list := hl
  rw [recipe, hr, Option.getD_some]

theorem targets_declare (g : Graph) (name : String) (dependencies : List String) :
    (g.declare name dependencies).targets =
      if name ∈ g.targets then g.targets else g.targets ++ [name] :=
  g.adjacency.keys_insert name dependencies

theorem mem_targets_declare {g : Graph} {name other : String} {dependencies : List String} :
    other ∈ (g.declare name dependencies).targets ↔ other = name ∨ other ∈ g.targets := by
  rw [targets_declare]
  split
  · rename_i h
    exact ⟨.inr, fun ho => ho.elim (· ▸ h) id⟩
  · rw [List.mem_append, List.mem_singleton, or_comm]

theorem recipes_keys_declare (g : Graph) (name : String) (dependencies : List String) :
    (g.declare name dependencies).recipes.keys =
      if name ∈ g.recipes.keys then g.recipes.keys else g.recipes.keys ++ [name] :=
  g.recipes.keys_insert name []

theorem recipes_keys_addCommand (g : Graph) (name command : String) :
    (g.addCommand name command).recipes.keys = g.recipes.keys :=
  g.recipes.keys_modify name (· ++ [command])

theorem dependencies?_declare (g : Graph) (name other : String) (dependencies : List String) :
    (g.declare name dependencies).dependencies? other =
      if other = name then some dependencies else g.dependencies? other :=
  g.adjacency.get?_insert name other dependencies

theorem recipe?_declare (g : Graph) (name other : String) (dependencies : List String) :
    (g.declare name dependencies).recipe? other = if other = name then some [] else g.recipe? other :=
  g.recipes.get?_insert name other []

theorem recipe?_addCommand (g : Graph) (name other command : String) :
    (g.addCommand name command).recipe? other =
      if other = name then (g.recipe? other).map (· ++ [command]) else g.recipe? other :=
  g.recipes.get?_modify name other (· ++ [command])

theorem recipe_declare (g : Graph) (name other : String) (dependencies : List String) :
    (g.declare name dependencies).recipe other = if other = name then [] else g.recipe other := by
  rw [recipe, recipe?_declare]
  split <;> rfl

/-- A command goes to the recipe of its target, which has one if it is declared. -/
theorem recipe_addCommand {g : Graph} {name : String} (h : name ∈ g.recipes.keys)
    (other command : String) :
    (g.addCommand name command).recipe other =
      if other = name then g.recipe other ++ [command] else g.recipe other := by
  rw [recipe, recipe?_addCommand]
  split
  · rename_i hname
    rw [hname, recipe?_of_mem h, Option.map_some, Option.getD_some]
  · rfl

/-- Equality when the order of the targets does not count, while that of dependencies and
commands does. -/
def sameRules (g h : Graph) : Bool :=
  g.adjacency.sameEntries h.adjacency && g.recipes.sameEntries h.recipes

end Graph
end BuildRunner
