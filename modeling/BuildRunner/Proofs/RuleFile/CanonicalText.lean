import BuildRunner.Proofs.RuleFile.WellFormed

/-! The canonical text of a graph: a line for each target with its dependencies, then a line for
each command of its recipe. Reading it gives the graph back, so the well-formed graphs are exactly
those that some text describes. -/
namespace BuildRunner
open Text RuleFile

namespace RuleFile

/-- A name and a colon, then the dependencies with a space before each. -/
def targetLine (name : String) (dependencies : List String) : String :=
  name ++ ":" ++ String.join (dependencies.map (" " ++ ·))

def commandLine (command : String) : String := "\t" ++ command

end RuleFile

namespace Graph

/-- The lines of one target. -/
def ruleLines (g : Graph) (name : String) : List String :=
  targetLine name (g.dependencies name) :: (g.recipe name).map commandLine

/-- The lines of all targets in their order, each with a line feed after it. -/
def canonicalText (g : Graph) : String :=
  String.join ((g.targets.flatMap g.ruleLines).map (· ++ "\n"))

end Graph

namespace RuleFile
variable {name command : String} {dependencies : List String}

private theorem toList_targetLine (name : String) (dependencies : List String) :
    (targetLine name dependencies).toList =
      name.toList ++ ':' :: (dependencies.map String.toList).flatMap (' ' :: ·) := by
  simp [targetLine, String.toList_append, String.toList_join, List.flatMap_map]

private theorem toList_commandLine (command : String) :
    (commandLine command).toList = '\t' :: command.toList := by
  simp [commandLine, String.toList_append]

private theorem classify_targetLine (hn : IsName name) (hd : ∀ d ∈ dependencies, IsDependency d) :
    Line.classify (targetLine name dependencies) = .target name dependencies := by
  have hwords : ∀ w ∈ dependencies.map String.toList, IsWord w := by
    intro w hw
    obtain ⟨d, hm, rfl⟩ := List.mem_map.mp hw
    exact ⟨toList_ne_nil (hd d hm).nonempty, (hd d hm).solid⟩
  refine Line.classify_eq_target_iff.mpr ⟨hn, _, toList_targetLine name dependencies, ?_, ?_⟩
  · intro hc
    obtain ⟨w, hw, hc⟩ := List.mem_flatMap.mp hc
    obtain ⟨d, hm, rfl⟩ := List.mem_map.mp hw
    rcases List.mem_cons.mp hc with hc | hc
    · exact absurd hc (by decide)
    · exact (hd d hm).no_colon hc
  · have hread := words_append_spaced [] hwords
    rw [List.nil_append, words_nil, List.nil_append] at hread
    simp [hread, Function.comp_def]

private theorem classify_commandLine (h : IsCommand command) :
    Line.classify (commandLine command) = .command command := by
  have htrim : trim (commandLine command).toList = command.toList := by
    rw [toList_commandLine, trim_cons_blank (by decide), h.trimmed]
  refine Line.classify_eq_command_iff.mpr ⟨?_, ?_, ?_, ?_⟩
  · rw [toList_commandLine, List.head?_cons]
  · rw [htrim]
    exact toList_ne_nil h.nonempty
  · rw [htrim]
    exact h.no_comment
  · rw [htrim, String.ofList_toList]

private theorem isEmptyCommand_of_isCommand (h : IsCommand command) :
    isEmptyCommand command = false := by
  rw [← Bool.not_eq_true, isEmptyCommand_iff h.trimmed, not_or]
  exact ⟨h.nonempty, h.not_marker⟩

private theorem isWholeLine_targetLine (hn : IsName name)
    (hd : ∀ d ∈ dependencies, IsDependency d) :
    IsWholeLine (targetLine name dependencies).toList := by
  have hchars : ∀ c ∈ (targetLine name dependencies).toList, c = ' ' ∨ isBlank c = false := by
    intro c hc
    rw [toList_targetLine, List.mem_append, List.mem_cons] at hc
    rcases hc with hc | rfl | hc
    · exact .inr (hn.solid c hc)
    · exact .inr (by decide)
    · obtain ⟨w, hw, hc⟩ := List.mem_flatMap.mp hc
      obtain ⟨d, hm, rfl⟩ := List.mem_map.mp hw
      exact (List.mem_cons.mp hc).imp_right ((hd d hm).solid c)
  constructor
  · intro hm
    rcases hchars _ hm with h | h <;> exact absurd h (by decide)
  · intro hlast
    rcases hchars _ (List.mem_of_getLast? hlast) with h | h <;> exact absurd h (by decide)

private theorem isWholeLine_commandLine (h : IsCommand command) :
    IsWholeLine (commandLine command).toList := by
  have htrimmed : Trimmed command.toList := trim_eq_self_iff.mp h.trimmed
  rw [toList_commandLine]
  constructor
  · intro hm
    rcases List.mem_cons.mp hm with hm | hm
    · exact absurd hm (by decide)
    · exact h.no_lineFeed hm
  · intro hlast
    rw [List.getLast?_cons_of_ne_nil (toList_ne_nil h.nonempty)] at hlast
    have hblank := htrimmed.ends _ hlast
    exact absurd hblank (by decide)

end RuleFile

namespace Graph
variable {g : Graph}

private theorem WellFormed.isWholeLine (h : g.WellFormed) :
    ∀ line ∈ g.targets.flatMap g.ruleLines, IsWholeLine line.toList := by
  intro line hl
  obtain ⟨name, hn, hl⟩ := List.mem_flatMap.mp hl
  rcases List.mem_cons.mp hl with rfl | hl
  · exact isWholeLine_targetLine (h.names name hn) (h.dependencies name)
  · obtain ⟨command, hc, rfl⟩ := List.mem_map.mp hl
    exact isWholeLine_commandLine (h.commands name command hc)

private theorem WellFormed.lines_canonicalText (h : g.WellFormed) :
    (Delivery.ofText g.canonicalText).lines = g.targets.flatMap g.ruleLines := by
  have hwhole : ∀ line ∈ (g.targets.flatMap g.ruleLines).map String.toList, IsWholeLine line := by
    intro line hl
    obtain ⟨text, ht, rfl⟩ := List.mem_map.mp hl
    exact h.isWholeLine text ht
  have htext : g.canonicalText.toList =
      ((g.targets.flatMap g.ruleLines).map String.toList).flatMap (· ++ ['\n']) := by
    simp [canonicalText, String.toList_join, List.flatMap_map, String.toList_append]
  rw [Delivery.ofText, htext, lines_flatMap_lineFeed hwhole, List.map_map]
  simp [Function.comp_def]

end Graph

namespace RuleFile
variable {draft : Draft} {g : Graph}
variable {name : String} {names done commands : List String}

private theorem acceptAll_commandLines (policy : DuplicatePolicy) (number : Nat)
    (hc : ∀ c ∈ commands, IsCommand c) (howner : draft.current = some name)
    (hr : draft.graph.recipe? name = some done) :
    ∃ next, Draft.acceptAll policy number draft (commands.map commandLine) = .ok next ∧
      next.graph.adjacency = draft.graph.adjacency ∧
      next.graph.recipes.keys = draft.graph.recipes.keys ∧
      ∀ other, next.graph.recipe? other =
        if other = name then some (done ++ commands) else draft.graph.recipe? other := by
  induction commands generalizing number draft done with
  | nil =>
    refine ⟨draft, rfl, rfl, rfl, fun other => ?_⟩
    split
    · rename_i ho
      rw [ho, hr, List.append_nil]
    · rfl
  | cons command commands ih =>
    obtain ⟨hcommand, hcommands⟩ := List.forall_mem_cons.mp hc
    let added : Draft := { draft with graph := draft.graph.addCommand name command }
    have hcurrent : added.current = some name := howner
    have hadded : added.graph.recipe? name = some (done ++ [command]) := by
      rw [Graph.recipe?_addCommand, if_pos rfl, hr, Option.map_some]
    obtain ⟨next, he, ha, hk, hrecipes⟩ := ih (number + 1) hcommands hcurrent hadded
    refine ⟨next, ?_, ha, hk.trans (draft.graph.recipes_keys_addCommand name command), fun other => ?_⟩
    · rw [List.map_cons, Draft.acceptAll, classify_commandLine hcommand,
        Draft.accept_command howner (isEmptyCommand_of_isCommand hcommand), Logged.ok_andThen, he]
    · rw [hrecipes, Graph.recipe?_addCommand]
      split
      · simp
      · rfl

/-- A draft that holds the rules of the first targets of a graph. -/
structure Copies (g : Graph) (names : List String) (draft : Draft) : Prop where
  targets : draft.graph.targets = names
  recipes : draft.graph.recipes.keys = names
  dependencies : ∀ name ∈ names, draft.graph.dependencies? name = some (g.dependencies name)
  commands : ∀ name ∈ names, draft.graph.recipe? name = some (g.recipe name)

namespace Copies

private theorem empty (g : Graph) : Copies g [] .empty where
  targets := rfl
  recipes := rfl
  dependencies := nofun
  commands := nofun

/-- The lines of a target add its rule. -/
theorem add_rule (policy : DuplicatePolicy) (number : Nat) (hw : g.WellFormed) (h : Copies g names draft)
    (hn : name ∈ g.targets) (hnew : name ∉ names) :
    ∃ next, Draft.acceptAll policy number draft (g.ruleLines name) = .ok next ∧
      Copies g (names ++ [name]) next := by
  let declared : Draft := ⟨draft.graph.declare name (g.dependencies name), some name⟩
  have hcontains : draft.graph.contains name = false := by
    rw [← Bool.not_eq_true, Graph.contains_iff, h.targets]
    exact hnew
  have hcurrent : declared.current = some name := rfl
  have hempty : declared.graph.recipe? name = some [] := by
    rw [Graph.recipe?_declare, if_pos rfl]
  obtain ⟨next, he, ha, hk, hrecipes⟩ :=
    acceptAll_commandLines policy (number + 1) (hw.commands name) hcurrent hempty
  have hdependencies : ∀ other, next.graph.dependencies? other =
      if other = name then some (g.dependencies name) else draft.graph.dependencies? other := by
    intro other
    rw [Graph.dependencies?, ha, ← Graph.dependencies?, Graph.dependencies?_declare]
  refine ⟨next, ?_, ?_, ?_, fun other ho => ?_, fun other ho => ?_⟩
  · rw [Graph.ruleLines, Draft.acceptAll, classify_targetLine (hw.names name hn) (hw.dependencies name),
      Draft.accept_new_target _ hcontains, Logged.ok_andThen, he]
  · rw [Graph.targets, ha, ← Graph.targets, Graph.targets_declare, h.targets, if_neg hnew]
  · rw [hk, Graph.recipes_keys_declare, h.recipes, if_neg hnew]
  · rw [hdependencies]
    split
    · rename_i hname
      rw [hname]
    · rename_i hname
      exact h.dependencies other (by simpa [hname] using ho)
  · rw [hrecipes]
    split
    · rename_i hname
      rw [hname, List.nil_append]
    · rename_i hname
      rw [Graph.recipe?_declare, if_neg hname]
      exact h.commands other (by simpa [hname] using ho)

private theorem add_rules (policy : DuplicatePolicy) (number : Nat) (hw : g.WellFormed)
    (h : Copies g names draft) {rest : List String} (hn : ∀ name ∈ rest, name ∈ g.targets)
    (hnodup : (names ++ rest).Nodup) :
    ∃ next, Draft.acceptAll policy number draft (rest.flatMap g.ruleLines) = .ok next ∧
      Copies g (names ++ rest) next := by
  induction rest generalizing number draft names with
  | nil => exact ⟨draft, rfl, by simpa using h⟩
  | cons name rest ih =>
    obtain ⟨hname, hrest⟩ := List.forall_mem_cons.mp hn
    have hnew : name ∉ names := fun hm =>
      (List.nodup_append.mp hnodup).2.2 name hm name List.mem_cons_self rfl
    obtain ⟨middle, he, hm⟩ := h.add_rule policy number hw hname hnew
    obtain ⟨next, he', hnext⟩ :=
      ih (number + (g.ruleLines name).length) hm hrest (by simpa using hnodup)
    refine ⟨next, ?_, by simpa using hnext⟩
    rw [List.flatMap_cons, Draft.acceptAll_append, he, Logged.ok_andThen, he']

private theorem graph_eq (hw : g.WellFormed) (h : Copies g g.targets draft) : draft.graph = g := by
  have hadjacency : draft.graph.adjacency = g.adjacency := by
    refine OrderedMap.eq_of_keys h.targets fun name hn => ?_
    have hname : name ∈ g.targets := h.targets ▸ hn
    exact (h.dependencies name hname).trans (Graph.dependencies?_of_mem hname).symm
  have hrecipes : draft.graph.recipes = g.recipes := by
    refine OrderedMap.eq_of_keys (h.recipes.trans hw.same_keys.symm) fun name hn => ?_
    have hname : name ∈ g.targets := h.recipes ▸ hn
    exact (h.commands name hname).trans (Graph.recipe?_of_mem (hw.same_keys.symm ▸ hname)).symm
  cases hg : draft.graph
  cases g
  simp_all

end Copies

/-- The canonical text is read without a warning, under every policy. -/
theorem parseText_canonicalText (policy : DuplicatePolicy) (hw : g.WellFormed) :
    parseText policy g.canonicalText = ⟨[.parsedRuleFile g.size], .ok g⟩ := by
  obtain ⟨last, he, hl⟩ := (Copies.empty g).add_rules policy 1 hw (fun _ hn => hn)
    g.adjacency.nodup_keys
  obtain rfl := hl.graph_eq hw
  have hfault : (Delivery.ofText last.graph.canonicalText).fault = none := rfl
  rw [parseText, parse, hw.lines_canonicalText, he, Logged.ok_andThen, hfault]

/-- The graphs that some text describes are the well-formed ones, each by its canonical text, which
both policies read in the same way. -/
theorem parsed_graphs_are_the_well_formed_ones (g : Graph) :
    (∀ policy text, (parseText policy text).result = .ok g → g.WellFormed) ∧
      (g.WellFormed → ∀ policy,
        parseText policy g.canonicalText = ⟨[.parsedRuleFile g.size], .ok g⟩) :=
  ⟨fun _ _ h => wellFormed_of_parseText h, fun hw policy => parseText_canonicalText policy hw⟩

end RuleFile
end BuildRunner
