import BuildRunner.Proofs.FirstOccurrence
import BuildRunner.Proofs.RuleFile.Declarations
import BuildRunner.Proofs.RuleFile.Reading

/-! What an accepted rule file means, told by the places of its lines. The last declaration of a
name counts: its words are the dependencies, and the command lines from it to the next target line
are the recipe. A command line therefore belongs to one name at most. -/
namespace BuildRunner.RuleFile
open Text

/-- A name has in a graph the rule of its last declaration: the words after the colon of that line,
and the commands between it and the next target line of any name. -/
structure HasLastRule (lines : List String) (g : Graph) (name line : String) (after : List String)
    (rest : List Char) : Prop where
  last : DeclaresLast lines name line after
  form : line.toList = name.toList ++ ':' :: rest
  dependencies : g.dependencies? name = some ((words rest).map String.ofList)
  recipe : g.recipe? name = some (commandTexts (untilNextTarget after))

/-- The graph that some lines describe. Its keys stand in the order of their first declarations. -/
structure Describes (lines : List String) (g : Graph) : Prop where
  targets : g.targets = (declaredNames lines).eraseDups
  recipes : g.recipes.keys = (declaredNames lines).eraseDups
  rules : ∀ name ∈ g.targets, ∃ line after rest, HasLastRule lines g name line after rest
  /-- A line belongs to one name at most, so recipes share none, and a line below an overridden
  declaration is in no recipe. -/
  owned : ∀ name, g.recipe name = commandTexts (ownedLines name [] lines)

private theorem HasLastRule.concat {lines after : List String} {g next : Graph}
    {name line further : String} {rest : List Char} (h : HasLastRule lines g name line after rest)
    (hn : declared? further ≠ some name) (hd : next.dependencies? name = g.dependencies? name)
    (hr : next.recipe? name = (g.recipe? name).map
      (· ++ if (declaredNames lines).getLast? = some name then commandTexts [further] else [])) :
    HasLastRule (lines ++ [further]) next name line (after ++ [further]) rest where
  last := h.last.concat hn
  form := h.form
  dependencies := hd.trans h.dependencies
  recipe := by
    rw [hr, h.recipe, Option.map_some, commandTexts_untilNextTarget_concat]
    simp only [h.last.getLast?_iff]

/-- Between two lines, commands belong to the name of the last target line. -/
structure Reads (lines : List String) (draft : Draft) : Prop where
  describes : Describes lines draft.graph
  current : draft.current = (declaredNames lines).getLast?

namespace Reads
variable {lines : List String} {draft next : Draft} {line : String}

theorem empty : Reads [] .empty where
  describes := {
    targets := rfl
    recipes := rfl
    rules := nofun
    owned := fun _ => rfl }
  current := rfl

private theorem concat_silent (h : Reads lines draft) (hd : declared? line = none)
    (hc : isCommandLine line = false) : Reads (lines ++ [line]) draft where
  describes := {
    targets := by rw [declaredNames_concat_of_none lines hd, h.describes.targets]
    recipes := by rw [declaredNames_concat_of_none lines hd, h.describes.recipes]
    rules := by
      intro name hn
      obtain ⟨last, after, rest, hr⟩ := h.describes.rules name hn
      exact ⟨last, after ++ [line], rest,
        hr.concat (by simp [hd]) rfl (by simp [commandTexts_of_not_command hc])⟩
    owned := by
      intro name
      rw [commandTexts_ownedLines_concat, commandTexts_of_not_command hc, h.describes.owned]
      simp [hd] }
  current := by rw [declaredNames_concat_of_none lines hd, h.current]

private theorem concat_target (h : Reads lines draft) {name : String} {dependencies : List String}
    (hl : Line.classify line = .target name dependencies) :
    Reads (lines ++ [line]) ⟨draft.graph.declare name dependencies, some name⟩ := by
  have hd : declared? line = some name := declared?_of_target hl
  have hother : ∀ other, other ≠ name → declared? line ≠ some other := fun other ho => by
    simpa [hd] using Ne.symm ho
  have hkeys : (draft.graph.declare name dependencies).targets =
      (declaredNames (lines ++ [line])).eraseDups := by
    rw [declaredNames_concat_of_some lines hd, eraseDups_concat, Graph.targets_declare,
      h.describes.targets]
  refine ⟨⟨hkeys, ?recipes, ?rules, ?owned⟩, ?current⟩
  case recipes =>
    rw [Graph.recipes_keys_declare, h.describes.recipes, ← h.describes.targets,
      ← Graph.targets_declare, hkeys]
  case rules =>
    intro other hmem
    by_cases ho : other = name
    · subst ho
      obtain ⟨-, rest, hline, -, rfl⟩ := Line.classify_eq_target_iff.mp hl
      refine ⟨line, [], rest, DeclaresLast.concat_self lines hd, hline, ?_, ?_⟩
      · rw [Graph.dependencies?_declare, if_pos rfl]
      · rw [Graph.recipe?_declare, if_pos rfl]
        rfl
    · have hold : other ∈ draft.graph.targets :=
        (Graph.mem_targets_declare.mp hmem).resolve_left ho
      obtain ⟨last, after, rest, hr⟩ := h.describes.rules other hold
      refine ⟨last, after ++ [line], rest, hr.concat (hother other ho) ?_ ?_⟩
      · rw [Graph.dependencies?_declare, if_neg ho]
      · rw [Graph.recipe?_declare, if_neg ho]
        simp [commandTexts_of_declared hd]
  case owned =>
    intro other
    rw [Graph.recipe_declare, commandTexts_ownedLines_concat, commandTexts_of_declared hd]
    by_cases ho : other = name
    · simp [ho, hd]
    · rw [if_neg ho, if_neg (hother other ho), h.describes.owned]
      simp
  case current => rw [declaredNames_concat_of_some lines hd, List.getLast?_concat]

private theorem concat_command (h : Reads lines draft) {name text : String}
    (hl : Line.classify line = .command text) (hcurrent : draft.current = some name) :
    Reads (lines ++ [line]) { draft with graph := draft.graph.addCommand name text } := by
  have hd : declared? line = none := declared?_of_command hl
  have howner : (declaredNames lines).getLast? = some name := h.current.symm.trans hcurrent
  have hmem : name ∈ draft.graph.recipes.keys := by
    rw [h.describes.recipes]
    exact List.mem_eraseDups.mpr (List.mem_of_getLast? howner)
  refine ⟨⟨?targets, ?recipes, ?rules, ?owned⟩, ?current⟩
  case targets =>
    rw [declaredNames_concat_of_none lines hd]
    exact h.describes.targets
  case recipes =>
    rw [declaredNames_concat_of_none lines hd, Graph.recipes_keys_addCommand, h.describes.recipes]
  case rules =>
    intro other ho
    obtain ⟨last, after, rest, hr⟩ := h.describes.rules other ho
    refine ⟨last, after ++ [line], rest, hr.concat (by simp [hd]) rfl ?_⟩
    rw [Graph.recipe?_addCommand, howner, commandTexts_of_command hl, hr.recipe]
    by_cases hname : other = name
    · simp [hname]
    · simp [hname, Ne.symm hname]
  case owned =>
    intro other
    rw [Graph.recipe_addCommand hmem, commandTexts_ownedLines_concat, howner,
      commandTexts_of_command hl, h.describes.owned]
    by_cases hname : other = name
    · simp [hname, hd]
    · simp [hname, Ne.symm hname, hd]
  case current =>
    rw [declaredNames_concat_of_none lines hd]
    exact h.current

/-- Each accepted line keeps the graph the one that the lines down to it describe. -/
theorem takes {policy : DuplicatePolicy} (h : Reads lines draft)
    (ht : Draft.Takes policy draft (.classify line) next) : Reads (lines ++ [line]) next := by
  generalize hl : Line.classify line = form at ht
  cases ht with
  | blank => exact h.concat_silent (by rw [declared?, hl]) (by rw [isCommandLine, hl])
  | comment => exact h.concat_silent (by rw [declared?, hl]) (by rw [isCommandLine, hl])
  | target => exact h.concat_target hl
  | command howner => exact h.concat_command hl howner

end Reads

/-- The meaning does not depend on the policy, which only decides what is accepted. -/
theorem accepted_text_describes_its_graph {policy : DuplicatePolicy} {text : String} {g : Graph}
    (h : (parseText policy text).result = .ok g) : Describes (Delivery.ofText text).lines g := by
  obtain ⟨draft, rfl, hr⟩ := parseText_induction
    (fun _ _ _ _ _ hr ht => Reads.takes hr ht) Reads.empty h
  exact hr.describes

/-- The first recipe of a target that is declared again is lost, while the target keeps its place. -/
theorem redeclared_target_is_described :
    (parseText .overwrite "a: x\n\told\nb:\na: y\n\tnew\n").result =
        .ok ⟨.ofList [("a", ["y"]), ("b", [])], .ofList [("a", ["new"]), ("b", [])]⟩ ∧
      Describes (Delivery.ofText "a: x\n\told\nb:\na: y\n\tnew\n").lines
        ⟨.ofList [("a", ["y"]), ("b", [])], .ofList [("a", ["new"]), ("b", [])]⟩ := by
  have hparse : (parseText .overwrite "a: x\n\told\nb:\na: y\n\tnew\n").result =
      .ok ⟨.ofList [("a", ["y"]), ("b", [])], .ofList [("a", ["new"]), ("b", [])]⟩ := by
    rfl
  exact ⟨hparse, accepted_text_describes_its_graph hparse⟩

end BuildRunner.RuleFile
