import BuildRunner.Proofs.RuleFile.LineForms
import BuildRunner.Proofs.RuleFile.Reading
import BuildRunner.Proofs.Text.LineEnds

/-! What every graph that is read from a rule file satisfies: targets and recipes go together, and
each name, dependency and command has the form that its line asked for. -/
namespace BuildRunner
open RuleFile

/-- The graphs that a rule file can describe. -/
structure Graph.WellFormed (g : Graph) : Prop where
  same_keys : g.recipes.keys = g.adjacency.keys
  names : ∀ name ∈ g.targets, IsName name
  dependencies : ∀ name, ∀ d ∈ g.dependencies name, IsDependency d
  commands : ∀ name, ∀ c ∈ g.recipe name, IsCommand c

namespace RuleFile

private theorem isDependency_of_classify {line name : String} {dependencies : List String}
    (h : Line.classify line = .target name dependencies) : ∀ d ∈ dependencies, IsDependency d := by
  obtain ⟨-, rest, -, hcolon, rfl⟩ := Line.classify_eq_target_iff.mp h
  intro d hd
  obtain ⟨w, hw, rfl⟩ := List.mem_map.mp hd
  have hword := Text.isWord_of_mem_words hw
  exact {
    nonempty := by simpa using hword.nonempty
    solid := by simpa using hword.solid
    no_colon := fun hc => hcolon (Text.mem_of_mem_word hw (by simpa using hc)) }

private theorem isCommand_of_classify {line text : String} (h : Line.classify line = .command text)
    (hline : '\n' ∉ line.toList) (ht : isEmptyCommand text = false) : IsCommand text := by
  obtain ⟨-, hne, hcomment, rfl⟩ := Line.classify_eq_command_iff.mp h
  exact {
    nonempty := by simpa using hne
    trimmed := by simpa using Text.trim_trim line.toList
    no_lineFeed := fun hm => hline (Text.mem_of_mem_trim (by simpa using hm))
    no_comment := by simpa using hcomment
    not_marker := fun he => by
      rw [he] at ht
      exact absurd ht (by decide) }

end RuleFile

namespace Graph.WellFormed
variable {g : Graph} {name : String}

private theorem empty : Graph.empty.WellFormed where
  same_keys := rfl
  names := nofun
  dependencies := nofun
  commands := nofun

private theorem declare (h : g.WellFormed) (hn : IsName name) {dependencies : List String}
    (hd : ∀ d ∈ dependencies, IsDependency d) : (g.declare name dependencies).WellFormed where
  same_keys := by
    rw [recipes_keys_declare, h.same_keys]
    exact (g.targets_declare name dependencies).symm
  names other ho := by
    rcases mem_targets_declare.mp ho with rfl | ho
    · exact hn
    · exact h.names other ho
  dependencies other d hm := by
    rw [Graph.dependencies, dependencies?_declare] at hm
    split at hm
    · exact hd d hm
    · exact h.dependencies other d hm
  commands other c hm := by
    rw [recipe, recipe?_declare] at hm
    split at hm
    · exact absurd hm List.not_mem_nil
    · exact h.commands other c hm

private theorem addCommand (h : g.WellFormed) (name : String) {command : String}
    (hc : IsCommand command) :
    (g.addCommand name command).WellFormed where
  same_keys := (g.recipes_keys_addCommand name command).trans h.same_keys
  names := h.names
  dependencies := h.dependencies
  commands other c hm := by
    rw [recipe, recipe?_addCommand] at hm
    split at hm
    · cases hr : g.recipe? other with
      | none => simp [hr] at hm
      | some commands =>
        have hold : g.recipe other = commands := by rw [recipe, hr, Option.getD_some]
        rw [hr, Option.map_some, Option.getD_some, List.mem_append] at hm
        rcases hm with hm | hm
        · exact h.commands other c (hold ▸ hm)
        · exact List.mem_singleton.mp hm ▸ hc
    · exact h.commands other c hm

/-- Each accepted line keeps a graph well-formed. -/
theorem takes {policy : DuplicatePolicy} {draft next : Draft} {line : String}
    (h : draft.graph.WellFormed) (hline : '\n' ∉ line.toList)
    (ht : Draft.Takes policy draft (.classify line) next) : next.graph.WellFormed := by
  generalize hl : Line.classify line = form at ht
  cases ht with
  | blank => exact h
  | comment => exact h
  | target =>
    exact h.declare (Line.classify_eq_target_iff.mp hl).1 (isDependency_of_classify hl)
  | command _ htext => exact h.addCommand _ (isCommand_of_classify hl hline htext)

end Graph.WellFormed

namespace RuleFile

private theorem lineFeed_not_mem_of_mem_ofText {text line : String}
    (h : line ∈ (Delivery.ofText text).lines) :
    '\n' ∉ line.toList := by
  obtain ⟨chars, hc, rfl⟩ := List.mem_map.mp h
  simpa using Text.lineFeed_not_mem_of_mem_lines hc

theorem wellFormed_of_parseText {policy : DuplicatePolicy} {text : String} {g : Graph}
    (h : (parseText policy text).result = .ok g) : g.WellFormed := by
  obtain ⟨draft, rfl, hw⟩ := parseText_induction (p := fun _ draft => draft.graph.WellFormed)
    (fun _ line _ _ hl hw ht => hw.takes (lineFeed_not_mem_of_mem_ofText hl) ht)
    Graph.WellFormed.empty h
  exact hw

end RuleFile
end BuildRunner
