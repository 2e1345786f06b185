import BuildRunner.Proofs.Execution.Foretelling
import BuildRunner.Proofs.RuleFile.ByteReading

/-! Dry runs of rule files. What stands in the file decides alone: whether a run succeeds is told by
the graph of the text, and so is all that it shows. -/
namespace BuildRunner
open Text RuleFile

/-- A command without its one marker and the blanks after it. -/
def Command.withoutMarker (raw : String) : String :=
  String.ofList <| match raw.toList with
    | '@' :: rest => rest.dropWhile isBlank
    | other => other

private theorem RuleFile.IsCommand.shownText_eq {raw : String} (h : IsCommand raw) :
    Command.shownText raw = Command.withoutMarker raw := by
  rw [Command.shownText, Command.withoutMarker, Command.strip, h.trimmed]
  cases raw.toList with
  | nil => rfl
  | cons c rest =>
    by_cases hmarker : c = '@'
    · subst hmarker
      rfl
    · have hother : c ≠ silentMarker := hmarker
      simp only [if_neg hother]
      split
      · rename_i heq
        exact absurd (List.cons.inj heq).1 hmarker
      · rfl

private theorem RuleFile.IsCommand.isOneLine_withoutMarker {raw : String} (h : IsCommand raw) :
    IsOneLine (Command.withoutMarker raw) := by
  rw [← h.shownText_eq, IsOneLine, Command.shownText, String.toList_ofList]
  exact fun hm => h.no_lineFeed (Command.mem_of_mem_strip hm)

section
variable {g : Graph}

/-- The lines of some recipes, one after the other. -/
def Graph.recipeLines (g : Graph) (names : List String) : List String :=
  (names.flatMap g.recipe).map Command.withoutMarker

private theorem Graph.WellFormed.isCommand_of_mem (hg : g.WellFormed) {names : List String}
    {raw : String} (h : raw ∈ names.flatMap g.recipe) : IsCommand raw := by
  obtain ⟨name, -, hraw⟩ := List.mem_flatMap.mp h
  exact hg.commands name raw hraw

private theorem Graph.WellFormed.map_shownText (hg : g.WellFormed) (names : List String) :
    (names.flatMap g.recipe).map Command.shownText = g.recipeLines names :=
  List.map_congr_left fun _ h => (hg.isCommand_of_mem h).shownText_eq

private theorem Graph.WellFormed.isOneLine_recipeLines (hg : g.WellFormed) (names : List String) :
    ∀ line ∈ g.recipeLines names, IsOneLine line := by
  intro line hl
  obtain ⟨raw, hraw, rfl⟩ := List.mem_map.mp hl
  exact (hg.isCommand_of_mem hraw).isOneLine_withoutMarker

private theorem Graph.WellFormed.dry_accepts (hg : g.WellFormed) (names : List String) :
    ∃ texts, Runner.dry.Accepts (.new none) (names.flatMap g.recipe) texts
      ⟨none, joinLines (g.recipeLines names)⟩ := by
  have hparsed : ∀ raw ∈ names.flatMap g.recipe, Command.parse? raw ≠ none :=
    fun raw hraw => (hg.isCommand_of_mem hraw).parse?_ne_none
  have h := Runner.dry_accepts (w := .new none) rfl hparsed
  rw [hg.map_shownText] at h
  exact ⟨_, by simpa [Writer.new] using h⟩

/-- The dry runner takes all commands of a rule file, so only a missing recipe can stop it. -/
theorem Execution.executeOrder_dry_cases (hg : g.WellFormed) (order : List String) :
    (∃ report, (∀ name ∈ order, g.recipe name ≠ []) ∧
        (executeOrder g .dry order (.new none)).Gives (.ok report)
          ⟨none, joinLines (g.recipeLines order)⟩ (order.flatMap g.completed)) ∨
      ∃ before name after, order = before ++ name :: after ∧
        (∀ earlier ∈ before, g.recipe earlier ≠ []) ∧ g.recipe name = [] ∧
        (executeOrder g .dry order (.new none)).Gives (.error (.targetHasNoCommands name))
          ⟨none, joinLines (g.recipeLines before)⟩ (before.flatMap g.completed) := by
  cases hfind : order.find? (g.recipe · = []) with
  | none =>
    have hall : ∀ name ∈ order, g.recipe name ≠ [] := by simpa using hfind
    obtain ⟨texts, haccepts⟩ := hg.dry_accepts order
    exact .inl ⟨_, hall, (Ending.complete hall haccepts).gives⟩
  | some name =>
    obtain ⟨hname, before, after, hplace, hfirst⟩ := List.find?_eq_some_iff_append.mp hfind
    have hempty : g.recipe name = [] := by simpa using hname
    have hbefore : ∀ earlier ∈ before, g.recipe earlier ≠ [] := by simpa using hfirst
    obtain ⟨texts, haccepts⟩ := hg.dry_accepts before
    exact .inr ⟨before, name, after, hplace, hbefore, hempty,
      (Ending.noCommands hplace hbefore hempty haccepts).gives⟩

end

section
variable {policy : DuplicatePolicy} {path text target : String} {g : Graph}

private theorem RuleFile.load_bytesOf_eq_ok_iff :
    (load policy path (.ok (.ofBytes (Utf8.bytesOf text)))).result = .ok g ↔
      (parseText policy text).result = .ok g := by
  rw [load_eq_ok_iff, ofBytes_bytesOf, parseText]
  simp

private theorem runFile_dry_cases (policy : DuplicatePolicy) (path text target : String) :
    let outcome := runFile policy path (.ok (.ofBytes (Utf8.bytesOf text))) .dry target (.new none)
    (∃ error, outcome.result = .error error ∧ outcome.state.written = "" ∧
        ∀ g, (parseText policy text).result = .ok g → ¬ g.Cleared target) ∨
      ∃ g, (parseText policy text).result = .ok g ∧ g.Cleared target ∧
        ((∃ report, outcome.result = .ok report ∧
            (∀ name ∈ g.postorder target, g.recipe name ≠ []) ∧
            outcome.state.written = joinLines (g.recipeLines (g.postorder target))) ∨
          ∃ before name after, g.postorder target = before ++ name :: after ∧
            (∀ earlier ∈ before, g.recipe earlier ≠ []) ∧ g.recipe name = [] ∧
            outcome.result = .error (.targetHasNoCommands name) ∧
            outcome.state.written = joinLines (g.recipeLines before)) := by
  intro outcome
  cases hl : (load policy path (.ok (.ofBytes (Utf8.bytesOf text)))).result with
  | error error =>
    have houtcome : outcome = ⟨.error error, .new none, _, []⟩ := runFile_of_unloaded hl
    refine .inl ⟨error, by rw [houtcome], by rw [houtcome]; rfl, fun g hg => ?_⟩
    rw [load_bytesOf_eq_ok_iff.mpr hg] at hl
    cases hl
  | ok g =>
    have hparsed := load_bytesOf_eq_ok_iff.mp hl
    have houtcome : outcome = (Execution.run g .dry target (.new none)).after
        (load policy path (.ok (.ofBytes (Utf8.bytesOf text)))).log := runFile_of_loaded hl
    by_cases hclear : g.Cleared target
    · have hgives : outcome.Gives
          (Execution.executeOrder g .dry (g.postorder target) (.new none)).result
          (Execution.executeOrder g .dry (g.postorder target) (.new none)).state
          (Execution.executeOrder g .dry (g.postorder target) (.new none)).dispatches := by
        rw [houtcome]
        exact (Execution.run_of_cleared hclear).after _
      refine .inr ⟨g, hparsed, hclear, ?_⟩
      obtain ⟨report, hall, horder⟩ | ⟨before, name, after, hplace, hbefore, hempty, horder⟩ :=
        Execution.executeOrder_dry_cases (wellFormed_of_parseText hparsed) (g.postorder target)
      · refine .inl ⟨report, hgives.result.trans horder.result, hall, ?_⟩
        rw [hgives.state, horder.state]
      · refine .inr ⟨before, name, after, hplace, hbefore, hempty,
          hgives.result.trans horder.result, ?_⟩
        rw [hgives.state, horder.state]
    · obtain ⟨error, log, -, -, hstopped⟩ :=
        (Execution.run_stopped_early_or_cleared g target).resolve_right hclear
      refine .inl ⟨error, by rw [houtcome, hstopped]; rfl, by rw [houtcome, hstopped]; rfl,
        fun g' hg' => ?_⟩
      rw [hparsed] at hg'
      cases hg'
      exact hclear

/-- A dry run of a rule file succeeds exactly if the text parses, no name of the graph is on a cycle
or undefined, the target is declared, and each name that it needs has commands. It then shows the
commands of these names, in plan order and each in a line of its own without its marker. Otherwise
it shows nothing, or the whole recipes that come before the first missing one. -/
theorem dry_run_shows_planned_recipes (policy : DuplicatePolicy) (path text target : String) :
    let outcome := runFile policy path (.ok (.ofBytes (Utf8.bytesOf text))) .dry target (.new none)
    ((∃ report, outcome.result = .ok report) ↔
      ∃ g, (parseText policy text).result = .ok g ∧
        (g.Acyclic ∧ g.Closed ∧ target ∈ g.targets) ∧
        ∀ name, g.Reaches target name → g.recipe name ≠ []) ∧
    (∀ report, outcome.result = .ok report →
      ∃ g order, (parseText policy text).result = .ok g ∧ (g.plan target).result = .ok order ∧
        order.Nodup ∧ (∀ name, name ∈ order ↔ g.Reaches target name) ∧
        (∀ line ∈ g.recipeLines order, IsOneLine line) ∧
        outcome.state.written = joinLines (g.recipeLines order)) ∧
    (∀ error, outcome.result = .error error →
      outcome.state.written = "" ∨
      ∃ g before name after, (parseText policy text).result = .ok g ∧
        (g.plan target).result = .ok (before ++ name :: after) ∧
        (∀ earlier ∈ before, g.recipe earlier ≠ []) ∧ g.recipe name = [] ∧
        error = .targetHasNoCommands name ∧
        outcome.state.written = joinLines (g.recipeLines before)) := by
  intro outcome
  have hnot {error : BuildError} (h : outcome.result = .error error) (report : RunReport) :
      outcome.result ≠ .ok report := by
    rw [h]
    exact nofun
  obtain ⟨error, herror, hnothing, hbar⟩ | ⟨g, hparsed, hclear, hends⟩ :=
    runFile_dry_cases policy path text target
  · exact ⟨⟨fun ⟨report, h⟩ => absurd h (hnot herror report),
        fun ⟨g, hg, ⟨ha, hc, ht⟩, _⟩ => absurd ⟨ha, hc, ht⟩ (hbar g hg)⟩,
      fun report h => absurd h (hnot herror report), fun _ _ => .inl hnothing⟩
  have hplan : (g.plan target).result = .ok (g.postorder target) := by
    rw [Graph.plan_of_mem hclear.declared]
  obtain ⟨report, hok, hall, hwritten⟩ | ⟨before, name, after, hplace, hbefore, hempty, herror,
    hwritten⟩ := hends
  · have hneeded : ∀ name, g.Reaches target name → g.recipe name ≠ [] := fun name hr =>
      hall name (Graph.mem_postorder.mpr hr)
    exact ⟨⟨fun _ => ⟨g, hparsed, ⟨hclear.acyclic, hclear.closed, hclear.declared⟩, hneeded⟩,
        fun _ => ⟨report, hok⟩⟩,
      fun _ _ => ⟨g, g.postorder target, hparsed, hplan, Graph.nodup_postorder g target,
        fun _ => Graph.mem_postorder, (wellFormed_of_parseText hparsed).isOneLine_recipeLines _,
        hwritten⟩,
      fun _ h => absurd hok (hnot h report)⟩
  · have hneeded : g.Reaches target name := Graph.mem_postorder.mp (by simp [hplace])
    refine ⟨⟨fun ⟨report, h⟩ => absurd h (hnot herror report), fun ⟨g', hg', _, hrecipes⟩ => ?_⟩,
      fun report h => absurd h (hnot herror report), fun error h => .inr ?_⟩
    · rw [hparsed] at hg'
      cases hg'
      exact absurd hempty (hrecipes name hneeded)
    · rw [herror] at h
      cases h
      exact ⟨g, before, name, after, hparsed, hplace ▸ hplan, hbefore, hempty, rfl, hwritten⟩

end

/-- Blanks after the marker go with it, and a second marker is part of the command. -/
example : Command.withoutMarker "@ @echo a" = "@echo a" := by rfl

end BuildRunner
