import BuildRunner.Proofs.Graph.Overlay
import BuildRunner.Proofs.RuleFile.FirstFault
import BuildRunner.Proofs.RuleFile.Redeclaration
import Mathlib.Data.Nat.Find

/-! Rule files one after the other. Reading the second one on top of the first gives what reading it
alone would give, laid over the graph of the first. A strict reading refuses the first line of the
second file that declares a target of the first one, and has no other fault. -/
namespace BuildRunner.RuleFile
open Text

namespace Draft
variable {policy : DuplicatePolicy} {base draft next last : Draft} {line : Line} {number : Nat}

/-- A draft over what was read before it. Until it has a target, commands go where they went. -/
def onto (base draft : Draft) : Draft :=
  ⟨base.graph.overlay draft.graph, draft.current.or base.current⟩

private theorem onto_empty (base : Draft) : base.onto .empty = base := rfl

/-- The target that commands belong to has a recipe. -/
def Owned (draft : Draft) : Prop := ∀ name ∈ draft.current, name ∈ draft.graph.recipes.keys

private theorem owned_empty : Owned .empty := nofun

private theorem Owned.takes (h : draft.Owned) (ht : Takes policy draft line next) : next.Owned := by
  cases ht with
  | blank => exact h
  | comment => exact h
  | @target name dependencies =>
    intro other ho
    obtain rfl := Option.some.inj ho
    rw [Graph.recipes_keys_declare]
    split
    · assumption
    · simp
  | command =>
    intro other ho
    rw [Graph.recipes_keys_addCommand]
    exact h other ho

/-- A line that a draft takes is taken over what was read before, with the same effect. -/
theorem accept_onto (base : Draft) (number : Nat) (h : draft.Owned)
    (ht : Takes .overwrite draft line next) :
    ((base.onto draft).accept .overwrite number line).result = .ok (base.onto next) := by
  cases ht with
  | blank => rfl
  | comment => rfl
  | @target name dependencies =>
    have hnext : base.onto ⟨draft.graph.declare name dependencies, some name⟩ =
        ⟨(base.onto draft).graph.declare name dependencies, some name⟩ := by
      rw [onto, Graph.overlay_declare]
      rfl
    rw [hnext]
    simp only [accept, declare]
    split <;> rfl
  | @command name text owner nonempty =>
    have howner : (base.onto draft).current = some name := by
      rw [onto, owner]
      rfl
    have hnext : base.onto { draft with graph := draft.graph.addCommand name text } =
        { base.onto draft with graph := (base.onto draft).graph.addCommand name text } := by
      rw [onto, Graph.overlay_addCommand (h name owner)]
      rfl
    rw [accept_command howner nonempty, hnext]
    rfl

private theorem acceptAll_onto {lines : List String} (base : Draft) (other : Nat) (hd : draft.Owned)
    (h : (acceptAll .overwrite number draft lines).result = .ok last) :
    (acceptAll .overwrite other (base.onto draft) lines).result = .ok (base.onto last) := by
  induction lines generalizing number draft other with
  | nil =>
    cases h
    rfl
  | cons line rest ih =>
    obtain ⟨next, ht, hr⟩ := acceptAll_cons_ok h
    rw [acceptAll, Logged.result_andThen_eq_ok]
    exact ⟨base.onto next, accept_onto base other hd ht, ih (other + 1) (hd.takes ht) hr⟩

end Draft

section
variable {policy : DuplicatePolicy} {first second text : String} {a b g : Graph} {name : String}

private theorem parseText_of_acceptAll {draft : Draft}
    (h : (Draft.acceptAll policy 1 .empty (Delivery.ofText text).lines).result = .ok draft) :
    (parseText policy text).result = .ok draft.graph := by
  rw [parseText, parse, Logged.andThen_of_ok h]
  rfl

private theorem parseText_append_overwrite (hf : Finished first.toList)
    (ha : (parseText .overwrite first).result = .ok a)
    (hb : (parseText .overwrite second).result = .ok b) :
    (parseText .overwrite (first ++ second)).result = .ok (a.overlay b) := by
  obtain ⟨base, rfl, hbase⟩ := parseText_ok ha
  obtain ⟨draft, rfl, hdraft⟩ := parseText_ok hb
  have hboth : (Draft.acceptAll .overwrite 1 .empty (Delivery.ofText (first ++ second)).lines).result =
      .ok (base.onto draft) := by
    rw [lines_ofText_append hf, Draft.acceptAll_append, Logged.result_andThen_eq_ok]
    refine ⟨base, hbase, ?_⟩
    have hlater := Draft.acceptAll_onto base (1 + (Delivery.ofText first).lines.length)
      Draft.owned_empty hdraft
    rwa [Draft.onto_empty] at hlater
  exact parseText_of_acceptAll hboth

private theorem parseText_overwrite_of_reject (h : (parseText .reject text).result = .ok g) :
    (parseText .overwrite text).result = .ok g := by
  rw [parseText, parse_reject, ← parseText] at h
  cases ho : overrides (parseText .overwrite text).log with
  | nil => rwa [Logged.rejectOverrides_of_nil ho] at h
  | cons override later =>
    rw [Logged.rejectOverrides_of_cons ho] at h
    cases h

private theorem mem_targets_iff_declared (h : (parseText policy text).result = .ok g) :
    name ∈ g.targets ↔ name ∈ declaredNames (Delivery.ofText text).lines := by
  obtain ⟨draft, rfl, hreads⟩ :=
    parseText_induction (fun _ _ _ _ _ hr ht => Reads.takes hr ht) Reads.empty h
  rw [← Graph.contains_iff]
  exact hreads.contains_iff name

private theorem not_faultAt_of_parseText (h : (parseText policy text).result = .ok g) (number : Nat)
    (error : BuildError) : ¬ FaultAt policy (Delivery.ofText text).lines number error := by
  obtain ⟨draft, -, hok⟩ := parseText_ok h
  obtain ⟨_, _, _, hnone⟩ | ⟨_, _, herror, _⟩ := acceptAll_cases policy (Delivery.ofText text).lines
  · exact hnone number error
  · rw [hok] at herror
    cases herror

/-- The line with the number declares a target of a graph. -/
def SharedAt (g : Graph) (lines : List String) (number : Nat) (name : String) : Prop :=
  ∃ above line below, lines = above ++ line :: below ∧ number = above.length + 1 ∧
    declared? line = some name ∧ name ∈ g.targets

/-- The line with the number declares a target of a graph, and none before it does. -/
structure FirstShared (g : Graph) (lines : List String) (number : Nat) (name : String) : Prop where
  shared : SharedAt g lines number name
  first : ∀ earlier < number, ∀ other, ¬ SharedAt g lines earlier other

private theorem SharedAt.mem_declaredNames {lines : List String} {number : Nat}
    (h : SharedAt g lines number name) : name ∈ declaredNames lines := by
  obtain ⟨above, line, below, rfl, -, hd, -⟩ := h
  exact List.mem_filterMap.mpr ⟨line, by simp, hd⟩

private theorem SharedAt.mem_targets {lines : List String} {number : Nat}
    (h : SharedAt g lines number name) : name ∈ g.targets := by
  obtain ⟨_, _, _, _, _, _, hg⟩ := h
  exact hg

private theorem exists_firstShared {lines : List String} (hg : name ∈ g.targets)
    (hl : name ∈ declaredNames lines) : ∃ number shared, FirstShared g lines number shared := by
  classical
  have hsome : ∃ number shared, SharedAt g lines number shared := by
    obtain ⟨line, hline, hd⟩ := List.mem_filterMap.mp hl
    obtain ⟨above, below, rfl⟩ := List.append_of_mem hline
    exact ⟨above.length + 1, name, above, line, below, rfl, rfl, hd, hg⟩
  obtain ⟨shared, hshared⟩ := Nat.find_spec hsome
  exact ⟨Nat.find hsome, shared, hshared, fun _ hlt other ho => Nat.find_min hsome hlt ⟨other, ho⟩⟩

private theorem lineFault_append_iff {above : List String} {line : String} {error : BuildError}
    (hnone : ∀ error, ¬ LineFault .reject above line error) (lines : List String) :
    LineFault .reject (lines ++ above) line error ↔
      ∃ name, declared? line = some name ∧ name ∈ declaredNames lines ∧
        error = .duplicateTarget name ((lines ++ above).length + 1) := by
  constructor
  · intro h
    cases h with
    | unrecognized form => exact absurd (.unrecognized form) (hnone _)
    | globalCommand form unowned =>
      rw [declaredNames_append, List.append_eq_nil_iff] at unowned
      exact absurd (.globalCommand form unowned.2) (hnone _)
    | emptyCommand form _ empty =>
      -- alone, the line would be at fault in any case, only perhaps for another reason
      by_cases howned : declaredNames above = []
      · exact absurd (.globalCommand form howned) (hnone _)
      · exact absurd (.emptyCommand form howned empty) (hnone _)
    | @redeclared name dependencies form known strict =>
      rw [declaredNames_append, List.mem_append] at known
      have hlines := known.resolve_right fun habove => hnone _ (.redeclared form habove strict)
      exact ⟨name, declared?_of_target form, hlines, rfl⟩
  · rintro ⟨name, hd, hname, rfl⟩
    unfold declared? at hd
    split at hd
    · rename_i other dependencies form
      obtain rfl := Option.some.inj hd
      refine .redeclared form ?_ rfl
      rw [declaredNames_append]
      exact List.mem_append_left _ hname
    · cases hd

/-- Two texts without a fault have together those of the lines that declare a target of the first
text in the second one. -/
theorem faultAt_append_accepted_iff (ha : (parseText .reject first).result = .ok a)
    (hb : (parseText .reject second).result = .ok b) {number : Nat} {error : BuildError} :
    FaultAt .reject ((Delivery.ofText first).lines ++ (Delivery.ofText second).lines) number error ↔
      ∃ place name, SharedAt a (Delivery.ofText second).lines place name ∧
        number = (Delivery.ofText first).lines.length + place ∧
        error = .duplicateTarget name number := by
  have hfirst := not_faultAt_of_parseText ha
  have hsecond := not_faultAt_of_parseText hb
  have hnames : ∀ name, name ∈ a.targets ↔ name ∈ declaredNames (Delivery.ofText first).lines :=
    fun _ => mem_targets_iff_declared ha
  generalize (Delivery.ofText first).lines = lines at hfirst hnames ⊢
  generalize (Delivery.ofText second).lines = later at hsecond ⊢
  rw [faultAt_append_iff, or_iff_right (hfirst number error)]
  constructor
  · rintro ⟨above, line, below, hlater, rfl, hfault⟩
    have hnone : ∀ error, ¬ LineFault .reject above line error := fun error halone =>
      hsecond _ error ⟨above, line, below, hlater, rfl, halone⟩
    obtain ⟨name, hd, hname, rfl⟩ := (lineFault_append_iff hnone lines).mp hfault
    exact ⟨above.length + 1, name, ⟨above, line, below, hlater, rfl, hd, (hnames name).mpr hname⟩,
      rfl, by rw [List.length_append, Nat.add_assoc]⟩
  · rintro ⟨place, name, ⟨above, line, below, hlater, rfl, hd, hname⟩, rfl, rfl⟩
    have hnone : ∀ error, ¬ LineFault .reject above line error := fun error halone =>
      hsecond _ error ⟨above, line, below, hlater, rfl, halone⟩
    exact ⟨above, line, below, hlater, rfl, (lineFault_append_iff hnone lines).mpr
      ⟨name, hd, (hnames name).mp hname, by rw [List.length_append, Nat.add_assoc]⟩⟩

private theorem parseText_append_reject_of_disjoint (hf : Finished first.toList)
    (ha : (parseText .reject first).result = .ok a)
    (hb : (parseText .reject second).result = .ok b) (hd : ∀ name ∈ a.targets, name ∉ b.targets) :
    (parseText .reject (first ++ second)).result = .ok (a.overlay b) := by
  have hlenient := parseText_append_overwrite hf (parseText_overwrite_of_reject ha)
    (parseText_overwrite_of_reject hb)
  obtain ⟨draft, hok, -, -⟩ | ⟨number, error, -, hfault⟩ :=
    acceptAll_cases .reject (Delivery.ofText (first ++ second)).lines
  · -- strictly it is accepted as well, so as the same graph
    have hstrict := parseText_of_acceptAll hok
    rw [parseText_overwrite_of_reject hstrict] at hlenient
    rwa [Except.ok.inj hlenient] at hstrict
  · rw [lines_ofText_append hf] at hfault
    obtain ⟨place, name, hshared, -⟩ := (faultAt_append_accepted_iff ha hb).mp hfault.fault
    have hnone := hd name hshared.mem_targets
    rw [mem_targets_iff_declared hb] at hnone
    exact absurd hshared.mem_declaredNames hnone

private theorem parseText_append_reject_of_firstShared (hf : Finished first.toList)
    (ha : (parseText .reject first).result = .ok a)
    (hb : (parseText .reject second).result = .ok b) {number : Nat}
    (hs : FirstShared a (Delivery.ofText second).lines number name) :
    (parseText .reject (first ++ second)).result =
      .error (.duplicateTarget name ((Delivery.ofText first).lines.length + number)) := by
  rw [parseText_error_iff, acceptAll_error_iff, lines_ofText_append hf]
  refine ⟨_, (faultAt_append_accepted_iff ha hb).mpr ⟨number, name, hs.shared, rfl, rfl⟩, ?_⟩
  rintro earlier hlt other hother
  obtain ⟨place, shared, hshared, rfl, -⟩ := (faultAt_append_accepted_iff ha hb).mp hother
  exact hs.first place (Nat.lt_of_add_lt_add_left hlt) shared hshared

/-- Behind a text of finished lines, a text gives leniently what it gives alone, laid over the graph of
the first one. Strictly, both together are accepted exactly if they share no target. Otherwise the
first line of the second text that declares a shared target is refused, where it stands in the whole. -/
theorem concatenated_files_merge (finished : Finished first.toList) :
    (∀ a b, (parseText .overwrite first).result = .ok a →
      (parseText .overwrite second).result = .ok b →
      (parseText .overwrite (first ++ second)).result = .ok (a.overlay b) ∧
        a.Merges b (a.overlay b)) ∧
    (∀ a b, (parseText .reject first).result = .ok a → (parseText .reject second).result = .ok b →
      ((∃ g, (parseText .reject (first ++ second)).result = .ok g) ↔
        ∀ name ∈ a.targets, name ∉ b.targets) ∧
      ((∀ name ∈ a.targets, name ∉ b.targets) →
        (parseText .reject (first ++ second)).result = .ok (a.overlay b)) ∧
      ((∃ name ∈ a.targets, name ∈ b.targets) →
        ∃ number name, FirstShared a (Delivery.ofText second).lines number name ∧
          name ∈ b.targets ∧
          (parseText .reject (first ++ second)).result =
            .error (.duplicateTarget name ((Delivery.ofText first).lines.length + number)))) := by
  refine ⟨fun a b ha hb => ⟨parseText_append_overwrite finished ha hb, a.merges_overlay b⟩,
    fun a b ha hb => ?_⟩
  have hshared : (∃ name ∈ a.targets, name ∈ b.targets) →
      ∃ number name, FirstShared a (Delivery.ofText second).lines number name ∧
        name ∈ b.targets ∧ (parseText .reject (first ++ second)).result =
          .error (.duplicateTarget name ((Delivery.ofText first).lines.length + number)) := by
    rintro ⟨name, hname, hb'⟩
    obtain ⟨number, shared, hs⟩ := exists_firstShared hname ((mem_targets_iff_declared hb).mp hb')
    exact ⟨number, shared, hs, (mem_targets_iff_declared hb).mpr hs.shared.mem_declaredNames,
      parseText_append_reject_of_firstShared finished ha hb hs⟩
  refine ⟨⟨?_, fun hd => ⟨_, parseText_append_reject_of_disjoint finished ha hb hd⟩⟩,
    parseText_append_reject_of_disjoint finished ha hb, hshared⟩
  rintro ⟨g, hg⟩ name hname hb'
  obtain ⟨_, _, _, _, herror⟩ := hshared ⟨name, hname, hb'⟩
  rw [hg] at herror
  cases herror

/-- Leniently, "b" gets its new rule where it stood, and "c" follows. Strictly, the second line with
"b" is refused, line 2 of the second text. -/
theorem shared_target_is_replaced_or_refused :
    (parseText .overwrite ("a: b\n\tone\nb:\n\ttwo\n" ++ "# more\nb: c\nc:\n")).result =
        .ok ⟨.ofList [("a", ["b"]), ("b", ["c"]), ("c", [])],
          .ofList [("a", ["one"]), ("b", []), ("c", [])]⟩ ∧
      (parseText .reject ("a: b\n\tone\nb:\n\ttwo\n" ++ "# more\nb: c\nc:\n")).result =
        .error (.duplicateTarget "b" 6) ∧
      FirstShared ⟨.ofList [("a", ["b"]), ("b", [])], .ofList [("a", ["one"]), ("b", ["two"])]⟩
        ["# more", "b: c", "c:"] 2 "b" := by
  obtain ⟨hlenient, hstrict⟩ := @concatenated_files_merge "a: b\n\tone\nb:\n\ttwo\n"
    "# more\nb: c\nc:\n" (fun _ h => (Option.some.inj h).symm)
  obtain ⟨hboth, -⟩ := hlenient _ _ rfl rfl
  obtain ⟨-, -, hrefused⟩ := hstrict _ _ rfl rfl
  obtain ⟨number, name, hfirst, -, herror⟩ := hrefused ⟨"b", by decide, by decide⟩
  have hrun : (parseText .reject ("a: b\n\tone\nb:\n\ttwo\n" ++ "# more\nb: c\nc:\n")).result =
      .error (.duplicateTarget "b" 6) := rfl
  obtain ⟨rfl, hnumber⟩ : "b" = name ∧ 6 = 4 + number :=
    BuildError.duplicateTarget.inj (Except.error.inj (hrun.symm.trans herror))
  obtain rfl : number = 2 := by omega
  exact ⟨hboth, hrun, hfirst⟩

end
end BuildRunner.RuleFile
