import BuildRunner.Proofs.Options.Requests
import Mathlib.Data.List.TakeWhile

/-! The ways to write requests on a command line, and that the scanner reads all of them alike: as
the requests, in the order in which they are written. A value that waits in the scanner when the
words of the next request come is settled by them first. -/
namespace BuildRunner

namespace OptionName

def longName : OptionName → String
  | .value .file => "file"
  | .value .target => "target"
  | .switch .dryRun => "dry-run"
  | .switch .strict => "strict"
  | .switch .verbose => "verbose"
  | .switch .help => "help"
  | .switch .version => "version"

def letter? : OptionName → Option Char
  | .value .file => some 'f'
  | .value .target => some 't'
  | .switch .dryRun => some 'n'
  | .switch .strict => none
  | .switch .verbose => some 'v'
  | .switch .help => some 'h'
  | .switch .version => some 'V'

private theorem ofLong?_longName (name : OptionName) : ofLong? name.longName = some name := by
  obtain option | switch := name
  · cases option <;> rfl
  · cases switch <;> rfl

private theorem ofShort?_of_letter? {name : OptionName} {letter : Char}
    (h : name.letter? = some letter) :
    ofShort? letter = some name := by
  obtain option | switch := name
  · cases option <;> cases h <;> rfl
  · cases switch <;> cases h <;> rfl

private theorem longName_chars (name : OptionName) :
    name.longName.toList ≠ [] ∧ ∀ c ∈ name.longName.toList, c ≠ '=' := by
  obtain option | switch := name
  · cases option <;> simp [longName]
  · cases switch <;> simp [longName]

private theorem letter?_ne_dash (name : OptionName) : name.letter? ≠ some '-' := by
  obtain option | switch := name
  · cases option <;> decide
  · cases switch <;> decide

end OptionName

/-- A value that can be taken neither for an option nor for the sign in front of a value. -/
def IsPlain (value : String) : Prop :=
  ∃ c rest, value.toList = c :: rest ∧ c ≠ '-' ∧ c ≠ '='

/-- The letters that follow one dash, and the words after them that are theirs: any number of flags,
and after them at most one option with its value. -/
inductive Cluster : List Request → List Char → List String → Prop where
  | nil : Cluster [] [] []
  | flag {f : Flag} {letter : Char} {requests : List Request} {letters : List Char}
      {words : List String} (named : (OptionName.switch f.switch).letter? = some letter)
      (rest : Cluster requests letters words) : Cluster (.flag f :: requests) (letter :: letters) words
  | attached {option : ValueOption} {letter : Char} {value : String}
      (named : (OptionName.value option).letter? = some letter) (plain : IsPlain value) :
      Cluster [.value option value] (letter :: value.toList) []
  | equals {option : ValueOption} {letter : Char} {value : String}
      (named : (OptionName.value option).letter? = some letter) (plain : IsPlain value) :
      Cluster [.value option value] (letter :: '=' :: value.toList) []
  | separate {option : ValueOption} {letter : Char} {value : String}
      (named : (OptionName.value option).letter? = some letter) (plain : IsPlain value) :
      Cluster [.value option value] [letter] [value]

/-- The words of a command line that makes these requests in this order. -/
inductive Spells : List Request → List String → Prop where
  | nil : Spells [] []
  | longFlag {requests : List Request} {words : List String} (f : Flag)
      (rest : Spells requests words) :
      Spells (.flag f :: requests) (("--" ++ (OptionName.switch f.switch).longName) :: words)
  | longEquals {requests : List Request} {words : List String} (option : ValueOption)
      {value : String} (plain : IsPlain value) (rest : Spells requests words) :
      Spells (.value option value :: requests)
        (("--" ++ (OptionName.value option).longName ++ "=" ++ value) :: words)
  | longSeparate {requests : List Request} {words : List String} (option : ValueOption)
      {value : String} (plain : IsPlain value) (rest : Spells requests words) :
      Spells (.value option value :: requests)
        (("--" ++ (OptionName.value option).longName) :: value :: words)
  | short {first requests : List Request} {letters : List Char} {own words : List String}
      (cluster : Cluster first letters own) (nonempty : letters ≠ []) (rest : Spells requests words) :
      Spells (first ++ requests) (String.ofList ('-' :: letters) :: (own ++ words))

section Values
variable {value : String} {requests : List Request} {request : Request} {letters : List Char}
  {words : List String}

private theorem IsPlain.ne_empty (h : IsPlain value) : value ≠ "" := by
  obtain ⟨c, rest, htext, -, -⟩ := h
  rintro rfl
  cases htext

private theorem IsPlain.namesSomething (h : IsPlain value) (option : ValueOption) :
    (Request.value option value).NamesSomething := by
  intro other heq
  exact h.ne_empty (Request.value.inj heq).2

private theorem Request.flag_namesSomething (f : Flag) : (Request.flag f).NamesSomething := nofun

private theorem Cluster.namesSomething (h : Cluster requests letters words) :
    ∀ request ∈ requests, request.NamesSomething := by
  induction h with
  | nil => exact fun _ hmem => absurd hmem List.not_mem_nil
  | flag named rest ih => exact List.forall_mem_cons.mpr ⟨Request.flag_namesSomething _, ih⟩
  | attached named plain | equals named plain | separate named plain =>
    exact List.forall_mem_singleton.mpr (plain.namesSomething _)

private theorem Spells.namesSomething (h : Spells requests words) :
    ∀ request ∈ requests, request.NamesSomething := by
  induction h with
  | nil => exact fun _ hmem => absurd hmem List.not_mem_nil
  | longFlag f rest ih => exact List.forall_mem_cons.mpr ⟨Request.flag_namesSomething _, ih⟩
  | longEquals option plain rest ih | longSeparate option plain rest ih =>
    exact List.forall_mem_cons.mpr ⟨plain.namesSomething _, ih⟩
  | short cluster nonempty rest ih =>
    intro request hmem
    exact (List.mem_append.mp hmem).elim (cluster.namesSomething request) (ih request)

private theorem Cluster.head_ne_dash {c : Char} (h : Cluster requests (c :: letters) words) :
    c ≠ '-' := by
  rintro rfl
  cases h with
  | flag named _ | attached named _ | equals named _ | separate named _ =>
    exact OptionName.letter?_ne_dash _ named

end Values

namespace OptionScan
variable {s : OptionScan} {option : ValueOption} {f : Flag} {name : OptionName} {value argument : String}
  {text letters : List Char} {letter c : Char} {requests : List Request} {words : List String}

private theorem all_long (h : argument.toList = '-' :: '-' :: text) (hne : text ≠ []) :
    s.all (argument :: words) = s.long text >>= (·.all words) := by
  obtain ⟨c, rest, rfl⟩ := List.exists_cons_of_ne_nil hne
  rw [all, h]
  rfl

private theorem all_short (h : argument.toList = '-' :: c :: text) (hc : c ≠ '-') :
    s.all (argument :: words) = s.cluster (c :: text) >>= (·.all words) := by
  rw [all, h]
  split <;> simp_all

private theorem all_awaited {given : Given} (h : IsPlain value) :
    all ⟨given, some (.awaiting option)⟩ (value :: words)
      = all ⟨given, some (.holding option value)⟩ words := by
  obtain ⟨c, rest, htext, hdash, -⟩ := h
  rw [all, htext]
  split
  case h_4 => rfl
  all_goals simp_all

private theorem long_longName (name : OptionName) :
    s.long name.longName.toList = match name with
      | .value option => s.expect option
      | .switch switch => s.switchOn switch := by
  have htake : name.longName.toList.takeWhile (· ≠ '=') = name.longName.toList :=
    List.takeWhile_eq_self_iff.mpr fun c hc => decide_eq_true (name.longName_chars.2 c hc)
  have hdrop : name.longName.toList.dropWhile (· ≠ '=') = [] :=
    List.dropWhile_eq_nil_iff.mpr fun c hc => decide_eq_true (name.longName_chars.2 c hc)
  rw [long, htake, hdrop, String.ofList_toList, OptionName.ofLong?_longName]
  cases name <;> rfl

private theorem long_equals (option : ValueOption) (value : List Char) :
    s.long ((OptionName.value option).longName.toList ++ '=' :: value) = s.attached option value := by
  have hchars : ∀ c ∈ (OptionName.value option).longName.toList, decide (c ≠ '=') = true :=
    fun c hc => decide_eq_true ((OptionName.value option).longName_chars.2 c hc)
  rw [long, List.takeWhile_append_of_pos hchars, List.dropWhile_append_of_pos hchars]
  simp [OptionName.ofLong?_longName]

private theorem cluster_switch {switch : Switch}
    (named : OptionName.ofShort? letter = some (.switch switch)) :
    s.cluster (letter :: letters) = s.switchOn switch >>= (·.cluster letters) := by
  simp only [cluster, named]

private theorem cluster_alone (named : OptionName.ofShort? letter = some (.value option)) :
    s.cluster [letter] = s.expect option := by
  simp only [cluster, named]

private theorem cluster_equals (named : OptionName.ofShort? letter = some (.value option)) :
    s.cluster (letter :: '=' :: text) = s.attached option text := by
  simp only [cluster, named]

private theorem cluster_attached (named : OptionName.ofShort? letter = some (.value option))
    (plain : IsPlain value) : s.cluster (letter :: value.toList) = s.attached option value.toList := by
  obtain ⟨c, rest, htext, -, hequals⟩ := plain
  rw [htext]
  simp only [cluster, named]
  split <;> simp_all

theorem settle_settled (g : Given) : settle ⟨g, none⟩ = pure g := rfl

theorem settle_holding (g : Given) (option : ValueOption) (value : String) :
    settle ⟨g, some (.holding option value)⟩ = g.setValue option value := rfl

section Reading
-- What is read next, from any state, are requests that come after what waits there.
variable {read : OptionScan → Except UsageIssue Given}

private theorem switchOn_bind (next : ∀ s, read s = s.settle >>= (·.giveAll requests)) :
    s.switchOn f.switch >>= read = s.settle >>= (·.giveAll (.flag f :: requests)) := by
  simp only [switchOn, next, settle_settled, bind_assoc, pure_bind, Given.giveAll, Given.give]

private theorem attached_bind (next : ∀ s, read s = s.settle >>= (·.giveAll requests)) :
    s.attached option value.toList >>= read
      = s.settle >>= (·.giveAll (.value option value :: requests)) := by
  simp only [attached, next, settle_settled, bind_assoc, pure_bind, String.ofList_toList,
    Given.giveAll, Given.give]

private theorem expect_bind (plain : IsPlain value)
    (next : ∀ s : OptionScan, s.all words = s.settle >>= (·.giveAll requests)) :
    s.expect option >>= (·.all (value :: words))
      = s.settle >>= (·.giveAll (.value option value :: requests)) := by
  simp only [expect, all_awaited plain, next, settle_holding, bind_assoc, pure_bind, Given.giveAll,
    Given.give]

end Reading

private theorem cluster_bind {first : List Request} {own : List String}
    (cluster : Cluster first letters own)
    (next : ∀ s : OptionScan, s.all words = s.settle >>= (·.giveAll requests)) (s : OptionScan) :
    s.cluster letters >>= (·.all (own ++ words)) = s.settle >>= (·.giveAll (first ++ requests)) := by
  induction cluster generalizing s with
  | nil => exact next s
  | flag named rest ih =>
    rw [cluster_switch (OptionName.ofShort?_of_letter? named), bind_assoc]
    exact switchOn_bind ih
  | attached named plain =>
    rw [cluster_attached (OptionName.ofShort?_of_letter? named) plain]
    exact attached_bind next
  | equals named plain =>
    rw [cluster_equals (OptionName.ofShort?_of_letter? named)]
    exact attached_bind next
  | separate named plain =>
    rw [cluster_alone (OptionName.ofShort?_of_letter? named)]
    exact expect_bind plain next

/-- The words that spell requests give them, one after the other, whatever waits in the scanner. -/
theorem all_spelled (h : Spells requests words) (s : OptionScan) :
    s.all words = s.settle >>= (·.giveAll requests) := by
  induction h generalizing s with
  | nil => exact (bind_pure s.settle).symm
  | longFlag f rest ih =>
    rw [all_long String.toList_append (OptionName.longName_chars _).1, long_longName]
    exact switchOn_bind ih
  | @longEquals _ _ option value plain rest ih =>
    have hword : ("--" ++ (OptionName.value option).longName ++ "=" ++ value).toList
        = '-' :: '-' :: ((OptionName.value option).longName.toList ++ '=' :: value.toList) := by
      simp
    rw [all_long hword (by simp), long_equals]
    exact attached_bind ih
  | longSeparate option plain rest ih =>
    rw [all_long String.toList_append (OptionName.longName_chars _).1, long_longName]
    exact expect_bind plain ih
  | short cluster nonempty rest ih =>
    obtain ⟨c, letters, rfl⟩ := List.exists_cons_of_ne_nil nonempty
    rw [all_short String.toList_ofList cluster.head_ne_dash]
    exact cluster_bind cluster ih s

end OptionScan

section Meaning
variable {requests : List Request} {words : List String} {environment : Option String} {asked : Given}

/-- Whatever is asked for with plain values, in whatever order, can be written. -/
theorem exists_spelling
    (plain : ∀ option value, Request.value option value ∈ requests → IsPlain value) :
    ∃ words, Spells requests words := by
  induction requests with
  | nil => exact ⟨[], .nil⟩
  | cons request rest ih =>
    obtain ⟨words, hwords⟩ := ih fun option value hmem => plain option value (.tail _ hmem)
    cases request with
    | value option value => exact ⟨_, .longEquals option (plain option value (.head _)) hwords⟩
    | flag f => exact ⟨_, .longFlag f hwords⟩

private theorem Options.parse_spelled (h : Spells requests words) :
    Options.parse words environment
      = Given.nothing.giveAll requests >>= (·.complete environment) := by
  rw [Options.parse, OptionScan.all_spelled h]
  rfl

/-- The options of a run that was asked for in this environment. -/
structure Options.Answer (options : Options) (asked : Given) (environment : Option String) : Prop where
  file : options.file = asked.file.getD (environment.getD defaultRuleFile)
  target : asked.target = some options.target
  dryRun : options.dryRun = asked.dryRun
  strict : options.strict = asked.strict
  verbose : options.verbose = asked.verbose
  duplicates : options.duplicates = .reject ↔ asked.strict = true

private theorem Given.complete_answers (named : asked.target.isSome)
    (h : ¬ (asked.file = none ∧ environment = some "")) :
    ∃ options, asked.complete environment = .ok options ∧ options.Answer asked environment := by
  obtain ⟨file, target, dryRun, strict, verbose⟩ := asked
  obtain ⟨target, rfl⟩ := Option.isSome_iff_exists.mp named
  have hreject : DuplicatePolicy.ofStrict strict = .reject ↔ strict = true := by
    cases strict <;> decide
  refine ⟨⟨file.getD (environment.getD defaultRuleFile), target, dryRun, strict, verbose⟩, ?_,
    rfl, rfl, rfl, rfl, rfl, hreject⟩
  obtain _ | file := file
  · obtain _ | file := environment
    · rfl
    · unfold complete
      split <;> simp_all
  · rfl

/-- Requests that name a target, each of them made once, mean the same in every order and in every
spelling; and in every spelling nothing may be requested twice. -/
theorem every_spelling_means_the_same (h : Spells requests words) (environment : Option String) :
    (∀ asked : Given, asked.target.isSome → requests.Perm asked.requests →
      (asked.file = none ∧ environment = some "" →
        Options.parse words environment = .error .invalidValue) ∧
      (¬ (asked.file = none ∧ environment = some "") →
        ∃ options, Options.parse words environment = .ok options ∧
          options.Answer asked environment)) ∧
    (¬ (requests.map Request.option).Nodup →
      Options.parse words environment = .error .argumentConflict) := by
  refine ⟨fun asked htarget hperm => ?_, fun hrepeated => ?_⟩
  · have hparse : Options.parse words environment = asked.complete environment := by
      rw [Options.parse_spelled h, Given.giveAll_of_perm h.namesSomething hperm]
      rfl
    rw [hparse]
    refine ⟨fun ⟨hfile, henvironment⟩ => ?_, Given.complete_answers htarget⟩
    simp only [Given.complete, hfile, henvironment]
  · rw [Options.parse_spelled h,
      Given.giveAll_of_repeated h.namesSomething fun distinct => hrepeated distinct.1]
    rfl

theorem grouped_and_long_mean_the_same :
    (∃ options, Options.parse ["-vnt=all", "--strict", "--file", "rules.mk"] (some "") = .ok options ∧
      options.Answer ⟨some "rules.mk", some "all", true, true, true⟩ (some "")) ∧
    Options.parse ["--target=all", "-nt", "every"] none = .error .argumentConflict := by
  have hall : IsPlain "all" := ⟨'a', ['l', 'l'], rfl, by decide, by decide⟩
  have hevery : IsPlain "every" := ⟨'e', ['v', 'e', 'r', 'y'], rfl, by decide, by decide⟩
  have hrules : IsPlain "rules.mk" :=
    ⟨'r', ['u', 'l', 'e', 's', '.', 'm', 'k'], rfl, by decide, by decide⟩
  have hgrouped : Spells [.flag .verbose, .flag .dryRun, .value .target "all", .flag .strict,
      .value .file "rules.mk"] ["-vnt=all", "--strict", "--file", "rules.mk"] :=
    .short (.flag rfl (.flag rfl (.equals rfl hall))) (List.cons_ne_nil _ _)
      (.longFlag .strict (.longSeparate .file hrules .nil))
  have htwice : Spells [.value .target "all", .flag .dryRun, .value .target "every"]
      ["--target=all", "-nt", "every"] :=
    .longEquals .target hall
      (.short (.flag rfl (.separate rfl hevery)) (List.cons_ne_nil _ _) .nil)
  exact ⟨((every_spelling_means_the_same hgrouped (some "")).1 _ rfl (by decide)).2 (by decide),
    (every_spelling_means_the_same htwice none).2 (by decide)⟩

end Meaning
end BuildRunner
