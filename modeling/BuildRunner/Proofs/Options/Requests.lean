import BuildRunner.Options.Parse
import Mathlib.Data.List.Perm.Basic

/-! What a command line asks for, as a list of requests in any order. Given one after the other they
leave what they ask for and nothing else, unless two of them are about one option. -/
namespace BuildRunner

/-- The switches that go with a run. -/
inductive Flag where
  | dryRun
  | strict
  | verbose
deriving DecidableEq, Repr

def Flag.switch : Flag → Switch
  | dryRun => .dryRun
  | strict => .strict
  | verbose => .verbose

private theorem Flag.switch_inj {f f' : Flag} : f.switch = f'.switch ↔ f = f' := by
  cases f <;> cases f' <;> decide

/-- An option that is given once. -/
inductive Request where
  | value (option : ValueOption) (text : String)
  | flag (flag : Flag)
deriving DecidableEq, Repr

namespace Request

def option : Request → OptionName
  | value option _ => .value option
  | flag f => .switch f.switch

/-- A request that is about a value gives one. -/
def NamesSomething (request : Request) : Prop := ∀ option, request ≠ .value option ""

end Request

namespace Given
variable {g next last asked : Given} {request other : Request} {todo : List Request}

def isOn (g : Given) : Flag → Bool
  | .dryRun => g.dryRun
  | .strict => g.strict
  | .verbose => g.verbose

def put (g : Given) (text : String) : ValueOption → Given
  | .file => { g with file := some text }
  | .target => { g with target := some text }

def turnOn (g : Given) : Flag → Given
  | .dryRun => { g with dryRun := true }
  | .strict => { g with strict := true }
  | .verbose => { g with verbose := true }

/-- The request has been given. -/
def Holds (g : Given) : Request → Prop
  | .value option text => g.value? option = some text
  | .flag f => g.isOn f = true

/-- The option has been given, with whatever value. -/
def Has (g : Given) (option : OptionName) : Prop := ∃ request, g.Holds request ∧ request.option = option

/-- All that has been given, an option at a time. -/
def requests (g : Given) : List Request :=
  g.file.toList.map (.value .file) ++ g.target.toList.map (.value .target) ++
    ([Flag.dryRun, .strict, .verbose].filter g.isOn).map .flag

private theorem mem_requests : request ∈ g.requests ↔ g.Holds request := by
  cases request with
  | value option text => cases option <;> simp [requests, Holds, value?]
  | flag f => cases f <;> simp [requests, Holds, isOn]

private theorem eq_of_holds (h : ∀ request, g.Holds request ↔ last.Holds request) : g = last := by
  obtain ⟨file, target, dryRun, strict, verbose⟩ := g
  obtain ⟨file', target', dryRun', strict', verbose'⟩ := last
  obtain rfl : file = file' := Option.ext fun text => h (.value .file text)
  obtain rfl : target = target' := Option.ext fun text => h (.value .target text)
  obtain rfl : dryRun = dryRun' := Bool.eq_iff_iff.mpr (h (.flag .dryRun))
  obtain rfl : strict = strict' := Bool.eq_iff_iff.mpr (h (.flag .strict))
  obtain rfl : verbose = verbose' := Bool.eq_iff_iff.mpr (h (.flag .verbose))
  rfl

private theorem nodup_options_requests (g : Given) : (g.requests.map Request.option).Nodup := by
  have hfile : ((g.file.toList.map (Request.value .file)).map Request.option).Sublist
      [.value .file] := by
    cases g.file <;> simp [Request.option]
  have htarget : ((g.target.toList.map (Request.value .target)).map Request.option).Sublist
      [.value .target] := by
    cases g.target <;> simp [Request.option]
  have hflags := ((List.filter_sublist (p := g.isOn) (l := [.dryRun, .strict, .verbose])).map
    Request.flag).map Request.option
  rw [requests, List.map_append, List.map_append]
  exact ((hfile.append htarget).append hflags).nodup (by decide)

def give (g : Given) : Request → Except UsageIssue Given
  | .value option text => g.setValue option text
  | .flag f => g.setSwitch f.switch

def giveAll (g : Given) : List Request → Except UsageIssue Given
  | [] => .ok g
  | request :: rest => g.give request >>= (·.giveAll rest)

private theorem has_value_iff {option : ValueOption} :
    g.Has (.value option) ↔ (g.value? option).isSome := by
  rw [Option.isSome_iff_exists]
  constructor
  · rintro ⟨request, hholds, heq⟩
    cases request with
    | value option' text =>
      cases heq
      exact ⟨text, hholds⟩
    | flag f => cases heq
  · rintro ⟨text, htext⟩
    exact ⟨.value option text, htext, rfl⟩

private theorem has_flag_iff {f : Flag} : g.Has (.switch f.switch) ↔ g.isOn f = true := by
  constructor
  · rintro ⟨request, hholds, heq⟩
    cases request with
    | value option text => cases heq
    | flag f' =>
      obtain rfl : f' = f := Flag.switch_inj.mp (OptionName.switch.inj heq)
      exact hholds
  · intro hon
    exact ⟨.flag f, hon, rfl⟩

private theorem setValue_of_new {option : ValueOption} {text : String} (h : g.value? option = none)
    (hne : text ≠ "") : g.setValue option text = .ok (g.put text option) := by
  cases option <;> simp [setValue, h, hne, put]

private theorem put_holds {option : ValueOption} {text : String} (h : g.value? option = none) :
    (g.put text option).Holds other ↔ g.Holds other ∨ other = .value option text := by
  cases other with
  | value option' text' =>
    cases option' <;> cases option <;> simp_all [put, Holds, value?, eq_comm]
  | flag f => cases f <;> cases option <;> simp [put, Holds, isOn]

private theorem setSwitch_flag (g : Given) (f : Flag) :
    g.setSwitch f.switch = if g.isOn f then .error .argumentConflict else .ok (g.turnOn f) := by
  cases f <;> rfl

private theorem turnOn_holds {f : Flag} :
    (g.turnOn f).Holds other ↔ g.Holds other ∨ other = .flag f := by
  cases other with
  | value option text => cases option <;> cases f <;> simp [turnOn, Holds, value?]
  | flag f' => cases f' <;> cases f <;> simp [turnOn, Holds, isOn]

private theorem give_of_has (h : g.Has request.option) :
    g.give request = .error .argumentConflict := by
  cases request with
  | value option text =>
    have hsome := has_value_iff.mp h
    simp [give, setValue, hsome]
  | flag f =>
    have hon := has_flag_iff.mp h
    simp [give, setSwitch_flag, hon]

private theorem give_of_new (h : ¬ g.Has request.option) (named : request.NamesSomething) :
    ∃ next, g.give request = .ok next ∧
      ∀ other, next.Holds other ↔ g.Holds other ∨ other = request := by
  cases request with
  | value option text =>
    have hnone : g.value? option = none := by simpa using mt has_value_iff.mpr h
    have htext : text ≠ "" := fun he => named option (he ▸ rfl)
    exact ⟨g.put text option, setValue_of_new hnone htext, fun other => put_holds hnone⟩
  | flag f =>
    have hoff : g.isOn f = false := by simpa using mt has_flag_iff.mpr h
    exact ⟨g.turnOn f, by simp [give, setSwitch_flag, hoff], fun other => turnOn_holds⟩

private theorem has_of_give (h : ∀ other, next.Holds other ↔ g.Holds other ∨ other = request)
    {option : OptionName} : next.Has option ↔ g.Has option ∨ request.option = option := by
  simp only [Has, h, or_and_right, exists_or, exists_eq_left]

/-- Requests about options that are new and distinct add themselves and nothing else. -/
theorem giveAll_of_distinct (named : ∀ request ∈ todo, request.NamesSomething)
    (distinct : (todo.map Request.option).Nodup) (new : ∀ request ∈ todo, ¬ g.Has request.option) :
    ∃ last, g.giveAll todo = .ok last ∧ ∀ other, last.Holds other ↔ g.Holds other ∨ other ∈ todo := by
  induction todo generalizing g with
  | nil => exact ⟨g, rfl, by simp⟩
  | cons request rest ih =>
    rw [List.map_cons, List.nodup_cons] at distinct
    rw [List.forall_mem_cons] at named new
    obtain ⟨next, hgive, hnext⟩ := give_of_new new.1 named.1
    have hnew : ∀ later ∈ rest, ¬ next.Has later.option := by
      intro later hlater
      rw [has_of_give hnext, not_or]
      exact ⟨new.2 later hlater, fun heq => distinct.1 (heq ▸ List.mem_map_of_mem hlater)⟩
    obtain ⟨last, hlast, hholds⟩ := ih named.2 distinct.2 hnew
    refine ⟨last, by rw [giveAll, hgive]; exact hlast, fun other => ?_⟩
    rw [hholds, hnext, List.mem_cons, or_assoc]

/-- One request about an option that is not new is enough to refuse them all. -/
theorem giveAll_of_repeated (named : ∀ request ∈ todo, request.NamesSomething)
    (repeated : ¬ ((todo.map Request.option).Nodup ∧ ∀ request ∈ todo, ¬ g.Has request.option)) :
    g.giveAll todo = .error .argumentConflict := by
  induction todo generalizing g with
  | nil => simp at repeated
  | cons request rest ih =>
    rw [List.forall_mem_cons] at named
    by_cases hhas : g.Has request.option
    · rw [giveAll, give_of_has hhas]
      rfl
    · obtain ⟨next, hgive, hnext⟩ := give_of_new hhas named.1
      rw [giveAll, hgive]
      refine ih named.2 fun ⟨hdistinct, hnew⟩ => repeated ?_
      -- What is new to `next` is new to `g` and about another option than `request`.
      have hold : ∀ later ∈ rest, ¬ g.Has later.option ∧ request.option ≠ later.option := by
        intro later hlater
        have hlater := hnew later hlater
        rwa [has_of_give hnext, not_or] at hlater
      rw [List.map_cons, List.nodup_cons, List.forall_mem_cons, List.mem_map]
      refine ⟨⟨?_, hdistinct⟩, hhas, fun later hlater => (hold later hlater).1⟩
      rintro ⟨later, hlater, heq⟩
      exact (hold later hlater).2 heq.symm

private theorem not_nothing_has {option : OptionName} : ¬ nothing.Has option := by
  rintro ⟨request, hholds, -⟩
  cases request with
  | value option text => cases option <;> cases hholds
  | flag f => cases f <;> cases hholds

/-- All that has been given can be given again from nothing, in any order. -/
theorem giveAll_of_perm (named : ∀ request ∈ todo, request.NamesSomething)
    (h : todo.Perm asked.requests) : nothing.giveAll todo = .ok asked := by
  have hdistinct : (todo.map Request.option).Nodup :=
    (h.map Request.option).nodup_iff.mpr (nodup_options_requests asked)
  obtain ⟨last, hlast, hholds⟩ := giveAll_of_distinct named hdistinct fun _ _ => not_nothing_has
  have hlast' : last = asked := eq_of_holds fun other => by
    rw [hholds, h.mem_iff, mem_requests]
    exact or_iff_right fun hother => not_nothing_has ⟨other, hother, rfl⟩
  rw [hlast, hlast']

end Given
end BuildRunner
