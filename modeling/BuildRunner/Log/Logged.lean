import BuildRunner.Error
import BuildRunner.Log.Event

/-! Results that come with the events that led to them. An error keeps the events before it. -/
namespace BuildRunner

/-- Events are listed oldest first. -/
structure Logged (α : Type) where
  log : List Event
  result : Except BuildError α

namespace Logged
variable {α β : Type}

def ok (value : α) : Logged α := ⟨[], .ok value⟩

def fail (error : BuildError) : Logged α := ⟨[], .error error⟩

/-- Goes on with the value, unless there was an error. -/
def andThen (first : Logged α) (next : α → Logged β) : Logged β :=
  match first.result with
  | .error error => ⟨first.log, .error error⟩
  | .ok value => ⟨first.log ++ (next value).log, (next value).result⟩

def after (events : List Event) (x : Logged α) : Logged α := ⟨events ++ x.log, x.result⟩

def mapError (change : BuildError → BuildError) (x : Logged α) : Logged α :=
  ⟨x.log, x.result.mapError change⟩

@[simp] theorem ok_andThen (value : α) (next : α → Logged β) : (ok value).andThen next = next value := by
  simp [ok, andThen]

theorem andThen_of_ok {x : Logged α} {value : α} (h : x.result = .ok value) (next : α → Logged β) :
    x.andThen next = ⟨x.log ++ (next value).log, (next value).result⟩ := by
  simp [andThen, h]

theorem andThen_of_error {x : Logged α} {error : BuildError} (h : x.result = .error error)
    (next : α → Logged β) : x.andThen next = ⟨x.log, .error error⟩ := by
  simp [andThen, h]

theorem result_andThen_eq_ok {x : Logged α} {next : α → Logged β} {result : β} :
    (x.andThen next).result = .ok result ↔
      ∃ value, x.result = .ok value ∧ (next value).result = .ok result := by
  unfold andThen
  cases x.result <;> simp

/-- The first error counts. -/
theorem result_andThen_eq_error {x : Logged α} {next : α → Logged β} {error : BuildError} :
    (x.andThen next).result = .error error ↔
      x.result = .error error ∨
        ∃ value, x.result = .ok value ∧ (next value).result = .error error := by
  unfold andThen
  cases x.result <;> simp

theorem result_mapError_eq_error {x : Logged α} {change : BuildError → BuildError}
    {error : BuildError} :
    (x.mapError change).result = .error error ↔
      ∃ cause, x.result = .error cause ∧ change cause = error := by
  obtain ⟨log, result⟩ := x
  constructor
  · intro h
    cases result with
    | error cause =>
      cases h
      exact ⟨cause, rfl, rfl⟩
    | ok value => cases h
  · rintro ⟨cause, rfl, rfl⟩
    rfl

theorem andThen_assoc {γ : Type} (x : Logged α) (f : α → Logged β) (g : β → Logged γ) :
    (x.andThen f).andThen g = x.andThen fun value => (f value).andThen g := by
  obtain ⟨log, result⟩ := x
  cases result with
  | error e => rfl
  | ok value =>
    simp only [andThen]
    cases (f value).result <;> simp

end Logged
end BuildRunner
