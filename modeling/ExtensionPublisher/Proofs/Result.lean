import ExtensionPublisher.Fault

/-!
# Results of several steps

What is read, checked and sent goes step by step, and the first step that fails is the result.
A result of several steps that is a success is taken apart into the successes of its steps.

A fault that blames the input tells the user to say something else, so it must be found before
anything is sent. Results that do not blame the input are blameless, and a sequence of blameless
steps is.
-/
namespace ExtensionPublisher

variable {ε δ α β : Type}

/-- A success stays what it is, whatever is made of faults. -/
@[simp] theorem map_error_ok (value : α) (wrap : ε → δ) :
    (Except.ok value : Except ε α).mapError wrap = .ok value := rfl

/-- A fault is made another one. -/
@[simp] theorem map_error_error (fault : ε) (wrap : ε → δ) :
    (Except.error fault : Except ε α).mapError wrap = .error (wrap fault) := rfl

/-- Where two steps succeed, both do. This is how a chain of steps is taken apart,
from its end to its beginning. -/
theorem ok_of_bind {result : Except ε α} {next : α → Except ε β} {value : β}
    (succeeded : (result >>= next) = .ok value) :
    ∃ first, result = .ok first ∧ next first = .ok value := by
  cases result with
  | error fault => cases succeeded
  | ok first => exact ⟨first, rfl, succeeded⟩

/-- Where two steps fail, the first one does, or it succeeds and the second one fails. -/
theorem error_of_bind {result : Except ε α} {next : α → Except ε β} {fault : ε}
    (failed : (result >>= next) = .error fault) :
    result = .error fault ∨ ∃ first, result = .ok first ∧ next first = .error fault := by
  cases result with
  | error other =>
    obtain rfl := Except.error.inj failed
    exact .inl rfl
  | ok first => exact .inr ⟨first, rfl, failed⟩

/-- A success with another value is a success, so what was made of a value tells
that there was one. -/
theorem ok_of_map {result : Except ε α} {shown : α → β} {value : β}
    (succeeded : result.map shown = .ok value) :
    ∃ first, result = .ok first ∧ shown first = value := by
  cases result with
  | error fault => cases succeeded
  | ok first => exact ⟨first, rfl, Except.ok.inj succeeded⟩

/-- A success is not changed by what is made of faults, in either direction. -/
theorem ok_of_map_error {result : Except ε α} {wrap : ε → δ} {value : α}
    (succeeded : result.mapError wrap = .ok value) : result = .ok value := by
  cases result with
  | error fault => cases succeeded
  | ok first => exact congrArg Except.ok (Except.ok.inj succeeded)

/-- A result that does not blame the input. It may be any success or any other
fault. -/
def Blameless (result : Except Fault α) : Prop :=
  ∀ reason, result ≠ .error (.invalidArgument reason)

/-- A step behind a blameless result is blameless where the step is. So blame is
looked for step by step. -/
theorem blameless_bind {result : Except Fault α} {next : α → Except Fault β}
    (first : Blameless result) (second : ∀ value, Blameless (next value)) :
    Blameless (result >>= next) := by
  cases result with
  | error fault =>
    rintro reason ⟨⟩
    exact first reason rfl
  | ok value => exact second value

end ExtensionPublisher
