import Transports.Failure.Source
/-!
# Stripping wrappers

A failed call and a failed set-up of a type wrap the failure that matters. `Failure.strip` takes
such wrappers off until another failure shows; what lies below that one stays as it is.
-/

namespace Transports

def Failure.isWrapper : Failure → Bool
  | .lookup (.initialization ..) => true
  | .lookup (.invocation _) => true
  | _ => false

/-- The first failure beneath the wrappers. -/
def Failure.strip : Failure → Failure
  | .lookup (.initialization _ source) => source.strip
  | .lookup (.invocation source) => source.strip
  | e => e

theorem Failure.strip_initialization (typeName : String) (source : Failure) :
    (Failure.lookup (.initialization typeName source)).strip = source.strip := by
  rw [Failure.strip]

theorem Failure.strip_invocation (source : Failure) :
    (Failure.lookup (.invocation source)).strip = source.strip := by
  rw [Failure.strip]

theorem Failure.strip_of_not_isWrapper {e : Failure} (h : e.isWrapper = false) : e.strip = e := by
  unfold Failure.strip
  split
  · simp [Failure.isWrapper] at h
  · simp [Failure.isWrapper] at h
  · rfl

/-- What is left after stripping is no wrapper. -/
theorem Failure.isWrapper_strip (e : Failure) : e.strip.isWrapper = false := by
  fun_induction Failure.strip e with
  | case1 _ _ ih => exact ih
  | case2 _ ih => exact ih
  | case3 e h₁ h₂ =>
    unfold Failure.isWrapper
    split
    · next t s => exact absurd rfl (h₁ t s)
    · next s => exact absurd rfl (h₂ s)
    · rfl

@[simp] theorem Failure.strip_strip (e : Failure) : e.strip.strip = e.strip :=
  strip_of_not_isWrapper e.isWrapper_strip

end Transports
