import Transports.Failure.Basic
/-!
# What lies beneath a failure

`source?` is the failure directly beneath another one, and `chain` lists all failures beneath it,
outermost first; `chain_eq` ties the two. A failure wrapped as an input or output failure shows as
the inner failure and has that one's source: the inner failure itself is not in the chain.
-/

namespace Transports

mutual

/-- The failure directly beneath. -/
def Failure.source? : Failure → Option Failure
  | .plain _ => none
  | .io e => e.source?
  | .lookup e => e.source?
  | .parts _ => none
  | .unknown _ => none
  | .preference e => some (.unknown e.unknown)
  | .cause e => e.source?
  | .refusal e => e.source?

def IoFailure.source? : IoFailure → Option Failure
  | .described .. => none
  | .bare _ => none
  | .system .. => none
  | .wrapped _ inner => inner.source?

def LookupFailure.source? : LookupFailure → Option Failure
  | .notFound _ => none
  | .roleMismatch .. => none
  | .missingMember .. => none
  | .initialization _ source => some source
  | .invocation source => some source

def Cause.source? : Cause → Option Failure
  | .namespaceUnresolved _ => none
  | .notOptedIn _ => none
  | .nativeUnavailable source => some source
  | .resolutionFailure source => some source

def Refusal.source? : Refusal → Option Failure
  | .notAvailable _ cause => some (.cause cause)
  | .unsupported .. => none
  | .groupConstruction _ source => some source

end

mutual

/-- Every failure beneath, outermost first. -/
def Failure.chain : Failure → List Failure
  | .plain _ => []
  | .io e => e.chain
  | .lookup e => e.chain
  | .parts _ => []
  | .unknown _ => []
  | .preference e => [.unknown e.unknown]
  | .cause e => e.chain
  | .refusal e => e.chain

def IoFailure.chain : IoFailure → List Failure
  | .described .. => []
  | .bare _ => []
  | .system .. => []
  | .wrapped _ inner => inner.chain

def LookupFailure.chain : LookupFailure → List Failure
  | .notFound _ => []
  | .roleMismatch .. => []
  | .missingMember .. => []
  | .initialization _ source => source :: source.chain
  | .invocation source => source :: source.chain

def Cause.chain : Cause → List Failure
  | .namespaceUnresolved _ => []
  | .notOptedIn _ => []
  | .nativeUnavailable source => source :: source.chain
  | .resolutionFailure source => source :: source.chain

def Refusal.chain : Refusal → List Failure
  | .notAvailable _ cause => .cause cause :: cause.chain
  | .unsupported .. => []
  | .groupConstruction _ source => source :: source.chain

end

mutual

/-- The chain starts with the source and goes on with the chain of the source. -/
theorem Failure.chain_eq : ∀ e : Failure,
    e.chain = match e.source? with
      | none => []
      | some s => s :: s.chain
  | .plain _ => rfl
  | .io e => by rw [Failure.chain, Failure.source?]; exact IoFailure.chain_eq e
  | .lookup e => by
    cases e <;> rfl
  | .parts _ => rfl
  | .unknown _ => rfl
  | .preference _ => rfl
  | .cause e => by cases e <;> rfl
  | .refusal e => by cases e <;> rfl

theorem IoFailure.chain_eq : ∀ e : IoFailure,
    e.chain = match e.source? with
      | none => []
      | some s => s :: s.chain
  | .described .. => rfl
  | .bare _ => rfl
  | .system .. => rfl
  | .wrapped _ inner => by
    rw [IoFailure.chain, IoFailure.source?]; exact Failure.chain_eq inner

end

end Transports
