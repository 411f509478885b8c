import Transports.Role
import Transports.Settings
/-!
# Failures

Everything that can go wrong, as data. Failures nest: a lookup may fail because of another failure,
the cause that makes a backend unavailable may hold one, and the refusal of an accessor holds such a
cause. Each kind of failure has its text (`Failure.message`); what lies beneath a failure is in
`Transports.Failure.Source`.
-/

namespace Transports

/-- The class of an input or output failure, by the text of a failure of which only the class is
known. -/
structure IoKind where
  text : String
deriving DecidableEq, Repr

namespace IoKind

def invalidInput : IoKind := ⟨"invalid input parameter"⟩

def unsupported : IoKind := ⟨"unsupported"⟩

def wouldBlock : IoKind := ⟨"operation would block"⟩

def outOfMemory : IoKind := ⟨"out of memory"⟩

def other : IoKind := ⟨"other error"⟩

end IoKind

/-- The ways in which the contents of a record can break the rule of all or nothing. -/
inductive PartsFault where
  /-- Types and a cause of their absence are both there. -/
  | bothPresent (name : String)
  /-- Neither types nor a cause are there. -/
  | neitherPresent (name : String)
  /-- Something is there, but not all that is needed. -/
  | incomplete (name missing : String)
  /-- One of the two domain socket types is there without the other. -/
  | halfDomainPair (name : String)
  /-- A slot holds a type of another role. -/
  | roleMismatch (name slot : String) (expected actual : Role)
deriving DecidableEq, Repr

def PartsFault.message : PartsFault → String
  | bothPresent name =>
    s!"transport '{name}': resolved types and an unavailability cause are both present"
  | neitherPresent name =>
    s!"transport '{name}': neither resolved types nor an unavailability cause present"
  | incomplete name missing => s!"transport '{name}': partially resolved, {missing} is missing"
  | halfDomainPair name => s!"transport '{name}': domain socket types must be present together"
  | roleMismatch name slot expected actual =>
    s!"transport '{name}': {slot} holds a {actual.name}, expected {expected.name}"

mutual

inductive Failure where
  /-- A plain text. -/
  | plain (text : String)
  | io (e : IoFailure)
  | lookup (e : LookupFailure)
  | parts (e : PartsFault)
  | unknown (e : UnknownTransport)
  | preference (e : InvalidPreference)
  | cause (e : Cause)
  | refusal (e : Refusal)
deriving DecidableEq, Repr

inductive IoFailure where
  /-- A failure with a text of its own. -/
  | described (kind : IoKind) (text : String)
  /-- A failure of which only the class is known. -/
  | bare (kind : IoKind)
  /-- A code of the operating system, with the class and the text that the system gives it. -/
  | system (code : Int) (kind : IoKind) (text : String)
  /-- Another failure under a class; it shows as that failure. -/
  | wrapped (kind : IoKind) (inner : Failure)
deriving DecidableEq, Repr

/-- Why a type could not be found or used. -/
inductive LookupFailure where
  /-- No type has this name. -/
  | notFound (name : String)
  /-- The type with this name plays another role. -/
  | roleMismatch (name : String) (expected actual : Role)
  /-- The type lacks an accessor or a constructor. -/
  | missingMember (typeName member : String)
  /-- A wrapper: the type could not be set up. -/
  | initialization (typeName : String) (source : Failure)
  /-- A wrapper: a call failed. -/
  | invocation (source : Failure)
deriving DecidableEq, Repr

/-- Why a backend is unavailable. -/
inductive Cause where
  /-- There is no namespace for the tier of the backend. -/
  | namespaceUnresolved (tier : Tier)
  /-- The backend is gated and the settings do not name it. -/
  | notOptedIn (token : String)
  /-- The backend itself says that it cannot be used. -/
  | nativeUnavailable (source : Failure)
  /-- One of its types could not be found or used. -/
  | resolutionFailure (source : Failure)
deriving DecidableEq, Repr

/-- What an accessor of a record answers in place of a type. -/
inductive Refusal where
  /-- The backend is unavailable. -/
  | notAvailable (name : String) (cause : Cause)
  /-- The backend is available and lacks this. -/
  | unsupported (name capability : String)
  /-- The group could not be made. -/
  | groupConstruction (name : String) (source : Failure)
deriving DecidableEq, Repr

end

def IoFailure.kind : IoFailure → IoKind
  | described kind _ => kind
  | bare kind => kind
  | system _ kind _ => kind
  | wrapped kind _ => kind

/-- The cause that a refusal holds, if the backend is unavailable. -/
def Refusal.cause? : Refusal → Option Cause
  | notAvailable _ cause => some cause
  | unsupported .. => none
  | groupConstruction .. => none

/-! ## Texts -/

mutual

def Failure.message : Failure → String
  | .plain text => text
  | .io e => e.message
  | .lookup e => e.message
  | .parts e => e.message
  | .unknown e => e.message
  | .preference e => e.message
  | .cause e => e.message
  | .refusal e => e.message

def IoFailure.message : IoFailure → String
  | .described _ text => text
  | .bare kind => kind.text
  | .system code _ text => s!"{text} (os error {code})"
  | .wrapped _ inner => inner.message

def LookupFailure.message : LookupFailure → String
  | .notFound name => "type not found: " ++ name
  | .roleMismatch name expected actual =>
    s!"type {name} is a {actual.name}, expected {expected.name}"
  | .missingMember typeName member => s!"{typeName} has no {member}"
  | .initialization typeName source => s!"failed to initialize {typeName}: " ++ source.message
  | .invocation source => "invocation failed: " ++ source.message

def Cause.message : Cause → String
  | .namespaceUnresolved tier => s!"failed to determine the {tier.name} namespace"
  | .notOptedIn token => s!"{token} not enabled explicitly"
  | .nativeUnavailable source => "native transport unavailable: " ++ source.message
  | .resolutionFailure source => "failed to resolve transport types: " ++ source.message

def Refusal.message : Refusal → String
  | .notAvailable name cause => s!"transport '{name}' not available: " ++ cause.message
  | .unsupported name capability => s!"transport '{name}' does not support {capability}"
  | .groupConstruction name source =>
    s!"failed to create an event loop group for transport '{name}': " ++ source.message

end

end Transports
