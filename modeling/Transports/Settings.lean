import Transports.Environment
import Transports.Transport
/-!
# Settings

The settings are a preferred transport, given as free text, and a switch for the warning about mixed
versions. The text decides two things: which transport is preferred (`Settings.preferred?`) and
which of the gated transports may be touched at all (`Settings.enables`). Both ignore padding and
the case of ASCII letters.
-/

namespace Transports

/-- What the user may choose. -/
structure Settings where
  /-- The preferred transport, as written. -/
  preference : Option String := none
  /-- Whether to warn when components of different versions are linked. -/
  warnVersions : Bool := true
deriving DecidableEq, Repr

/-- The preference names no transport. -/
structure InvalidPreference where
  unknown : UnknownTransport
deriving DecidableEq, Repr

namespace Settings

def preferenceKey : String := "NETCAP_TRANSPORT_TYPE"

def warnVersionsKey : String := "NETCAP_WARN_VERSIONS"

def ofEnvironment (env : Environment) : Settings where
  preference := env.word? preferenceKey
  warnVersions := env.flag warnVersionsKey true

/-- Whether the preference is the given token. -/
def enables (s : Settings) (token : String) : Bool :=
  s.preference.any fun p => Text.sameLetters (Text.trim p) token

/-- Whether the preference is the token of a transport. -/
def optsIn (s : Settings) (t : Transport) : Bool :=
  s.enables t.token

/-- The transport that the preference names, if it names one. -/
def preferred? (s : Settings) : Option Transport :=
  s.preference.bind fun p => (Transport.ofText p).toOption

/-- Refuses a preference that names no transport. -/
def check (s : Settings) : Except InvalidPreference Unit :=
  match s.preference with
  | none => .ok ()
  | some p =>
    match Transport.ofText p with
    | .ok _ => .ok ()
    | .error u => .error ⟨u⟩

/-- A preference opts a transport in exactly when it names that transport. -/
theorem optsIn_iff {s : Settings} {t : Transport} : s.optsIn t = true ↔ s.preferred? = some t := by
  cases h : s.preference with
  | none => simp [optsIn, enables, preferred?, h]
  | some p =>
    simp only [optsIn, enables, preferred?, h, Option.any_some, Text.sameLetters_iff,
      Option.bind_some, ← Transport.ofText_eq_ok_iff]
    cases Transport.ofText p <;> simp [Except.toOption]

end Settings

def InvalidPreference.message (e : InvalidPreference) : String :=
  "invalid " ++ Settings.preferenceKey ++ ": " ++ e.unknown.message

end Transports
