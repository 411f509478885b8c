import Transports.Failure.Basic
import Transports.Versions.Verdict
/-!
# Events

What the program tells about its work. An event has a level, a message and fields; which of them go
with which event is said here and nowhere else.
-/

namespace Transports

/-- How much an event matters. -/
inductive Level where
  | debug | info | warn | error
deriving DecidableEq, Repr

def Level.name : Level → String
  | debug => "DEBUG"
  | info => "INFO"
  | warn => "WARN"
  | error => "ERROR"

inductive FieldValue where
  | text (s : String)
  | number (n : Nat)
  | flag (b : Bool)
deriving DecidableEq, Repr

/-- Something worth telling. -/
inductive Event where
  /-- A group of loops was opened. -/
  | groupOpened (transport : String) (threads : Nat)
  /-- The directory of the built-in types was set up. -/
  | directoryBuilt (types : Nat)
  /-- A backend has no namespace. -/
  | namespaceUnresolved (tier : Tier)
  /-- A gated backend was left alone. -/
  | notEnabled (token : String)
  /-- A backend turned out to be unavailable. -/
  | transportUnavailable (cause : Cause)
  /-- A backend turned out to be available. -/
  | transportAvailable (domainSockets : Bool)
  /-- A detected backend made no valid record. -/
  | invalidRecord (fault : PartsFault)
  /-- The fallback made no valid record. -/
  | fallbackUnassembled (cause : Cause)
  /-- The preference names no transport. -/
  | preferenceIgnored (fault : InvalidPreference)
  /-- The preferred transport is unavailable. -/
  | preferenceUnavailable (transport : String)
  /-- All components have this version. -/
  | versionInUse (version : String)
  /-- No component told its version. -/
  | versionUnknown
  /-- Components of several versions are linked. -/
  | versionsMixed (artifacts : List Artifact)
deriving DecidableEq, Repr

namespace Event

def level : Event → Level
  | groupOpened .. => .debug
  | directoryBuilt _ => .debug
  | namespaceUnresolved _ => .debug
  | notEnabled _ => .debug
  | transportUnavailable _ => .debug
  | transportAvailable _ => .debug
  | invalidRecord _ => .error
  | fallbackUnassembled _ => .error
  | preferenceIgnored _ => .warn
  | preferenceUnavailable _ => .debug
  | versionInUse _ => .info
  | versionUnknown => .warn
  | versionsMixed _ => .warn

/-- How the warning about versions is switched off. -/
def silencing : String :=
  "to disable this warning set " ++ Settings.warnVersionsKey ++ "=false"

def message : Event → String
  | groupOpened .. => "event loop group opened"
  | directoryBuilt _ => "native type catalogue built"
  | namespaceUnresolved _ => "namespace unresolved"
  | notEnabled _ => "not enabled explicitly, skipping probe"
  | transportUnavailable _ => "transport unavailable"
  | transportAvailable _ => "transport available"
  | invalidRecord _ => "probe produced an invalid capability record"
  | fallbackUnassembled _ => "fallback transport could not be assembled"
  | preferenceIgnored _ => "ignoring transport preference"
  | preferenceUnavailable _ => "configured transport unavailable"
  | versionInUse _ => "using transport version"
  | versionUnknown => "unknown transport version; " ++ silencing
  | versionsMixed artifacts =>
    "found inconsistent transport versions (" ++ ", ".intercalate (artifacts.map (·.display)) ++
      "); mixed versions may cause undefined behaviour in native calls; " ++ silencing

/-- The fields besides level and message. -/
def fields : Event → List (String × FieldValue)
  | groupOpened transport threads =>
    [("transport", .text transport), ("n_threads", .number threads)]
  | directoryBuilt types => [("types", .number types)]
  | namespaceUnresolved tier => [("tier", .text tier.name)]
  | notEnabled token => [("token", .text token)]
  | transportUnavailable cause => [("cause", .text cause.message)]
  | transportAvailable domainSockets => [("domain_sockets", .flag domainSockets)]
  | invalidRecord fault => [("error", .text fault.message)]
  | fallbackUnassembled cause => [("cause", .text cause.message)]
  | preferenceIgnored fault => [("error", .text fault.message)]
  | preferenceUnavailable transport => [("transport", .text transport)]
  | versionInUse version => [("version", .text version)]
  | versionUnknown => []
  | versionsMixed _ => []

end Event

/-- The event that tells a verdict on the linked versions. -/
def Verdict.event : Verdict → Event
  | unknown => .versionUnknown
  | consistent version => .versionInUse version
  | inconsistent _ artifacts => .versionsMixed artifacts

end Transports
