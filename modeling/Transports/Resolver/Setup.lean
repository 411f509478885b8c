import Transports.BuiltIn
import Transports.Resolver.Basic
/-!
# Setting a resolver up

A setup names the settings and the collaborators of a resolver; those left out are the built-in
ones. Building tells of a preference that names no transport, checks the linked versions if the
settings say so, and computes no record.
-/

namespace Transports

/-- What a resolver is built from. -/
structure Setup where
  settings : Settings
  /-- What finds types, the directory of the built-in types by default. -/
  lookup? : Option Lookup := none
  /-- What tells namespaces, the built-in ones by default. -/
  namespaceOf? : Option NamespaceSource := none
  /-- The linked components, those of this program by default. -/
  artifacts? : Option (List Artifact) := none

namespace Setup

/-- Tells if the preference names no transport. -/
def checkPreference (s : Setup) : Act Unit :=
  match s.settings.check with
  | .ok () => return ()
  | .error e => Act.tell (.preferenceIgnored e)

/-- Checks the linked versions, if the settings say so, and tells the verdict. -/
def checkVersions (s : Setup) : Act (Option Verdict) := do
  if s.settings.warnVersions then
    let verdict := Verdict.of (s.artifacts?.getD linkedArtifacts)
    Act.tell verdict.event
    return some verdict
  else
    return none

/-- The collaborator that finds types. -/
def chooseLookup (s : Setup) (host : Host) : Act Lookup :=
  match s.lookup? with
  | some lookup => return lookup
  | none => return (← Directory.setUp host).lookup

def build (s : Setup) (host : Host) : Act Resolver := do
  s.checkPreference
  let verdict? ← s.checkVersions
  let lookup ← s.chooseLookup host
  return {
    settings := s.settings
    surroundings := { lookup, namespaceOf := s.namespaceOf?.getD ({} : Namespaces).source }
    verdict? }

end Setup

/-! ## Building only tells -/

/-- A computation that does nothing but tell events. -/
def Act.OnlyTells {α : Type} (x : Act α) : Prop :=
  ∀ h : History, ∃ (a : α) (events : List Event), x.run h = (a, h ++ events.map .told)

namespace Act

theorem onlyTells_pure {α : Type} (a : α) : OnlyTells (pure a) :=
  fun h => ⟨a, [], Prod.ext rfl (List.append_nil h).symm⟩

theorem onlyTells_tell (e : Event) : OnlyTells (tell e) :=
  fun _ => ⟨(), [e], rfl⟩

theorem OnlyTells.bind {α β : Type} {x : Act α} {k : α → Act β} (hx : OnlyTells x)
    (hk : ∀ a, OnlyTells (k a)) : OnlyTells (x >>= k) := by
  intro h
  obtain ⟨a, events, hrun⟩ := hx h
  obtain ⟨b, more, hrun'⟩ := hk a (h ++ events.map .told)
  refine ⟨b, events ++ more, ?_⟩
  rw [run_bind_of_run hrun, hrun', List.map_append, List.append_assoc]

end Act

namespace Setup

theorem onlyTells_checkPreference (s : Setup) : Act.OnlyTells s.checkPreference := by
  unfold checkPreference
  split
  · exact Act.onlyTells_pure _
  · exact Act.onlyTells_tell _

theorem onlyTells_checkVersions (s : Setup) : Act.OnlyTells s.checkVersions := by
  unfold checkVersions
  split
  · exact (Act.onlyTells_tell _).bind fun _ => Act.onlyTells_pure _
  · exact Act.onlyTells_pure _

theorem onlyTells_chooseLookup (s : Setup) (host : Host) : Act.OnlyTells (s.chooseLookup host) := by
  unfold chooseLookup
  split
  · exact Act.onlyTells_pure _
  · refine Act.OnlyTells.bind ?_ fun _ => Act.onlyTells_pure _
    exact (Act.onlyTells_tell _).bind fun _ => Act.onlyTells_pure _

theorem onlyTells_build (s : Setup) (host : Host) : Act.OnlyTells (s.build host) :=
  s.onlyTells_checkPreference.bind fun _ => s.onlyTells_checkVersions.bind fun _ =>
    (s.onlyTells_chooseLookup host).bind fun _ => Act.onlyTells_pure _

end Setup

end Transports
