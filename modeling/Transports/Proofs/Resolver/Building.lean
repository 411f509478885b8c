import Transports.Resolver.Setup
/-!
# What building does

A setup is built into one resolver, and building tells events and does nothing else: what it tells
and what the resolver holds is read off the setup alone (`Setup.run_build`), whatever happened
before. The verdict is there exactly if the settings ask for it, and does not matter to anything but
itself.
-/

namespace Transports

namespace Setup

def verdict? (s : Setup) : Option Verdict :=
  if s.settings.warnVersions then some (.of (s.artifacts?.getD linkedArtifacts)) else none

def surroundings (s : Setup) (host : Host) : Surroundings where
  lookup := s.lookup?.getD (Directory.native host).lookup
  namespaceOf := s.namespaceOf?.getD ({} : Namespaces).source

def resolver (s : Setup) (host : Host) : Resolver where
  settings := s.settings
  surroundings := s.surroundings host
  verdict? := s.verdict?

/-- What is told of the preference: the fault, if it names no transport. -/
def preferenceNews (s : Setup) : List Event :=
  match s.settings.check with
  | .ok () => []
  | .error e => [.preferenceIgnored e]

/-- What is told of the directory: its size, if it is set up because no other lookup is given. -/
def directoryNews (s : Setup) (host : Host) : List Event :=
  match s.lookup? with
  | some _ => []
  | none => [.directoryBuilt (Directory.native host).size]

def news (s : Setup) (host : Host) : List Event :=
  s.preferenceNews ++ s.verdict?.toList.map Verdict.event ++ s.directoryNews host

section
variable (s : Setup) (host : Host) (past : History)

theorem isSome_verdict?_iff : s.verdict?.isSome = true ↔ s.settings.warnVersions = true := by
  unfold verdict?
  split <;> simp_all

theorem run_checkPreference :
    s.checkPreference.run past = ((), past ++ s.preferenceNews.map .told) := by
  unfold checkPreference preferenceNews
  cases s.settings.check with
  | ok => exact Prod.ext rfl (List.append_nil past).symm
  | error e => rfl

theorem run_checkVersions :
    s.checkVersions.run past =
      (s.verdict?, past ++ (s.verdict?.toList.map Verdict.event).map .told) := by
  unfold checkVersions verdict?
  cases s.settings.warnVersions with
  | true => rfl
  | false => exact Prod.ext rfl (List.append_nil past).symm

theorem run_chooseLookup :
    (s.chooseLookup host).run past =
      ((s.surroundings host).lookup, past ++ (s.directoryNews host).map .told) := by
  unfold chooseLookup surroundings directoryNews
  cases s.lookup? with
  | some lookup => exact Prod.ext rfl (List.append_nil past).symm
  | none => rfl

/-- **Building gives one resolver and tells its news**, and does nothing else. -/
theorem run_build :
    (s.build host).run past = (s.resolver host, past ++ (s.news host).map .told) := by
  unfold build
  rw [Act.run_bind_of_run (s.run_checkPreference past),
    Act.run_bind_of_run (s.run_checkVersions _), Act.run_bind_of_run (s.run_chooseLookup host _)]
  refine Prod.ext rfl ?_
  simp only [news, List.map_append, List.append_assoc]
  rfl

end

end Setup

end Transports
