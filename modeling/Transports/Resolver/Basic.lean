import Transports.Detection
import Transports.Fallback
/-!
# Resolvers

A resolver holds the record of every transport. A record is computed when it is first asked for and
kept for good (`Resolver.get`), so nothing is touched that nobody asks for, and nothing twice.
`Resolver.preferred` chooses the transport to use: the one that the settings name if it is
available, else the first available of epoll and kqueue, else the fallback.
-/

namespace Transports

/-- What the records depend on, and what was said of the linked versions. -/
structure Resolver where
  settings : Settings
  surroundings : Surroundings
  /-- The verdict on the linked versions, if they were checked. -/
  verdict? : Option Verdict

/-- The records computed so far. -/
structure Memory where
  record? : Transport → Option Capability := fun _ => none
  /-- How many records were computed. -/
  computed : Nat := 0

/-- Keeps the record that was computed for a transport. -/
def Memory.store (m : Memory) (t : Transport) (c : Capability) : Memory where
  record? u := if u = t then some c else m.record? u
  computed := m.computed + 1

@[simp] theorem Memory.record?_store (m : Memory) (t u : Transport) (c : Capability) :
    (m.store t c).record? u = if u = t then some c else m.record? u := rfl

@[simp] theorem Memory.computed_store (m : Memory) (t : Transport) (c : Capability) :
    (m.store t c).computed = m.computed + 1 := rfl

/-- A computation that also reads and fills a memory. -/
abbrev Session := StateT Memory Act

/-- A session goes on from where the one before it ended. -/
theorem Session.run_bind_of_run {α β : Type} {x : Session α} {k : α → Session β} {m m' : Memory}
    {h h' : History} {a : α} (hx : (x.run m).run h = ((a, m'), h')) :
    ((x >>= k).run m).run h = ((k a).run m').run h' := by
  rw [StateT.run_bind, Act.run_bind_of_run hx]

/-- What leaves the memory alone, as a session. -/
theorem Session.run_lift {α : Type} {x : Act α} {m : Memory} {h h' : History} {a : α}
    (hx : x.run h = (a, h')) : ((liftM x : Session α).run m).run h = ((a, m), h') := by
  show (x >>= fun a => pure (a, m)).run h = _
  rw [Act.run_bind_of_run hx]
  rfl

/-- A session whose memory is given up at the end. -/
theorem Session.run_run' {α : Type} {x : Session α} {m m' : Memory} {past now : History} {a : α}
    (hx : (x.run m).run past = ((a, m'), now)) : (x.run' m).run past = (a, now) := by
  show (x.run m >>= fun p => pure p.1).run past = _
  rw [Act.run_bind_of_run hx]
  rfl

namespace Resolver

/-- Computes the record of a transport, whether it is kept already or not. -/
def compute (r : Resolver) (t : Transport) : Act Capability :=
  match Declaration.of? t with
  | none => Fallback.capability
  | some d => d.detect r.settings r.surroundings

/-- The record of a transport, computed if this is the first time. -/
def get (r : Resolver) (t : Transport) : Session Capability := do
  match (← getThe Memory).record? t with
  | some c => return c
  | none =>
    let c ← r.compute t
    modifyThe Memory (·.store t c)
    return c

def getByName? (r : Resolver) (name : String) : Session (Option Capability) :=
  match Transport.ofText name with
  | .error _ => return none
  | .ok t => return some (← r.get t)

def firstRecords (r : Resolver) (n : Nat) : Session (List Capability) :=
  (Transport.all.take n).mapM r.get

def records (r : Resolver) : Session (List Capability) :=
  Transport.all.mapM r.get

/-- The record of the transport that the settings name, if it is available. -/
def chosen? (r : Resolver) : Session (Option Capability) :=
  match r.settings.preferred? with
  | none => return none
  | some t => do
    let c ← r.get t
    if c.isAvailable then
      return some c
    else
      Act.tell (.preferenceUnavailable c.name)
      return none

/-- The first available record of a list of transports; those after it are left alone. -/
def firstAvailable? (r : Resolver) : List Transport → Session (Option Capability)
  | [] => return none
  | t :: l => do
    let c ← r.get t
    if c.isAvailable then return some c else r.firstAvailable? l

/-- The record of the transport to use. -/
def preferred (r : Resolver) : Session Capability := do
  match ← r.chosen? with
  | some c => return c
  | none =>
    match ← r.firstAvailable? [.epoll, .kqueue] with
    | some c => return c
    | none => r.get .nio

/-! ## What asking does to the memory -/

theorem run_get_of_known {r : Resolver} {t : Transport} {m : Memory} {c : Capability}
    {past : History} (h : m.record? t = some c) : ((r.get t).run m).run past = ((c, m), past) := by
  have hget : ((getThe Memory : Session Memory).run m).run past = ((m, m), past) := rfl
  unfold get
  rw [Session.run_bind_of_run hget, h]
  rfl

theorem run_get_of_unknown {r : Resolver} {t : Transport} {m : Memory} {past : History}
    (h : m.record? t = none) :
    ((r.get t).run m).run past =
      ((((r.compute t).run past).1, m.store t ((r.compute t).run past).1),
        ((r.compute t).run past).2) := by
  have hget : ((getThe Memory : Session Memory).run m).run past = ((m, m), past) := rfl
  have hcompute : ((liftM (r.compute t) : Session Capability).run m).run past =
      ((((r.compute t).run past).1, m), ((r.compute t).run past).2) := Session.run_lift rfl
  unfold get
  rw [Session.run_bind_of_run hget, h]
  exact Session.run_bind_of_run hcompute

end Resolver

end Transports
