import Transports.Event
import Transports.Handle.Basic
/-!
# Histories

What a computation does beyond its answer is a list of effects: questions, calls of members, and
events. A computation (`Act`) reads the history so far and appends to it. Collaborators may answer
differently each time; what they answer may depend on everything that happened before, and on
nothing else.
-/

namespace Transports

/-- Something that happened beyond the answer of a computation. -/
inductive Effect where
  /-- The namespace of a tier was asked for. -/
  | soughtNamespace (tier : Tier)
  /-- A type was asked for by namespace and relative name. -/
  | asked (space typeName : String)
  /-- The accessor of a handle was called. -/
  | consulted (handle : Handle.Id)
  /-- The constructor of a handle was called. -/
  | constructed (handle : Handle.Id) (threads : Nat)
  /-- An event was told. -/
  | told (event : Event)
deriving DecidableEq, Repr

/-- Everything that happened, oldest first. -/
abbrev History := List Effect

namespace History

/-- The events told, oldest first. -/
def events (h : History) : List Event :=
  h.filterMap fun
    | .told e => some e
    | _ => none

/-- The questions for types, oldest first. -/
def questions (h : History) : List (String × String) :=
  h.filterMap fun
    | .asked space typeName => some (space, typeName)
    | _ => none

/-- How often the accessor of a handle was called. -/
def consultations (h : History) (id : Handle.Id) : Nat :=
  h.countP (· == .consulted id)

/-- How often the constructor of a handle was called. -/
def constructions (h : History) (id : Handle.Id) : Nat :=
  h.countP fun
    | .constructed id' _ => id' == id
    | _ => false

@[simp] theorem events_append (h k : History) : (h ++ k).events = h.events ++ k.events := by
  simp [events]

@[simp] theorem questions_append (h k : History) :
    (h ++ k).questions = h.questions ++ k.questions := by
  simp [questions]

@[simp] theorem consultations_append (h k : History) (id : Handle.Id) :
    (h ++ k).consultations id = h.consultations id + k.consultations id := by
  simp [consultations]

@[simp] theorem constructions_append (h k : History) (id : Handle.Id) :
    (h ++ k).constructions id = h.constructions id + k.constructions id := by
  simp [constructions]

end History

/-- A computation that reads and extends a history. -/
abbrev Act := StateM History

namespace Act

def perform (e : Effect) : Act Unit :=
  modify (· ++ [e])

def tell (e : Event) : Act Unit :=
  perform (.told e)

@[simp] theorem run_perform (e : Effect) (h : History) : (perform e).run h = ((), h ++ [e]) := rfl

/-- A computation goes on from where the one before it ended. -/
theorem run_bind_of_run {α β : Type} {x : Act α} {k : α → Act β} {h h' : History} {a : α}
    (hx : x.run h = (a, h')) : (x >>= k).run h = (k a).run h' := by
  rw [StateT.run_bind, hx]
  rfl

end Act

/-- Calls the accessor of an entry point: why the backend cannot be used, if it cannot. -/
def Handle.consult (h : Handle) : Act (Except LookupFailure (Option Failure)) := do
  match h.accessor with
  | .error e => return .error e
  | .ok answer =>
    let past ← get
    Act.perform (.consulted h.id)
    return .ok (answer (past.consultations h.id))

end Transports
