import Transports.Failure.Strip
import Transports.History
import Transports.Host
import Transports.LoopGroup.Opening
/-!
# Making groups

`BoundConstructor.bind` takes the constructor of a group type and keeps it with the name of a
transport; `BoundConstructor.construct` makes a group with it. All loops open and one event is told,
or there is no group and no event, and the refusal names the transport.
-/

namespace Transports

/-- The constructor of a group type, bound to the name of a transport. -/
structure BoundConstructor where
  transport : String
  /-- The type whose groups it makes. -/
  groupType : Handle
  make : Constructor

/-- Turns a finished opening into a group, and tells of it. -/
def LoopGroup.launch {η : Type} (transport : String) (factory : ThreadFactory) (o : Opening η) :
    Act (Except IoFailure (LoopGroup η)) := do
  match LoopGroup.ofOpening transport factory o with
  | .error e => return .error e
  | .ok g =>
    Act.tell (.groupOpened transport g.threadCount)
    return .ok g

namespace BoundConstructor

def bind (transport : String) (groupType : Handle) : Except LookupFailure BoundConstructor :=
  groupType.constructor.map fun make => { transport, groupType, make }

/-- How many loops a request for `n` means on a host: as many as asked for, the default for none. -/
def effectiveThreads (host : Host) (n : Nat) : Nat :=
  if n = 0 then host.defaultThreads else n

/-- Makes a group of `n` loops, or of the default number if `n` is zero. -/
def construct (c : BoundConstructor) (host : Host) (n : Nat) (factory : ThreadFactory) :
    Act (Except Refusal (LoopGroup Resource)) := do
  let threads := effectiveThreads host n
  let past ← get
  Act.perform (.constructed c.groupType.id threads)
  match c.make.attempt (past.constructions c.groupType.id) with
  | .error e => return .error (.groupConstruction c.transport e.strip)
  | .ok openAt =>
    match ← LoopGroup.launch c.make.transport factory (Opening.run openAt threads) with
    | .error e => return .error (.groupConstruction c.transport (Failure.io e).strip)
    | .ok g => return .ok g

def describe (c : BoundConstructor) : String :=
  "EventLoopGroupConstructor \x7b transport: " ++ Text.quoted c.transport ++ ", group_type: " ++
    Text.quoted c.groupType.name ++ " \x7d"

section
variable {c : BoundConstructor} {host : Host} {n : Nat} {factory : ThreadFactory} {past : History}

/-- The constructor refuses: it was called, and there is no group. -/
theorem run_construct_of_refused {e : Failure}
    (ha : c.make.attempt (past.constructions c.groupType.id) = .error e) :
    (c.construct host n factory).run past =
      (.error (.groupConstruction c.transport e.strip),
        past ++ [.constructed c.groupType.id (effectiveThreads host n)]) := by
  unfold construct
  simp only [StateT.run_bind, StateT.run_get, pure_bind, Act.run_perform, ha]
  rfl

/-- The constructor agrees: the loops open, and one event is told if they all do. -/
theorem run_construct_of_agreed {openAt : Nat → Except IoFailure Resource}
    (ha : c.make.attempt (past.constructions c.groupType.id) = .ok openAt) :
    (c.construct host n factory).run past =
      match LoopGroup.ofOpening c.make.transport factory
          (Opening.run openAt (effectiveThreads host n)) with
      | .error e => (.error (.groupConstruction c.transport (Failure.io e).strip),
          past ++ [.constructed c.groupType.id (effectiveThreads host n)])
      | .ok g => (.ok g, past ++ [.constructed c.groupType.id (effectiveThreads host n),
          .told (.groupOpened c.make.transport g.threadCount)]) := by
  unfold construct LoopGroup.launch
  simp only [StateT.run_bind, StateT.run_get, pure_bind, Act.run_perform, ha]
  cases LoopGroup.ofOpening c.make.transport factory
    (Opening.run openAt (effectiveThreads host n)) with
  | error e => rfl
  | ok g => exact Prod.ext rfl (List.append_assoc ..)

end

theorem bind_eq_ok_iff {transport : String} {groupType : Handle} {c : BoundConstructor} :
    bind transport groupType = .ok c ↔
      c.transport = transport ∧ c.groupType = groupType ∧
        groupType.member = .constructor c.make := by
  unfold bind
  cases h : groupType.constructor with
  | error e =>
    have : ∀ make, groupType.member ≠ .constructor make := fun make hm => by
      simp [Handle.constructor_eq_ok_iff.2 hm] at h
    simp [Except.map, this]
  | ok make =>
    rw [Handle.constructor_eq_ok_iff] at h
    simp only [Except.map, Except.ok.injEq, h, Member.constructor.injEq]
    constructor
    · rintro rfl
      exact ⟨rfl, rfl, rfl⟩
    · rintro ⟨rfl, rfl, rfl⟩
      rfl

theorem bind_eq_error_iff {transport : String} {groupType : Handle} {e : LookupFailure} :
    bind transport groupType = .error e ↔ (∀ make, groupType.member ≠ .constructor make) ∧
      e = .missingMember groupType.name "(thread count, thread factory) constructor" := by
  rw [← Handle.constructor_eq_error_iff]
  unfold bind
  cases groupType.constructor <;> simp [Except.map]

end BoundConstructor

end Transports
