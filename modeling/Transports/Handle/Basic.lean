import Transports.Failure.Basic
import Transports.Text.Segment
/-!
# Handles of types

A handle stands for a type that is known only at run time: a name, a role and at most one member
that can be called, the accessor of an entry point or the constructor of a group type. Two handles
are the same (`Handle.same`) if they go back to one creation, and equal (`==`) if role and name
agree.
-/

namespace Transports

/-- What a loop of a group owns. -/
inductive Resource where
  /-- Nothing: a portable loop needs no handle of the system. -/
  | portable
  /-- A multiplexer of the system, by the number of its descriptor. -/
  | descriptor (n : Nat)
deriving DecidableEq, Repr

/-- The constructor of a group type. -/
structure Constructor where
  /-- The transport that its groups carry. -/
  transport : String
  /-- What call `k` (from 0) does: fail at once, or open the loops of a group by the given calls. -/
  attempt : Nat → Except Failure (Nat → Except IoFailure Resource)

/-- The member of a type that can be called. -/
inductive Member where
  | none
  /-- Tells on call `k` (from 0) why the backend cannot be used, if it cannot. -/
  | accessor (answer : Nat → Option Failure)
  | constructor (make : Constructor)

/-- A type known only at run time. -/
structure Handle where
  /-- The number of the creation that the handle goes back to; built-in types need none beside the
  name. -/
  serial? : Option Nat
  name : String
  role : Role
  member : Member

namespace Handle

/-- What tells one creation from another. -/
structure Id where
  name : String
  serial? : Option Nat
deriving DecidableEq, Repr

/-- The creation that a handle goes back to. -/
def id (h : Handle) : Id :=
  ⟨h.name, h.serial?⟩

/-- A type without members. -/
def plain (serial? : Option Nat) (name : String) (role : Role) : Handle :=
  ⟨serial?, name, role, .none⟩

def entryPoint (serial? : Option Nat) (name : String) (answer : Nat → Option Failure) : Handle :=
  ⟨serial?, name, .entryPoint, .accessor answer⟩

def groupType (serial? : Option Nat) (name : String) (make : Constructor) : Handle :=
  ⟨serial?, name, .eventLoopGroup, .constructor make⟩

def simpleName (h : Handle) : String :=
  (Text.lastSegment? h.name).get (by simp [Text.lastSegment?_eq])

theorem simpleName_eq (h : Handle) : h.simpleName = Text.lastSegment h.name := by
  simp [simpleName, Text.lastSegment?_eq]

/-- Whether two handles go back to one creation. -/
def same (h k : Handle) : Bool :=
  h.id == k.id

theorem same_iff {h k : Handle} : h.same k = true ↔ h.id = k.id := by
  simp [same]

instance : BEq Handle where
  beq h k := h.same k || (h.role == k.role && h.name == k.name)

/-- The handle itself, if it plays the expected role. -/
def expect (h : Handle) (role : Role) : Except LookupFailure Handle :=
  if h.role = role then .ok h else .error (.roleMismatch h.name role h.role)

def accessor (h : Handle) : Except LookupFailure (Nat → Option Failure) :=
  match h.member with
  | .accessor answer => .ok answer
  | _ => .error (.missingMember h.name "unavailability cause accessor")

def constructor (h : Handle) : Except LookupFailure Constructor :=
  match h.member with
  | .constructor make => .ok make
  | _ => .error (.missingMember h.name "(thread count, thread factory) constructor")

def describe (h : Handle) : String :=
  "TypeHandle \x7b name: " ++ Text.quoted h.name ++ ", kind: " ++ h.role.name ++ " \x7d"

theorem expect_eq_ok_iff {h k : Handle} {role : Role} :
    h.expect role = .ok k ↔ h.role = role ∧ h = k := by
  unfold expect
  split <;> simp_all

theorem expect_eq_error_iff {h : Handle} {role : Role} {e : LookupFailure} :
    h.expect role = .error e ↔ h.role ≠ role ∧ e = .roleMismatch h.name role h.role := by
  unfold expect
  split <;> simp_all [eq_comm]

theorem accessor_eq_ok_iff {h : Handle} {answer : Nat → Option Failure} :
    h.accessor = .ok answer ↔ h.member = .accessor answer := by
  unfold accessor
  split <;> simp_all

theorem accessor_eq_error_iff {h : Handle} {e : LookupFailure} :
    h.accessor = .error e ↔ (∀ answer, h.member ≠ .accessor answer) ∧
      e = .missingMember h.name "unavailability cause accessor" := by
  unfold accessor
  split <;> simp_all [eq_comm]

theorem constructor_eq_ok_iff {h : Handle} {make : Constructor} :
    h.constructor = .ok make ↔ h.member = .constructor make := by
  unfold constructor
  split <;> simp_all

theorem constructor_eq_error_iff {h : Handle} {e : LookupFailure} :
    h.constructor = .error e ↔ (∀ make, h.member ≠ .constructor make) ∧
      e = .missingMember h.name "(thread count, thread factory) constructor" := by
  unfold constructor
  split <;> simp_all [eq_comm]

end Handle

end Transports
