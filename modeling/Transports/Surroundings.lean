import Transports.Failure.Strip
import Transports.History
/-!
# Where types come from

Detection has two collaborators: one that tells the namespace of a tier and one that finds a type by
namespace and relative name. Both may be anything, and their answers may change from call to call.
`Namespaces` is the usual first one: a fixed namespace for each tier, or none.
-/

namespace Transports

/-- Finds a type by namespace and relative name, after a history. -/
abbrev Lookup := History → String → String → Except LookupFailure Handle

/-- Tells the namespace of a tier, after a history. -/
abbrev NamespaceSource := History → Tier → Option String

/-- The namespace of the stable built-in backends. -/
def Namespaces.builtInStandard : String := "netcap_native::channel"

/-- The namespace of the experimental built-in backends. -/
def Namespaces.builtInIncubator : String := "netcap_native::incubator::channel"

/-- A namespace for each tier, or none. -/
structure Namespaces where
  standard : Option String := some Namespaces.builtInStandard
  incubator : Option String := some Namespaces.builtInIncubator
deriving DecidableEq, Repr

namespace Namespaces

def get (n : Namespaces) : Tier → Option String
  | .standard => n.standard
  | .incubator => n.incubator

/-- The same namespaces, with that of one tier withheld. -/
def without (n : Namespaces) : Tier → Namespaces
  | .standard => { n with standard := none }
  | .incubator => { n with incubator := none }

theorem get_without (n : Namespaces) (t u : Tier) :
    (n.without t).get u = if t = u then none else n.get u := by
  cases t <;> cases u <;> rfl

def source (n : Namespaces) : NamespaceSource :=
  fun _ tier => n.get tier

end Namespaces

/-- What detection asks. -/
structure Surroundings where
  lookup : Lookup
  namespaceOf : NamespaceSource

/-- What the failure to find or use a type makes of a backend. -/
def Cause.ofLookup (e : LookupFailure) : Cause :=
  .resolutionFailure (Failure.lookup e).strip

namespace Surroundings

/-- Asks for the namespace of a tier. -/
def seek (s : Surroundings) (tier : Tier) : Act (Option String) := do
  let past ← get
  Act.perform (.soughtNamespace tier)
  return s.namespaceOf past tier

/-- Asks for a type, and expects it to play a role. -/
def find (s : Surroundings) (space typeName : String) (role : Role) : ExceptT Cause Act Handle :=
  ExceptT.mk do
    let past ← get
    Act.perform (.asked space typeName)
    return ((s.lookup past space typeName).bind (·.expect role)).mapError Cause.ofLookup

theorem run_seek (s : Surroundings) (tier : Tier) (past : History) :
    (s.seek tier).run past = (s.namespaceOf past tier, past ++ [.soughtNamespace tier]) := rfl

/-- A question is put whatever the answer, and nothing else is done. -/
theorem run_find (s : Surroundings) (space typeName : String) (role : Role) (past : History) :
    (s.find space typeName role).run past =
      (((s.lookup past space typeName).bind (·.expect role)).mapError Cause.ofLookup,
        past ++ [.asked space typeName]) := rfl

end Surroundings

end Transports
