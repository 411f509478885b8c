import Transports.Versions.Inventory
/-!
# Do the linked versions agree?

The components of one family should all have one version; mixed versions risk undefined behaviour in
native calls. The family is told by the start of the identifier, and the incubator, which has
versions of its own, does not belong to it.
-/

namespace Transports

/-- What the versions of the family amount to. -/
inductive Verdict where
  /-- No component of the family reported a version. -/
  | unknown
  /-- Every component has this version. -/
  | consistent (version : String)
  /-- There are several versions. -/
  | inconsistent (versions : List String) (artifacts : List Artifact)
deriving DecidableEq, Repr

/-- The start of every identifier in the family. -/
def Artifact.familyStart : String := "netcap"

/-- The start of the identifiers that have versions of their own. -/
def Artifact.incubatorStart : String := "netcap-incubator"

/-- Whether a component belongs to the family. -/
def Artifact.inFamily (a : Artifact) : Bool :=
  familyStart.toList.isPrefixOf a.id.toList && !incubatorStart.toList.isPrefixOf a.id.toList

namespace Verdict

/-- The verdict on an inventory. -/
def ofInventory (inv : List Artifact) : Verdict :=
  match Inventory.versions inv with
  | [] => unknown
  | [v] => consistent v
  | versions => inconsistent versions inv

/-- The verdict on all components that were reported. -/
def of (reported : List Artifact) : Verdict :=
  ofInventory (Inventory.ofList (reported.filter Artifact.inFamily))

def isConsistent : Verdict → Bool
  | consistent _ => true
  | _ => false

theorem isConsistent_iff {v : Verdict} :
    v.isConsistent = true ↔ ∃ version, v = consistent version := by
  cases v <;> simp [isConsistent]

end Verdict

def programVersion : String := "0.1.0"

def nativeArtifacts : List Artifact :=
  [⟨"netcap-core", programVersion⟩, ⟨"netcap-native", programVersion⟩]

def linkedArtifacts : List Artifact :=
  nativeArtifacts ++ [⟨"netcap", programVersion⟩]

end Transports
