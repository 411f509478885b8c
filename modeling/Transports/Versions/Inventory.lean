/-!
# Linked components

An artifact is a linked component with its version. The inventory of a list of artifacts keeps one
version for each component, the one reported last, in the order of the identifiers (by code point).
-/

namespace Transports

/-- A linked component and its version. -/
structure Artifact where
  id : String
  version : String
deriving DecidableEq, Repr

def Artifact.display (a : Artifact) : String :=
  a.id ++ "-" ++ a.version

namespace Inventory

/-- Puts an artifact in its place, over an earlier version of the same component. -/
def insert (a : Artifact) : List Artifact → List Artifact
  | [] => [a]
  | b :: l =>
    if a.id < b.id then a :: b :: l
    else if a.id = b.id then a :: l
    else b :: insert a l

/-- The last version of each component of a list. -/
def ofList (l : List Artifact) : List Artifact :=
  l.foldl (fun inv a => insert a inv) []

/-- Puts a text in its place in a strictly increasing list. -/
def insertText (s : String) : List String → List String
  | [] => [s]
  | t :: l =>
    if s < t then s :: t :: l
    else if s = t then t :: l
    else t :: insertText s l

/-- The different versions of an inventory, in increasing order. -/
def versions (inv : List Artifact) : List String :=
  inv.foldr (fun a l => insertText a.version l) []

theorem mem_insertText {s t : String} {l : List String} :
    t ∈ insertText s l ↔ t = s ∨ t ∈ l := by
  induction l with
  | nil => simp [insertText]
  | cons u l ih =>
    unfold insertText
    split
    · simp
    · split
      · next h => subst h; simp
      · simp only [List.mem_cons, ih]
        exact or_left_comm

theorem mem_versions {v : String} {inv : List Artifact} :
    v ∈ versions inv ↔ ∃ a ∈ inv, a.version = v := by
  induction inv with
  | nil => simp [versions]
  | cons b inv ih =>
    rw [versions, List.foldr_cons, mem_insertText, ← versions, ih]
    simp [eq_comm]

end Inventory

end Transports
