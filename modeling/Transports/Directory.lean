import Transports.Surroundings
/-!
# Directories of types

A directory holds handles under their own names, at most one for each name. A question joins
namespace and relative name as they stand, so only the joined text counts (`Directory.resolve`).
Inserting replaces what stood under the same name and changes no other answer
(`Directory.find?_insert`).
-/

namespace Transports

/-- Handles under their own names. -/
structure Directory where
  /-- The handles, the latest first. -/
  handles : List Handle := []
  /-- No two have the same name. -/
  names_ne : handles.Pairwise (·.name ≠ ·.name) := by simp

namespace Directory

def empty : Directory := {}

/-- Namespace and relative name, joined. -/
def qualified (space typeName : String) : String :=
  space ++ typeName

/-- Puts a handle under its name, in place of what stood there. -/
def insert (d : Directory) (h : Handle) : Directory where
  handles := h :: d.handles.filter (·.name ≠ h.name)
  names_ne := by
    refine List.pairwise_cons.2 ⟨fun k hk => ?_, d.names_ne.filter _⟩
    have := (List.mem_filter.1 hk).2
    simp only [ne_eq, decide_eq_true_eq] at this
    exact fun e => this e.symm

def insertAll (d : Directory) (l : List Handle) : Directory :=
  l.foldl insert d

def find? (d : Directory) (name : String) : Option Handle :=
  d.handles.find? (·.name == name)

def contains (d : Directory) (name : String) : Bool :=
  (d.find? name).isSome

def size (d : Directory) : Nat :=
  d.handles.length

def isEmpty (d : Directory) : Bool :=
  d.handles.isEmpty

/-- The handle that a namespace and a relative name lead to. -/
def resolve (d : Directory) (space typeName : String) : Except LookupFailure Handle :=
  match d.find? (qualified space typeName) with
  | some h => .ok h
  | none => .error (.notFound (qualified space typeName))

/-- The directory as a collaborator of detection. -/
def lookup (d : Directory) : Lookup :=
  fun _ space typeName => d.resolve space typeName

@[simp] theorem find?_empty (name : String) : empty.find? name = none := rfl

theorem find?_insert (d : Directory) (h : Handle) (name : String) :
    (d.insert h).find? name = if h.name = name then some h else d.find? name := by
  unfold insert find?
  by_cases e : h.name = name
  · simp [e]
  · simp only [List.find?_cons, e, List.find?_filter]
    simp only [beq_eq_false_iff_ne.2 e, if_false]
    congr 1
    funext k
    by_cases hk : k.name = name <;> simp [hk]
    exact fun e' => e e'.symm

theorem name_of_find? {d : Directory} {h : Handle} {name : String} (hf : d.find? name = some h) :
    h.name = name := by
  simpa using List.find?_some hf

theorem find?_eq_some_iff {d : Directory} {h : Handle} {name : String} :
    d.find? name = some h ↔ h ∈ d.handles ∧ h.name = name := by
  obtain ⟨l, hl⟩ := d
  simp only [find?]
  induction l with
  | nil => simp
  | cons k l ih =>
    obtain ⟨hk, hl⟩ := List.pairwise_cons.1 hl
    by_cases e : k.name = name
    · simp only [List.find?_cons, e, beq_self_eq_true, Option.some.injEq, List.mem_cons]
      constructor
      · rintro rfl
        exact ⟨.inl rfl, e⟩
      · rintro ⟨rfl | hm, he⟩
        · rfl
        · exact absurd (e.trans he.symm) (hk h hm)
    · simp only [List.find?_cons, beq_eq_false_iff_ne.2 e, ih hl, List.mem_cons]
      constructor
      · exact fun ⟨hm, he⟩ => ⟨.inr hm, he⟩
      · rintro ⟨rfl | hm, he⟩
        · exact absurd he e
        · exact ⟨hm, he⟩

theorem resolve_eq_ok_iff {d : Directory} {space typeName : String} {h : Handle} :
    d.resolve space typeName = .ok h ↔ d.find? (qualified space typeName) = some h := by
  unfold resolve
  split <;> simp_all

theorem resolve_eq_error_iff {d : Directory} {space typeName : String} {e : LookupFailure} :
    d.resolve space typeName = .error e ↔
      d.find? (qualified space typeName) = none ∧ e = .notFound (qualified space typeName) := by
  unfold resolve
  cases h : d.find? (qualified space typeName) <;> simp [eq_comm]

/-- An insertion under a new name makes the directory larger by one; under an old name its size
stays. -/
theorem size_insert (d : Directory) (h : Handle) :
    (d.insert h).size = if d.contains h.name then d.size else d.size + 1 := by
  obtain ⟨l, hl⟩ := d
  simp only [size, insert, contains, find?, List.length_cons]
  induction l with
  | nil => simp
  | cons k l ih =>
    obtain ⟨hk, hl⟩ := List.pairwise_cons.1 hl
    by_cases e : k.name = h.name
    · have : l.filter (fun j => decide (j.name ≠ h.name)) = l :=
        List.filter_eq_self.2 fun j hj => by simpa using fun ej => hk j hj (e.trans ej.symm)
      simp only [List.filter_cons, e, ne_eq, not_true_eq_false, decide_false, Bool.false_eq_true,
        if_false, List.find?_cons, beq_self_eq_true, Option.isSome_some, if_true, List.length_cons]
      exact congrArg (·.length + 1) this
    · simp only [List.filter_cons, ne_eq, e, not_false_eq_true, decide_true, if_true,
        List.length_cons, List.find?_cons, beq_eq_false_iff_ne.2 e]
      rw [← apply_ite (· + 1)]
      exact congrArg (· + 1) (ih hl)

end Directory

end Transports
