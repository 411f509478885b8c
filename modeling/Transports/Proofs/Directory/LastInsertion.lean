import Mathlib.Data.Finset.Dedup
import Mathlib.Data.Finset.Card
import Transports.Proofs.Detection.Isolation
import Transports.Proofs.Directory.Insertions
/-!
# A directory and what was put into it

What a directory answers is told by the row of insertions that filled it: a question is answered by
the last handle under the joined name (`Directory.LastOf`), and there are as many handles as
different names. What stands under each name makes out a directory (`Directory.perm_handles`), so
rows of handles with different names may be put in in any order
(`Directory.sameAnswers_insertAll_of_perm`). `directory_tells_insertions` has it all.
-/

namespace Transports

namespace Directory

variable {d d' : Directory} {l m m' : List Handle} {h : Handle} {name : String}

/-- The last handle of a name in a row. -/
def LastOf (l : List Handle) (name : String) (h : Handle) : Prop :=
  ∃ before after, l = before ++ h :: after ∧ h.name = name ∧ ∀ k ∈ after, k.name ≠ name

theorem find?_reverse_eq_some_iff :
    l.reverse.find? (·.name == name) = some h ↔ LastOf l name h := by
  rw [List.find?_eq_some_iff_append]
  constructor
  · rintro ⟨hname, after, before, hl, hafter⟩
    refine ⟨before.reverse, after.reverse, ?_, by simpa using hname, ?_⟩
    · rw [← List.reverse_reverse l, hl]
      simp
    · intro k hk
      simpa using hafter k (List.mem_reverse.1 hk)
  · rintro ⟨before, after, rfl, hname, hafter⟩
    refine ⟨by simpa using hname, after.reverse, before.reverse, by simp, ?_⟩
    intro k hk
    simpa using hafter k (List.mem_reverse.1 hk)

/-! ## What a row of insertions leaves -/

/-- **The last handle under a name counts.** -/
theorem find?_insertAll_empty_eq_some_iff :
    (empty.insertAll l).find? name = some h ↔ LastOf l name h := by
  rw [find?_insertAll, find?_empty, Option.or_none, find?_reverse_eq_some_iff]

theorem find?_insertAll_empty_eq_none_iff :
    (empty.insertAll l).find? name = none ↔ ∀ k ∈ l, k.name ≠ name := by
  rw [find?_insertAll, find?_empty, Option.or_none, List.find?_eq_none]
  simp

theorem contains_insertAll_empty_iff :
    (empty.insertAll l).contains name = true ↔ ∃ k ∈ l, k.name = name := by
  have hnone : (empty.insertAll l).find? name = none ↔ ∀ k ∈ l, k.name ≠ name :=
    find?_insertAll_empty_eq_none_iff
  unfold contains
  by_cases hmem : ∃ k ∈ l, k.name = name
  · have hsome : (empty.insertAll l).find? name ≠ none := by
      intro hno
      obtain ⟨k, hk, hname⟩ := hmem
      exact hnone.1 hno k hk hname
    simp [Option.isSome_iff_ne_none, hsome, hmem]
  · have hno : (empty.insertAll l).find? name = none := by
      refine hnone.2 fun k hk hname => hmem ⟨k, hk, hname⟩
    simp [hno, hmem]

/-- The handles of a directory are those that are found under their own names. -/
theorem mem_handles_iff : h ∈ d.handles ↔ d.find? h.name = some h := by
  rw [find?_eq_some_iff]
  simp

theorem nodup_names (d : Directory) : (d.handles.map (·.name)).Nodup := by
  rw [List.nodup_iff_pairwise_ne, List.pairwise_map]
  exact d.names_ne

theorem contains_iff_mem_names : d.contains name = true ↔ name ∈ d.handles.map (·.name) := by
  unfold contains
  rw [Option.isSome_iff_exists, List.mem_map]
  simp only [find?_eq_some_iff]

/-- **A row of insertions leaves a handle for each name.** -/
theorem size_insertAll_empty (l : List Handle) :
    (empty.insertAll l).size = (l.map (·.name)).toFinset.card := by
  have hnames : ((empty.insertAll l).handles.map (·.name)).toFinset =
      (l.map (·.name)).toFinset := by
    ext name
    rw [List.mem_toFinset, List.mem_toFinset, ← contains_iff_mem_names,
      contains_insertAll_empty_iff, List.mem_map]
  have hcard := List.toFinset_card_of_nodup (nodup_names (empty.insertAll l))
  rw [hnames, List.length_map] at hcard
  exact hcard.symm

theorem isEmpty_insertAll_empty_iff : (empty.insertAll l).isEmpty = true ↔ l = [] := by
  constructor
  · intro hempty
    have hzero : (empty.insertAll l).size = 0 := by
      simpa [isEmpty, size] using hempty
    rw [size_insertAll_empty, Finset.card_eq_zero, List.toFinset_eq_empty_iff] at hzero
    exact List.map_eq_nil_iff.1 hzero
  · rintro rfl
    rfl

/-- An insertion answers the questions for its own name, and no others. -/
theorem resolve_insert (d : Directory) (h : Handle) (space typeName : String) :
    (d.insert h).resolve space typeName =
      if h.name = space ++ typeName then .ok h else d.resolve space typeName := by
  unfold resolve qualified
  rw [find?_insert]
  by_cases hname : h.name = space ++ typeName
  · simp [hname]
  · simp [hname]

theorem contains_insert (d : Directory) (h : Handle) (name : String) :
    (d.insert h).contains name = (h.name == name || d.contains name) := by
  unfold contains
  rw [find?_insert]
  by_cases hname : h.name = name
  · simp [hname]
  · simp [hname]

/-! ## Directories with the same answers -/

/-- Two directories answer every question alike. -/
structure SameAnswers (d d' : Directory) : Prop where
  resolve : ∀ space typeName, d.resolve space typeName = d'.resolve space typeName
  contains : ∀ name, d.contains name = d'.contains name
  size : d.size = d'.size
  isEmpty : d.isEmpty = d'.isEmpty

/-- **What stands under each name makes out a directory**, up to the order of its handles. -/
theorem perm_handles (hfind : ∀ name, d.find? name = d'.find? name) :
    d.handles.Perm d'.handles := by
  refine (List.perm_ext_iff_of_nodup (nodup_names d).of_map (nodup_names d').of_map).2 fun h => ?_
  rw [mem_handles_iff, mem_handles_iff, hfind]

theorem sameAnswers_of_find?_eq (hfind : ∀ name, d.find? name = d'.find? name) :
    SameAnswers d d' := by
  have hperm := perm_handles hfind
  refine ⟨fun space typeName => resolve_congr (hfind _), fun name => ?_, hperm.length_eq, ?_⟩
  · simp only [contains, hfind]
  · exact hperm.isEmpty_eq

/-- In a row without two handles of one name, the last handle of a name is the only one. -/
theorem lastOf_iff_mem (hnodup : (l.map (·.name)).Nodup) :
    LastOf l name h ↔ h ∈ l ∧ h.name = name := by
  constructor
  · rintro ⟨before, after, rfl, hname, -⟩
    exact ⟨by simp, hname⟩
  · rintro ⟨hmem, rfl⟩
    obtain ⟨before, after, rfl⟩ := List.append_of_mem hmem
    refine ⟨before, after, rfl, rfl, fun k hk hname => ?_⟩
    rw [List.map_append, List.map_cons, List.nodup_append, List.nodup_cons] at hnodup
    exact hnodup.2.1.1 (List.mem_map.2 ⟨k, hk, hname⟩)

/-- **Insertions under different names commute**, whatever the directory holds. -/
theorem sameAnswers_insertAll_of_perm (d : Directory) (hperm : m.Perm m')
    (hnodup : (m.map (·.name)).Nodup) : SameAnswers (d.insertAll m) (d.insertAll m') := by
  refine sameAnswers_of_find?_eq fun name => ?_
  have hnodup' : (m'.map (·.name)).Nodup := (hperm.map _).nodup_iff.1 hnodup
  have hlast : m.reverse.find? (·.name == name) = m'.reverse.find? (·.name == name) := by
    refine Option.ext fun h => ?_
    rw [find?_reverse_eq_some_iff, find?_reverse_eq_some_iff, lastOf_iff_mem hnodup,
      lastOf_iff_mem hnodup', hperm.mem_iff]
  rw [find?_insertAll, find?_insertAll, hlast]

end Directory

open Directory

/-- **A directory tells what was put into it.** A question is answered by the last handle that was
put in under the joined name, itself, or it fails with that name; so only the joined name counts,
however it is split, and whatever was asked before. The directory contains the names that were put
in, its size is the number of different ones, an insertion counts for its own name only, and
handles with different names may be put in in any order. -/
theorem directory_tells_insertions (l : List Handle) :
    (∀ space typeName,
      (∀ h, (empty.insertAll l).resolve space typeName = .ok h ↔ LastOf l (space ++ typeName) h) ∧
      (∀ e, (empty.insertAll l).resolve space typeName = .error e ↔
        (∀ k ∈ l, k.name ≠ space ++ typeName) ∧ e = .notFound (space ++ typeName)) ∧
      (∀ h, (empty.insertAll l).resolve space typeName = .ok h → h.name = space ++ typeName) ∧
      (∀ space' typeName', space ++ typeName = space' ++ typeName' →
        (empty.insertAll l).resolve space typeName =
          (empty.insertAll l).resolve space' typeName') ∧
      ∀ past, (empty.insertAll l).lookup past space typeName =
        (empty.insertAll l).resolve space typeName) ∧
    (∀ name, (empty.insertAll l).contains name = true ↔ ∃ k ∈ l, k.name = name) ∧
    (empty.insertAll l).size = (l.map (·.name)).toFinset.card ∧
    ((empty.insertAll l).isEmpty = true ↔ l = []) ∧
    (∀ h,
      (∀ space typeName, ((empty.insertAll l).insert h).resolve space typeName =
        if h.name = space ++ typeName then .ok h
        else (empty.insertAll l).resolve space typeName) ∧
      ∀ name, ((empty.insertAll l).insert h).contains name =
        (h.name == name || (empty.insertAll l).contains name)) ∧
    ∀ m m', m.Perm m' → (m.map (·.name)).Nodup →
      SameAnswers ((empty.insertAll l).insertAll m) ((empty.insertAll l).insertAll m') := by
  refine ⟨fun space typeName => ⟨fun h => ?_, fun e => ?_, fun h => name_of_resolve, ?_,
    fun past => rfl⟩, fun name => contains_insertAll_empty_iff, size_insertAll_empty l,
    isEmpty_insertAll_empty_iff, fun h => ⟨resolve_insert _ h, contains_insert _ h⟩,
    fun m m' => sameAnswers_insertAll_of_perm _⟩
  · rw [resolve_eq_ok_iff, find?_insertAll_empty_eq_some_iff]
    rfl
  · rw [resolve_eq_error_iff, find?_insertAll_empty_eq_none_iff]
    rfl
  · intro space' typeName' hjoined
    unfold resolve qualified
    rw [hjoined]

end Transports
