import Mathlib.Data.List.Induction
import Mathlib.Data.List.Nodup
import Transports.Directory
/-!
# Rows of insertions

What stands under a name after a row of insertions is the last handle of that name, or what stood
there before if there is none (`find?_insertAll`). So a row of handles with different names is found
whole (`resolve_insertAll_of_mem`), and no other name notices it (`resolve_insertAll_of_ne`).
-/

namespace Transports.Directory

variable {d : Directory} {l : List Handle} {name space typeName : String}

theorem insertAll_append (d : Directory) (l l' : List Handle) :
    d.insertAll (l ++ l') = (d.insertAll l).insertAll l' :=
  List.foldl_append

/-- **The last insertion under a name counts.** -/
theorem find?_insertAll (d : Directory) (l : List Handle) (name : String) :
    (d.insertAll l).find? name = (l.reverse.find? (·.name == name)).or (d.find? name) := by
  induction l using List.reverseRecOn with
  | nil => rfl
  | append_singleton l h ih =>
    have hlast : d.insertAll (l ++ [h]) = (d.insertAll l).insert h := insertAll_append d l [h]
    rw [hlast, find?_insert, ih, List.reverse_append, List.reverse_singleton, List.singleton_append,
      List.find?_cons]
    by_cases hname : h.name = name
    · rw [if_pos hname, beq_iff_eq.2 hname, Option.some_or]
    · rw [if_neg hname, beq_eq_false_iff_ne.2 hname]

theorem find?_insertAll_of_ne (hne : ∀ h ∈ l, h.name ≠ name) :
    (d.insertAll l).find? name = d.find? name := by
  have hnone : l.reverse.find? (·.name == name) = none := by
    refine List.find?_eq_none.2 fun h hh heq => ?_
    exact hne h (List.mem_reverse.1 hh) (beq_iff_eq.1 heq)
  rw [find?_insertAll, hnone, Option.none_or]

theorem find?_insertAll_of_mem (hnodup : (l.map (·.name)).Nodup) {h : Handle} (hh : h ∈ l) :
    (d.insertAll l).find? h.name = some h := by
  -- some handle of that name is the last one, and there is only one of that name
  obtain ⟨k, hk⟩ : ∃ k, l.reverse.find? (·.name == h.name) = some k := by
    rw [← Option.isSome_iff_exists, List.find?_isSome]
    exact ⟨h, List.mem_reverse.2 hh, beq_self_eq_true _⟩
  have hkl : k ∈ l := List.mem_reverse.1 (List.mem_of_find?_eq_some hk)
  have hname : k.name = h.name := by simpa using List.find?_some hk
  rw [find?_insertAll, hk, Option.some_or, List.inj_on_of_nodup_map hnodup hkl hh hname]

theorem resolve_insertAll_of_ne (hne : ∀ h ∈ l, h.name ≠ qualified space typeName) :
    (d.insertAll l).resolve space typeName = d.resolve space typeName := by
  simp only [resolve, find?_insertAll_of_ne hne]

theorem resolve_insertAll_of_mem (hnodup : (l.map (·.name)).Nodup) {h : Handle} (hh : h ∈ l)
    (hname : h.name = qualified space typeName) :
    (d.insertAll l).resolve space typeName = .ok h :=
  resolve_eq_ok_iff.2 (hname ▸ find?_insertAll_of_mem hnodup hh)

/-- Handles with new and different names make the directory larger by their number. -/
theorem size_insertAll (hnodup : (l.map (·.name)).Nodup)
    (hnew : ∀ h ∈ l, d.find? h.name = none) : (d.insertAll l).size = d.size + l.length := by
  induction l generalizing d with
  | nil => rfl
  | cons h l ih =>
    obtain ⟨hh, hnodup⟩ := List.nodup_cons.1 hnodup
    have hsize : (d.insert h).size = d.size + 1 := by
      rw [size_insert, contains, hnew h List.mem_cons_self]
      rfl
    have hnew' : ∀ k ∈ l, (d.insert h).find? k.name = none := by
      intro k hk
      have hne : h.name ≠ k.name := fun e => hh (List.mem_map.2 ⟨k, hk, e.symm⟩)
      rw [find?_insert, if_neg hne]
      exact hnew k (List.mem_cons_of_mem _ hk)
    calc ((d.insert h).insertAll l).size
        = (d.insert h).size + l.length := ih hnodup hnew'
      _ = d.size + (h :: l).length := by rw [hsize, List.length_cons]; omega

end Transports.Directory
