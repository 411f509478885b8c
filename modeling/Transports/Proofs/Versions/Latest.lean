import Mathlib.Data.List.Induction
import Mathlib.Data.List.Sort
import Mathlib.Data.String.Basic
import Mathlib.Logic.Relation
import Transports.Versions.Verdict
/-!
# The verdict goes by the latest versions

A list of reported components may name one component several times, and then its last entry counts.
`Artifact.latest?` sends each component of the family to the version in that entry. The inventory
is this map, written down in the order of the identifiers (`Inventory.mem_ofList_filter_iff`,
`Inventory.sorted_ofList`), so the verdict is read off the map alone, and whatever leaves the map
as it is leaves the verdict as it is (`verdict_of_latest`).
-/

namespace Transports

namespace Artifact

/-- Whether a component belongs to the family is told by its identifier. -/
theorem inFamily_congr {a b : Artifact} (h : a.id = b.id) : a.inFamily = b.inFamily := by
  simp only [inFamily, h]

/-! ## The latest versions -/

/-- The version in the last entry for a component of the family. -/
def latest? (reported : List Artifact) (id : String) : Option String :=
  (reported.reverse.find? fun a => a.inFamily && a.id == id).map (·.version)

section
variable {reported : List Artifact} {id v : String}

@[simp] theorem latest?_nil (id : String) : latest? [] id = none := rfl

theorem latest?_append (l l' : List Artifact) (id : String) :
    latest? (l ++ l') id = (latest? l' id).or (latest? l id) := by
  unfold latest?
  rw [List.reverse_append, List.find?_append, Option.map_or]

theorem latest?_singleton (a : Artifact) (id : String) :
    latest? [a] id = if a.inFamily = true ∧ a.id = id then some a.version else none := by
  by_cases h : a.inFamily = true ∧ a.id = id
  · simp [latest?, h]
  · rw [if_neg h]
    simpa [latest?] using h

/-- One more entry at the end counts for its own component, and for no other. -/
theorem latest?_concat (l : List Artifact) (a : Artifact) (id : String) :
    latest? (l ++ [a]) id =
      if a.inFamily = true ∧ a.id = id then some a.version else latest? l id := by
  rw [latest?_append, latest?_singleton]
  split <;> simp

/-- It is the last entry that counts: behind it the component does not come up again. -/
theorem latest?_eq_some_iff :
    latest? reported id = some v ↔
      ∃ before a after, reported = before ++ a :: after ∧ a.inFamily = true ∧ a.id = id ∧
        a.version = v ∧ ∀ b ∈ after, b.id ≠ id := by
  unfold latest?
  simp only [Option.map_eq_some_iff, List.find?_eq_some_iff_append, Bool.and_eq_true,
    beq_iff_eq, Bool.not_eq_true', Bool.and_eq_false_iff, beq_eq_false_iff_ne]
  constructor
  · rintro ⟨a, ⟨⟨hfamily, hid⟩, after, before, hl, hafter⟩, hv⟩
    refine ⟨before.reverse, a, after.reverse, ?_, hfamily, hid, hv, ?_⟩
    · rw [← List.reverse_reverse reported, hl]
      simp
    · intro b hb hbid
      rcases hafter b (List.mem_reverse.1 hb) with hb | hb
      · rw [inFamily_congr (hbid.trans hid.symm), hfamily] at hb
        cases hb
      · exact hb hbid
  · rintro ⟨before, a, after, rfl, hfamily, hid, hv, hafter⟩
    refine ⟨a, ⟨⟨hfamily, hid⟩, after.reverse, before.reverse, by simp, ?_⟩, hv⟩
    intro b hb
    exact .inr (hafter b (List.mem_reverse.1 hb))

/-- A latest version was reported. -/
theorem exists_of_latest? (h : latest? reported id = some v) :
    ∃ a ∈ reported, a.inFamily = true ∧ a.id = id ∧ a.version = v := by
  obtain ⟨before, a, after, rfl, hfamily, hid, hv, -⟩ := latest?_eq_some_iff.1 h
  exact ⟨a, by simp, hfamily, hid, hv⟩

/-- Each component of the family that was reported has a latest version. -/
theorem exists_latest? {a : Artifact} (ha : a ∈ reported) (hfamily : a.inFamily = true) :
    ∃ v, latest? reported a.id = some v := by
  refine Option.isSome_iff_exists.1 ?_
  simp only [latest?, Option.isSome_map, List.find?_isSome, List.mem_reverse]
  exact ⟨a, ha, by simp [hfamily]⟩

end

/-! ## Changes that tell nothing new -/

/-- A change to a list of reported components that leaves the latest versions as they are. -/
inductive Edit : List Artifact → List Artifact → Prop where
  /-- A component outside the family comes in. -/
  | outsider {l l' : List Artifact} {a : Artifact} :
    a.inFamily = false → Edit (l ++ l') (l ++ a :: l')
  /-- An entry comes in that a later one replaces. -/
  | outdated {l l' : List Artifact} {a b : Artifact} :
    b ∈ l' → b.id = a.id → Edit (l ++ l') (l ++ a :: l')
  /-- Neighbours of different identifiers change places. -/
  | swap {l l' : List Artifact} {a b : Artifact} :
    a.id ≠ b.id → Edit (l ++ a :: b :: l') (l ++ b :: a :: l')

/-- An entry counts as long as no later one is of the same component. -/
theorem latest?_cons (a : Artifact) (l : List Artifact) (id : String) :
    latest? (a :: l) id =
      (latest? l id).or (if a.inFamily = true ∧ a.id = id then some a.version else none) := by
  rw [← latest?_singleton]
  exact latest?_append [a] l id

theorem Edit.latest?_eq {l l' : List Artifact} (h : Edit l l') : latest? l = latest? l' := by
  funext id
  cases h with
  | outsider hfamily => simp [latest?_append, latest?_cons, hfamily]
  | @outdated l l' a b hb hid =>
    rw [latest?_append, latest?_append, latest?_cons]
    by_cases ha : a.inFamily = true ∧ a.id = id
    · -- the later entry `b` is of the same component, so `l'` has a version for it
      obtain ⟨v, hv⟩ := exists_latest? hb ((inFamily_congr hid).trans ha.1)
      rw [hid, ha.2] at hv
      simp [hv]
    · rw [if_neg ha, Option.or_none]
  | @swap l l' a b hne =>
    simp only [latest?_append, latest?_cons]
    by_cases ha : a.id = id
    · have hb : b.id ≠ id := fun hb => hne (ha.trans hb.symm)
      simp [hb]
    · simp [ha]

theorem latest?_eq_of_eqvGen {l l' : List Artifact} (h : Relation.EqvGen Edit l l') :
    latest? l = latest? l' := by
  induction h with
  | rel l l' h => exact h.latest?_eq
  | refl l => rfl
  | symm l l' _ ih => exact ih.symm
  | trans l l' l'' _ _ ih ih' => exact ih.trans ih'

end Artifact

/-! ## The inventory lists the latest versions -/

namespace Inventory

/-- The identifiers increase strictly along the list. -/
def Sorted (inv : List Artifact) : Prop :=
  inv.Pairwise fun a b => a.id < b.id

section
variable {inv : List Artifact} {a b : Artifact}

/-- An insertion replaces what stood under the same identifier, and keeps the rest. -/
theorem mem_insert (h : Sorted inv) : b ∈ insert a inv ↔ b = a ∨ b ∈ inv ∧ b.id ≠ a.id := by
  induction inv with
  | nil => simp [insert]
  | cons c inv ih =>
    obtain ⟨hc, hinv⟩ := List.pairwise_cons.1 h
    unfold insert
    split
    · next hlt =>
      -- nothing in the list has this identifier: all stand behind it
      have hne : b ∈ c :: inv → b.id ≠ a.id := by
        intro hb
        rcases List.mem_cons.1 hb with rfl | hb
        · exact hlt.ne'
        · exact (hlt.trans (hc b hb)).ne'
      rw [List.mem_cons]
      exact or_congr_right ⟨fun hb => ⟨hb, hne hb⟩, fun hb => hb.1⟩
    · split
      · next heq =>
        have hne : b ∈ inv → b.id ≠ a.id := fun hb => heq ▸ (hc b hb).ne'
        simp only [List.mem_cons]
        constructor
        · rintro (rfl | hb)
          · exact .inl rfl
          · exact .inr ⟨.inr hb, hne hb⟩
        · rintro (rfl | ⟨rfl | hb, hid⟩)
          · exact .inl rfl
          · exact absurd heq.symm hid
          · exact .inr hb
      · next heq =>
        simp only [List.mem_cons, ih hinv]
        constructor
        · rintro (rfl | rfl | ⟨hb, hid⟩)
          · exact .inr ⟨.inl rfl, fun he => heq he.symm⟩
          · exact .inl rfl
          · exact .inr ⟨.inr hb, hid⟩
        · rintro (rfl | ⟨rfl | hb, hid⟩)
          · exact .inr (.inl rfl)
          · exact .inl rfl
          · exact .inr (.inr ⟨hb, hid⟩)

theorem sorted_insert (h : Sorted inv) : Sorted (insert a inv) := by
  induction inv with
  | nil => exact List.pairwise_singleton _ _
  | cons c inv ih =>
    obtain ⟨hc, hinv⟩ := List.pairwise_cons.1 h
    unfold insert
    split
    · next hlt =>
      refine List.pairwise_cons.2 ⟨fun b hb => ?_, h⟩
      rcases List.mem_cons.1 hb with rfl | hb
      · exact hlt
      · exact hlt.trans (hc b hb)
    · split
      · next heq => exact List.pairwise_cons.2 ⟨fun b hb => heq ▸ hc b hb, hinv⟩
      · next hlt heq =>
        refine List.pairwise_cons.2 ⟨fun b hb => ?_, ih hinv⟩
        rcases (mem_insert hinv).1 hb with rfl | ⟨hb, -⟩
        · exact lt_of_le_of_ne (not_lt.1 hlt) fun he => heq he.symm
        · exact hc b hb

theorem ofList_concat (l : List Artifact) (a : Artifact) :
    ofList (l ++ [a]) = insert a (ofList l) := by
  simp [ofList]

theorem sorted_ofList (l : List Artifact) : Sorted (ofList l) := by
  induction l using List.reverseRecOn with
  | nil => exact .nil
  | append_singleton l a ih =>
    rw [ofList_concat]
    exact sorted_insert ih

/-- Sorted inventories with the same entries are the same. -/
theorem Sorted.eq_of_mem_iff {inv' : List Artifact} (h : Sorted inv) (h' : Sorted inv')
    (hmem : ∀ a, a ∈ inv ↔ a ∈ inv') : inv = inv' := by
  have : Std.Irrefl fun a b : Artifact => a.id < b.id := ⟨fun a => lt_irrefl a.id⟩
  refine List.Perm.eq_of_pairwise (fun a b _ _ hab hba => absurd hba hab.asymm) h h' ?_
  exact (List.perm_ext_iff_of_nodup h.nodup h'.nodup).2 hmem

end

section
variable {reported : List Artifact}

/-- **The inventory of the family** holds a component with its latest version, and nothing else. -/
theorem mem_ofList_filter_iff {b : Artifact} :
    b ∈ ofList (reported.filter Artifact.inFamily) ↔
      Artifact.latest? reported b.id = some b.version := by
  induction reported using List.reverseRecOn with
  | nil => simp [ofList]
  | append_singleton l a ih =>
    rw [List.filter_append, Artifact.latest?_concat]
    by_cases hfamily : a.inFamily = true
    · have hsingle : [a].filter Artifact.inFamily = [a] := by simp [hfamily]
      rw [hsingle, ofList_concat, mem_insert (sorted_ofList _), ih]
      by_cases hid : a.id = b.id
      · rw [if_pos ⟨hfamily, hid⟩]
        have hab : b = a ↔ a.version = b.version := by
          constructor
          · rintro rfl
            rfl
          · intro hversion
            cases a
            cases b
            cases hid
            cases hversion
            rfl
        simp [hab, hid]
      · rw [if_neg fun h => hid h.2]
        have hab : b ≠ a := fun h => hid (h ▸ rfl)
        simp [hab, Ne.symm hid]
    · have hnone : [a].filter Artifact.inFamily = [] := by simp [hfamily]
      rw [hnone, List.append_nil, ih, if_neg fun h => hfamily h.1]

/-- The latest versions determine the inventory. -/
theorem ofList_filter_congr {reported' : List Artifact}
    (h : Artifact.latest? reported = Artifact.latest? reported') :
    ofList (reported.filter Artifact.inFamily) = ofList (reported'.filter Artifact.inFamily) := by
  refine (sorted_ofList _).eq_of_mem_iff (sorted_ofList _) fun a => ?_
  rw [mem_ofList_filter_iff, mem_ofList_filter_iff, h]

/-! ## The versions of an inventory -/

theorem sorted_insertText {s : String} {l : List String} (h : l.Pairwise (· < ·)) :
    (insertText s l).Pairwise (· < ·) := by
  induction l with
  | nil => exact List.pairwise_singleton _ _
  | cons t l ih =>
    obtain ⟨ht, hl⟩ := List.pairwise_cons.1 h
    unfold insertText
    split
    · next hlt =>
      refine List.pairwise_cons.2 ⟨fun u hu => ?_, h⟩
      rcases List.mem_cons.1 hu with rfl | hu
      · exact hlt
      · exact hlt.trans (ht u hu)
    · split
      · exact h
      · next hlt heq =>
        refine List.pairwise_cons.2 ⟨fun u hu => ?_, ih hl⟩
        rcases mem_insertText.1 hu with rfl | hu
        · exact lt_of_le_of_ne (not_lt.1 hlt) fun he => heq he.symm
        · exact ht u hu

theorem sorted_versions (inv : List Artifact) : (versions inv).Pairwise (· < ·) := by
  induction inv with
  | nil => exact .nil
  | cons a inv ih => exact sorted_insertText ih

theorem mem_versions_ofList_filter_iff {v : String} :
    v ∈ versions (ofList (reported.filter Artifact.inFamily)) ↔
      ∃ id, Artifact.latest? reported id = some v := by
  rw [mem_versions]
  constructor
  · rintro ⟨a, ha, rfl⟩
    exact ⟨a.id, mem_ofList_filter_iff.1 ha⟩
  · rintro ⟨id, hid⟩
    exact ⟨⟨id, v⟩, mem_ofList_filter_iff.2 hid, rfl⟩

end

end Inventory

/-! ## The verdict -/

namespace Verdict

section
variable {inv artifacts : List Artifact} {v : String} {versions : List String}

theorem ofInventory_eq_unknown_iff :
    ofInventory inv = unknown ↔ ∀ v, v ∉ Inventory.versions inv := by
  rw [← List.eq_nil_iff_forall_not_mem]
  unfold ofInventory
  split <;> simp_all

theorem ofInventory_eq_consistent_iff :
    ofInventory inv = consistent v ↔
      (∃ w, w ∈ Inventory.versions inv) ∧ ∀ w ∈ Inventory.versions inv, w = v := by
  have hsingle : ofInventory inv = consistent v ↔ Inventory.versions inv = [v] := by
    unfold ofInventory
    split <;> simp_all
  rw [hsingle]
  constructor
  · intro h
    simp [h]
  · rintro ⟨⟨w, hw⟩, hall⟩
    refine (Inventory.sorted_versions inv).eq_of_mem_iff (List.pairwise_singleton _ v) fun u => ?_
    rw [List.mem_singleton]
    exact ⟨hall u, fun hu => by rwa [hu, ← hall w hw]⟩

theorem ofInventory_eq_inconsistent_iff :
    ofInventory inv = inconsistent versions artifacts ↔
      versions = Inventory.versions inv ∧ artifacts = inv ∧
        2 ≤ (Inventory.versions inv).length := by
  unfold ofInventory
  split
  · next h => simp [h]
  · next v h => simp [h]
  · next l hnil hsingle =>
    rw [inconsistent.injEq]
    have hlength : 2 ≤ (Inventory.versions inv).length := by
      rcases hl : Inventory.versions inv with _ | ⟨v, _ | ⟨w, rest⟩⟩
      · exact absurd hl hnil
      · exact absurd hl (hsingle v)
      · simp
    constructor
    · rintro ⟨rfl, rfl⟩
      exact ⟨rfl, rfl, hlength⟩
    · rintro ⟨rfl, rfl, -⟩
      exact ⟨rfl, rfl⟩

/-- Two versions that differ are two in the list. -/
theorem two_le_length_versions_iff :
    2 ≤ (Inventory.versions inv).length ↔
      ∃ v ∈ Inventory.versions inv, ∃ w ∈ Inventory.versions inv, v ≠ w := by
  have hsorted := Inventory.sorted_versions inv
  rcases hl : Inventory.versions inv with _ | ⟨v, _ | ⟨w, rest⟩⟩
  · simp
  · simp
  · rw [hl] at hsorted
    have hvw : v < w := (List.pairwise_cons.1 hsorted).1 w (by simp)
    exact iff_of_true (by simp) ⟨v, by simp, w, by simp, hvw.ne⟩

end

section
variable {reported artifacts : List Artifact} {version : String} {versions : List String}

theorem of_eq_unknown_iff :
    Verdict.of reported = unknown ↔ ∀ id, Artifact.latest? reported id = none := by
  unfold Verdict.of
  simp only [ofInventory_eq_unknown_iff, Inventory.mem_versions_ofList_filter_iff, not_exists,
    Option.eq_none_iff_forall_ne_some]
  exact forall_comm

theorem of_eq_consistent_iff :
    Verdict.of reported = consistent version ↔
      (∃ id, Artifact.latest? reported id ≠ none) ∧
        ∀ id v, Artifact.latest? reported id = some v → v = version := by
  unfold Verdict.of
  simp only [ofInventory_eq_consistent_iff, Inventory.mem_versions_ofList_filter_iff,
    Option.ne_none_iff_exists']
  constructor
  · rintro ⟨⟨v, id, hv⟩, hall⟩
    exact ⟨⟨id, v, hv⟩, fun id' w hw => hall w ⟨id', hw⟩⟩
  · rintro ⟨⟨id, v, hv⟩, hall⟩
    exact ⟨⟨v, id, hv⟩, fun w ⟨id', hw⟩ => hall id' w hw⟩

theorem exists_of_eq_inconsistent_iff :
    (∃ versions artifacts, Verdict.of reported = inconsistent versions artifacts) ↔
      ∃ id id' v w, Artifact.latest? reported id = some v ∧
        Artifact.latest? reported id' = some w ∧ v ≠ w := by
  unfold Verdict.of
  simp only [ofInventory_eq_inconsistent_iff, two_le_length_versions_iff,
    Inventory.mem_versions_ofList_filter_iff, exists_eq_left, exists_and_left]
  constructor
  · rintro ⟨v, ⟨id, hv⟩, w, ⟨id', hw⟩, hne⟩
    exact ⟨id, id', v, hv, w, hw, hne⟩
  · rintro ⟨id, id', v, hv, w, hw, hne⟩
    exact ⟨v, ⟨id, hv⟩, w, ⟨id', hw⟩, hne⟩

/-- What an inconsistent verdict lists: the latest versions, each component and each version once
and in order. -/
theorem lists_of_eq_inconsistent (h : Verdict.of reported = inconsistent versions artifacts) :
    Inventory.Sorted artifacts ∧
      (∀ a, a ∈ artifacts ↔ Artifact.latest? reported a.id = some a.version) ∧
      versions.Pairwise (· < ·) ∧
      (∀ v, v ∈ versions ↔ ∃ id, Artifact.latest? reported id = some v) ∧
      2 ≤ versions.length := by
  obtain ⟨rfl, rfl, hlength⟩ := ofInventory_eq_inconsistent_iff.1 h
  exact ⟨Inventory.sorted_ofList _, fun a => Inventory.mem_ofList_filter_iff,
    Inventory.sorted_versions _, fun v => Inventory.mem_versions_ofList_filter_iff, hlength⟩

theorem of_congr {reported' : List Artifact}
    (h : Artifact.latest? reported = Artifact.latest? reported') :
    Verdict.of reported = Verdict.of reported' := by
  unfold Verdict.of
  rw [Inventory.ofList_filter_congr h]

end

end Verdict

/-- **The verdict goes by the latest versions.** Of each component in the family the last entry
counts, and the verdict is read off these entries alone: there are none, or they all have one
version, or the verdict lists them in the order of their identifiers, with their versions in order
and without repetition, of which there are two at least. So components outside the family may come
and go, entries may come in before a later one for the same component, and neighbours with different
identifiers may change places, as often as one likes: the verdict stays. -/
theorem verdict_of_latest (reported : List Artifact) :
    let latest := Artifact.latest? reported
    (∀ id v, latest id = some v ↔ ∃ before a after, reported = before ++ a :: after ∧
      a.inFamily = true ∧ a.id = id ∧ a.version = v ∧ ∀ b ∈ after, b.id ≠ id) ∧
    (Verdict.of reported = .unknown ↔ ∀ id, latest id = none) ∧
    (∀ version, Verdict.of reported = .consistent version ↔
      (∃ id, latest id ≠ none) ∧ ∀ id v, latest id = some v → v = version) ∧
    ((∃ versions artifacts, Verdict.of reported = .inconsistent versions artifacts) ↔
      ∃ id id' v w, latest id = some v ∧ latest id' = some w ∧ v ≠ w) ∧
    (∀ versions artifacts, Verdict.of reported = .inconsistent versions artifacts →
      artifacts.Pairwise (fun a b => a.id < b.id) ∧
      (∀ a, a ∈ artifacts ↔ latest a.id = some a.version) ∧
      versions.Pairwise (· < ·) ∧ (∀ v, v ∈ versions ↔ ∃ id, latest id = some v) ∧
      2 ≤ versions.length) ∧
    (∀ reported', Artifact.latest? reported' = latest →
      Verdict.of reported' = Verdict.of reported) ∧
    ∀ reported', Relation.EqvGen Artifact.Edit reported reported' →
      Verdict.of reported' = Verdict.of reported := by
  intro latest
  refine ⟨fun id v => Artifact.latest?_eq_some_iff, Verdict.of_eq_unknown_iff,
    fun version => Verdict.of_eq_consistent_iff, Verdict.exists_of_eq_inconsistent_iff,
    fun versions artifacts h => Verdict.lists_of_eq_inconsistent h,
    fun reported' h => Verdict.of_congr h, fun reported' h => ?_⟩
  exact Verdict.of_congr (Artifact.latest?_eq_of_eqvGen h).symm

end Transports
