import Transports.Proofs.Versions.Latest
/-!
# Which conflicts of versions are told

A verdict heeds a list of reported components (`Verdict.Heeds`) if it says what the family in the
list amounts to, entry by entry: nothing, one version, or several, and which. Since the entries of
one component are folded into the last one first, the verdict heeds the list exactly if no version
is lost that way (`heeds_iff_latest`); a list that reports a component in two versions may lose one
(`conflict_missed`).
-/

namespace Transports

namespace Verdict

/-- The verdict says what the reported components of the family amount to, whatever their order. -/
structure Heeds (verdict : Verdict) (reported : List Artifact) : Prop where
  unknown_iff : verdict = unknown ↔ ∀ a ∈ reported, a.inFamily = false
  consistent_iff : ∀ version, verdict = consistent version ↔
    (∃ a ∈ reported, a.inFamily = true) ∧
      ∀ a ∈ reported, a.inFamily = true → a.version = version
  inconsistent_iff : (∃ versions artifacts, verdict = inconsistent versions artifacts) ↔
    ∃ a ∈ reported, ∃ b ∈ reported,
      a.inFamily = true ∧ b.inFamily = true ∧ a.version ≠ b.version
  mem_versions_iff : ∀ versions artifacts, verdict = inconsistent versions artifacts →
    ∀ v, v ∈ versions ↔ ∃ a ∈ reported, a.inFamily = true ∧ a.version = v

end Verdict

namespace Artifact

section
variable {reported : List Artifact}

/-- No component of the family has a latest version exactly if none was reported. -/
theorem latest?_eq_none_iff :
    (∀ id, latest? reported id = none) ↔ ∀ a ∈ reported, a.inFamily = false := by
  constructor
  · intro h a ha
    by_contra hfamily
    obtain ⟨v, hv⟩ := exists_latest? ha (by simpa using hfamily)
    rw [h a.id] at hv
    cases hv
  · intro h id
    by_contra hsome
    obtain ⟨v, hv⟩ := Option.ne_none_iff_exists'.1 hsome
    obtain ⟨a, ha, hfamily, -, -⟩ := exists_of_latest? hv
    rw [h a ha] at hfamily
    cases hfamily

/-- No version is lost: each one that the family reports is the latest of some component. -/
def KeepsVersions (reported : List Artifact) : Prop :=
  ∀ a ∈ reported, a.inFamily = true → ∃ id, latest? reported id = some a.version

/-- While no version is lost, the latest versions are those reported. -/
theorem KeepsVersions.exists_latest?_iff (h : KeepsVersions reported) {v : String} :
    (∃ id, latest? reported id = some v) ↔ ∃ a ∈ reported, a.inFamily = true ∧ a.version = v := by
  constructor
  · rintro ⟨id, hv⟩
    obtain ⟨a, ha, hfamily, -, hversion⟩ := exists_of_latest? hv
    exact ⟨a, ha, hfamily, hversion⟩
  · rintro ⟨a, ha, hfamily, rfl⟩
    exact h a ha hfamily

/-- Each component of the family is reported in one version only. -/
def OneVersionEach (reported : List Artifact) : Prop :=
  ∀ a ∈ reported, ∀ b ∈ reported, a.inFamily = true → a.id = b.id → a.version = b.version

/-- With one version for each component, any entry tells the latest version. -/
theorem OneVersionEach.latest?_eq_some_iff (h : OneVersionEach reported) {id v : String} :
    latest? reported id = some v ↔
      ∃ a ∈ reported, a.inFamily = true ∧ a.id = id ∧ a.version = v := by
  constructor
  · exact exists_of_latest?
  · rintro ⟨a, ha, hfamily, rfl, rfl⟩
    obtain ⟨v, hv⟩ := exists_latest? ha hfamily
    obtain ⟨b, hb, hfamily', hid, rfl⟩ := exists_of_latest? hv
    rw [hv, h b hb a ha hfamily' hid]

theorem OneVersionEach.keepsVersions (h : OneVersionEach reported) : KeepsVersions reported :=
  fun a ha hfamily => ⟨a.id, h.latest?_eq_some_iff.2 ⟨a, ha, hfamily, rfl, rfl⟩⟩

/-- With one version for each component, the order of the entries does not matter. -/
theorem OneVersionEach.latest?_eq_of_perm (h : OneVersionEach reported) {reported' : List Artifact}
    (hp : reported.Perm reported') : latest? reported = latest? reported' := by
  have h' : OneVersionEach reported' := by
    intro a ha b hb
    exact h a (hp.mem_iff.2 ha) b (hp.mem_iff.2 hb)
  funext id
  refine Option.ext fun v => ?_
  simp only [h.latest?_eq_some_iff, h'.latest?_eq_some_iff, hp.mem_iff]

end

end Artifact

namespace Verdict

section
variable {reported : List Artifact}

/-- While no version is lost, the verdict heeds the list. -/
theorem heeds_of_keepsVersions (h : Artifact.KeepsVersions reported) :
    (Verdict.of reported).Heeds reported where
  unknown_iff := of_eq_unknown_iff.trans Artifact.latest?_eq_none_iff
  consistent_iff version := by
    rw [of_eq_consistent_iff]
    constructor
    · rintro ⟨⟨id, hid⟩, hall⟩
      obtain ⟨v, hv⟩ := Option.ne_none_iff_exists'.1 hid
      obtain ⟨a, ha, hfamily, -, -⟩ := Artifact.exists_of_latest? hv
      refine ⟨⟨a, ha, hfamily⟩, fun b hb hb' => ?_⟩
      obtain ⟨id', hid'⟩ := h b hb hb'
      exact hall id' _ hid'
    · rintro ⟨⟨a, ha, hfamily⟩, hall⟩
      obtain ⟨v, hv⟩ := Artifact.exists_latest? ha hfamily
      refine ⟨⟨a.id, by simp [hv]⟩, fun id w hw => ?_⟩
      obtain ⟨b, hb, hb', -, rfl⟩ := Artifact.exists_of_latest? hw
      exact hall b hb hb'
  inconsistent_iff := by
    rw [exists_of_eq_inconsistent_iff]
    constructor
    · rintro ⟨id, id', v, w, hv, hw, hne⟩
      obtain ⟨a, ha, hfamily, -, rfl⟩ := Artifact.exists_of_latest? hv
      obtain ⟨b, hb, hfamily', -, rfl⟩ := Artifact.exists_of_latest? hw
      exact ⟨a, ha, b, hb, hfamily, hfamily', hne⟩
    · rintro ⟨a, ha, b, hb, hfamily, hfamily', hne⟩
      obtain ⟨id, hv⟩ := h a ha hfamily
      obtain ⟨id', hw⟩ := h b hb hfamily'
      exact ⟨id, id', _, _, hv, hw, hne⟩
  mem_versions_iff versions artifacts heq v := by
    obtain ⟨-, -, -, hmem, -⟩ := lists_of_eq_inconsistent heq
    rw [hmem, h.exists_latest?_iff]

/-- A verdict that heeds the list has lost no version. -/
theorem Heeds.keepsVersions (h : (Verdict.of reported).Heeds reported) :
    Artifact.KeepsVersions reported := by
  intro a ha hfamily
  cases hverdict : Verdict.of reported with
  | unknown =>
    have hnone := h.unknown_iff.1 hverdict a ha
    rw [hfamily] at hnone
    cases hnone
  | consistent version =>
    -- every entry has the version that the verdict gives, and so has the latest one of `a`
    have hversion := ((h.consistent_iff version).1 hverdict).2 a ha hfamily
    obtain ⟨v, hv⟩ := Artifact.exists_latest? ha hfamily
    have hv' := (of_eq_consistent_iff.1 hverdict).2 a.id v hv
    exact ⟨a.id, by rw [hv, hv', hversion]⟩
  | inconsistent versions artifacts =>
    have hmem := (h.mem_versions_iff versions artifacts hverdict a.version).2 ⟨a, ha, hfamily, rfl⟩
    obtain ⟨-, -, -, hversions, -⟩ := lists_of_eq_inconsistent hverdict
    exact (hversions _).1 hmem

/-- Several versions are told only where several were reported. -/
theorem conflict_of_eq_inconsistent {versions : List String} {artifacts : List Artifact}
    (h : Verdict.of reported = inconsistent versions artifacts) :
    (∃ a ∈ reported, ∃ b ∈ reported, a.inFamily = true ∧ b.inFamily = true ∧
      a.version ≠ b.version) ∧
      ∀ v ∈ versions, ∃ a ∈ reported, a.inFamily = true ∧ a.version = v := by
  obtain ⟨id, id', v, w, hv, hw, hne⟩ := exists_of_eq_inconsistent_iff.1 ⟨versions, artifacts, h⟩
  obtain ⟨a, ha, hfamily, -, rfl⟩ := Artifact.exists_of_latest? hv
  obtain ⟨b, hb, hfamily', -, rfl⟩ := Artifact.exists_of_latest? hw
  refine ⟨⟨a, ha, b, hb, hfamily, hfamily', hne⟩, fun u hu => ?_⟩
  obtain ⟨-, -, -, hversions, -⟩ := lists_of_eq_inconsistent h
  obtain ⟨id, hu⟩ := (hversions u).1 hu
  obtain ⟨c, hc, hfamily, -, rfl⟩ := Artifact.exists_of_latest? hu
  exact ⟨c, hc, hfamily, rfl⟩

end

end Verdict

/-- **Conflicts are told as far as the latest versions show them.** The verdict heeds the reported
components exactly if each version that the family reports is the latest one of some component. It
does so whenever no component is reported in two versions, and then the order of the entries does
not matter. Without that it may miss a conflict, but it makes none up, and it is never silent about
a family that was reported. -/
theorem heeds_iff_latest (reported : List Artifact) :
    ((Verdict.of reported).Heeds reported ↔
      ∀ a ∈ reported, a.inFamily = true →
        ∃ id, Artifact.latest? reported id = some a.version) ∧
    ((∀ a ∈ reported, ∀ b ∈ reported, a.inFamily = true → a.id = b.id →
        a.version = b.version) →
      (Verdict.of reported).Heeds reported ∧
        ∀ reported', reported.Perm reported' → Verdict.of reported' = Verdict.of reported) ∧
    (Verdict.of reported = .unknown ↔ ∀ a ∈ reported, a.inFamily = false) ∧
    ∀ versions artifacts, Verdict.of reported = .inconsistent versions artifacts →
      (∃ a ∈ reported, ∃ b ∈ reported, a.inFamily = true ∧ b.inFamily = true ∧
        a.version ≠ b.version) ∧
      ∀ v ∈ versions, ∃ a ∈ reported, a.inFamily = true ∧ a.version = v := by
  refine ⟨⟨Verdict.Heeds.keepsVersions, Verdict.heeds_of_keepsVersions⟩, fun hone => ?_,
    Verdict.of_eq_unknown_iff.trans Artifact.latest?_eq_none_iff,
    fun versions artifacts h => Verdict.conflict_of_eq_inconsistent h⟩
  have hone : Artifact.OneVersionEach reported := hone
  exact ⟨Verdict.heeds_of_keepsVersions hone.keepsVersions, fun reported' hp =>
    (Verdict.of_congr (hone.latest?_eq_of_perm hp)).symm⟩

/-- A component that is reported in two versions is taken for one of the last version: the conflict
is missed, and in the other order the other version is told. -/
theorem conflict_missed :
    let reported : List Artifact := [⟨"netcap", "1"⟩, ⟨"netcap", "2"⟩]
    Verdict.of reported = .consistent "2" ∧ Verdict.of reported.reverse = .consistent "1" ∧
      ¬ (Verdict.of reported).Heeds reported := by
  intro reported
  have hverdict : Verdict.of reported = .consistent "2" := by decide +kernel
  refine ⟨hverdict, by decide +kernel, fun h => ?_⟩
  have hall := ((h.consistent_iff "2").1 hverdict).2
  have hversion : "1" = "2" := hall ⟨"netcap", "1"⟩ (by simp [reported]) (by decide +kernel)
  exact absurd hversion (by decide)

end Transports
