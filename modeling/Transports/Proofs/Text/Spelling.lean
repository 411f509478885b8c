import Mathlib.Data.List.Forall2
import Transports.Text.Blank
import Transports.Text.Letters
/-!
# Spellings of a word

A text spells a word if it is that word between blanks, up to the case of ASCII letters
(`Text.Spells`). Trimming and making letters small decide it (`Text.spells_iff`), because the case
of a letter has no part in what is blank. What trimming leaves is told by its two ends
(`Text.trimsTo_iff`).
-/

namespace Transports.Text

/-! ## The two cases of a letter -/

/-- Two characters are the same, or they are the two cases of one ASCII letter. -/
inductive SameLetter : Char → Char → Prop where
  | same (c : Char) : SameLetter c c
  | capital {c d : Char} : 'A' ≤ c → c ≤ 'Z' → d.toNat = c.toNat + 32 → SameLetter c d
  | small {c d : Char} : 'A' ≤ d → d ≤ 'Z' → c.toNat = d.toNat + 32 → SameLetter c d

section
variable {c d : Char}

theorem capital_iff : ('A' ≤ c ∧ c ≤ 'Z') ↔ 65 ≤ c.toNat ∧ c.toNat ≤ 90 := by
  rw [Char.le_def, Char.le_def, UInt32.le_iff_toNat_le, UInt32.le_iff_toNat_le]
  exact Iff.rfl

theorem toNat_toLower (c : Char) :
    c.toLower.toNat = if 'A' ≤ c ∧ c ≤ 'Z' then c.toNat + 32 else c.toNat := by
  have hcond : (c.val ≥ 'A'.val ∧ c.val ≤ 'Z'.val) ↔ ('A' ≤ c ∧ c ≤ 'Z') := Iff.rfl
  unfold Char.toLower
  by_cases h : 'A' ≤ c ∧ c ≤ 'Z'
  · rw [dif_pos (hcond.2 h), if_pos h]
    have hle := (capital_iff.1 h).2
    show (c.val + 32).toNat = c.val.toNat + 32
    rw [UInt32.toNat_add]
    exact Nat.mod_eq_of_lt (by show c.toNat + 32 < 2 ^ 32; omega)
  · rw [dif_neg (fun h' => h (hcond.1 h')), if_neg h]

/-- Characters are the same once made small if they are one letter. -/
theorem toLower_eq_toLower_iff : c.toLower = d.toLower ↔ SameLetter c d := by
  rw [← Char.toNat_inj, toNat_toLower, toNat_toLower]
  constructor
  · intro h
    split at h
    · next hc =>
      split at h
      · obtain rfl : c = d := Char.toNat_inj.1 (Nat.add_right_cancel h)
        exact .same c
      · exact .capital hc.1 hc.2 h.symm
    · split at h
      · next hd => exact .small hd.1 hd.2 h
      · obtain rfl : c = d := Char.toNat_inj.1 h
        exact .same c
  · intro h
    have hsmall : ∀ {c d : Char}, 'A' ≤ c ∧ c ≤ 'Z' → d.toNat = c.toNat + 32 →
        ¬('A' ≤ d ∧ d ≤ 'Z') := by
      intro c d hc hd
      rw [capital_iff] at hc ⊢
      omega
    cases h with
    | same => rfl
    | capital hA hZ hd => rw [if_pos ⟨hA, hZ⟩, if_neg (hsmall ⟨hA, hZ⟩ hd), hd]
    | small hA hZ hc => rw [if_neg (hsmall ⟨hA, hZ⟩ hc), if_pos ⟨hA, hZ⟩, hc]

/-- The case of a letter has no part in what is blank. -/
theorem isBlank_toLower (c : Char) : isBlank c.toLower = isBlank c := by
  rw [Bool.eq_iff_iff]
  simp only [isBlank, blankRanges, List.any_cons, List.any_nil, Bool.or_false, Bool.or_eq_true,
    Bool.and_eq_true, decide_eq_true_eq, toNat_toLower, capital_iff]
  split <;> omega

/-- A letter of ASCII has no other case beyond ASCII. -/
theorem SameLetter.lt_of_lt (h : SameLetter c d) (hd : d.toNat < 128) : c.toNat < 128 := by
  cases h with
  | same => exact hd
  | capital hA hZ _ =>
    have := (capital_iff.1 ⟨hA, hZ⟩).2
    omega
  | small hA hZ hc =>
    have := (capital_iff.1 ⟨hA, hZ⟩).2
    omega

end

theorem smallLetters_eq_iff {s t : String} :
    smallLetters s = smallLetters t ↔ List.Forall₂ SameLetter s.toList t.toList := by
  have hsame : SameLetter = fun c d => c.toLower = d.toLower := by
    funext c d
    exact propext toLower_eq_toLower_iff.symm
  have hmap : List.Forall₂ SameLetter s.toList t.toList ↔
      List.Forall₂ (· = ·) (smallLetters s) (smallLetters t) := by
    rw [smallLetters, smallLetters, List.forall₂_map_left_iff, List.forall₂_map_right_iff, hsame]
  rw [hmap, List.forall₂_eq_eq_eq]

/-! ## What trimming leaves -/

/-- A text without the blanks at its ends: what was cut is blank, and the new ends are not. -/
structure TrimsTo (s t : String) : Prop where
  exists_pad : ∃ l r, s.toList = l ++ t.toList ++ r ∧ (∀ c ∈ l, isBlank c = true) ∧
    ∀ c ∈ r, isBlank c = true
  head? : ∀ c ∈ t.toList.head?, isBlank c = false
  getLast? : ∀ c ∈ t.toList.getLast?, isBlank c = false

theorem length_trimChars_le (cs : List Char) : (trimChars cs).length ≤ cs.length := by
  obtain ⟨l, r, -, -, h⟩ := exists_pad_trimChars cs
  have := congrArg List.length h
  simp only [List.length_append] at this
  omega

/-- What stays as it is when trimmed was not padded. -/
theorem pad_eq_nil {l r cs : List Char} (hl : ∀ c ∈ l, isBlank c = true)
    (hr : ∀ c ∈ r, isBlank c = true) (h : trimChars (l ++ cs ++ r) = l ++ cs ++ r) :
    l = [] ∧ r = [] := by
  -- the padding would be cut, and the text would get shorter
  have hle := length_trimChars_le cs
  rw [← trimChars_pad hl hr, h, List.length_append, List.length_append] at hle
  exact ⟨List.length_eq_zero_iff.1 (by omega), List.length_eq_zero_iff.1 (by omega)⟩

/-- What stays as it is when trimmed has no blank at its ends. -/
theorem not_isBlank_of_trimChars_eq {cs : List Char} (h : trimChars cs = cs) :
    (∀ c ∈ cs.head?, isBlank c = false) ∧ ∀ c ∈ cs.getLast?, isBlank c = false := by
  constructor
  · intro c hc
    obtain ⟨rest, rfl⟩ := List.head?_eq_some_iff.1 hc
    by_contra hblank
    have hpad : [c] = [] ∧ ([] : List Char) = [] :=
      pad_eq_nil (by simpa using hblank) (by simp) (show trimChars ([c] ++ rest ++ []) = _ by simpa)
    exact List.cons_ne_nil _ _ hpad.1
  · intro c hc
    obtain ⟨rest, rfl⟩ := List.getLast?_eq_some_iff.1 hc
    by_contra hblank
    have hpad : ([] : List Char) = [] ∧ [c] = [] :=
      pad_eq_nil (by simp) (by simpa using hblank) (show trimChars ([] ++ rest ++ [c]) = _ by simpa)
    exact List.cons_ne_nil _ _ hpad.2

theorem dropWhile_isBlank_of_head? {cs : List Char} (h : ∀ c ∈ cs.head?, isBlank c = false) :
    cs.dropWhile isBlank = cs := by
  cases cs with
  | nil => rfl
  | cons c cs => rw [List.dropWhile_cons, if_neg (by simp [h c rfl])]

theorem trimsTo_iff {s t : String} : TrimsTo s t ↔ trim s = t := by
  constructor
  · rintro ⟨⟨l, r, hs, hl, hr⟩, hhead, hlast⟩
    have ht : trimChars t.toList = t.toList := by
      rw [← List.head?_reverse] at hlast
      rw [trimChars, dropWhile_isBlank_of_head? hhead, dropWhile_isBlank_of_head? hlast,
        List.reverse_reverse]
    rw [trim, hs, trimChars_pad hl hr, ht, String.ofList_toList]
  · rintro rfl
    obtain ⟨l, r, hl, hr, hs⟩ := exists_pad_trimChars s.toList
    obtain ⟨hhead, hlast⟩ := not_isBlank_of_trimChars_eq (trimChars_trimChars s.toList)
    rw [← toList_trim] at hs hhead hlast
    exact ⟨⟨l, r, hs, hl, hr⟩, hhead, hlast⟩

/-! ## Spellings -/

/-- A text is a word between blanks, up to the case of ASCII letters. -/
def Spells (s word : String) : Prop :=
  ∃ l v r, s.toList = l ++ v ++ r ∧ (∀ c ∈ l, isBlank c = true) ∧ (∀ c ∈ r, isBlank c = true) ∧
    List.Forall₂ SameLetter v word.toList

/-- To trim and to make letters small is the same in either order. -/
theorem map_toLower_trimChars (cs : List Char) :
    (trimChars cs).map Char.toLower = trimChars (cs.map Char.toLower) := by
  have hblank : isBlank ∘ Char.toLower = isBlank := funext isBlank_toLower
  unfold trimChars
  rw [List.dropWhile_map, hblank, ← List.map_reverse, List.dropWhile_map, hblank, List.map_reverse]

theorem smallLetters_trim (s : String) : smallLetters (trim s) = trimChars (smallLetters s) := by
  rw [smallLetters, toList_trim, map_toLower_trimChars]
  rfl

section
variable {s word : String}

/-- A spelling of a word differs from it by blanks and the case of letters. -/
theorem Spells.smallLetters_trim_eq (h : Spells s word) :
    smallLetters (trim s) = smallLetters (trim word) := by
  obtain ⟨l, v, r, hs, hl, hr, hv⟩ := h
  have hsmall : v.map Char.toLower = smallLetters word := by
    rw [← String.toList_ofList (l := v)] at hv
    rw [← smallLetters_eq_iff.2 hv, smallLetters, String.toList_ofList]
  rw [smallLetters, toList_trim, hs, trimChars_pad hl hr, map_toLower_trimChars, hsmall,
    smallLetters_trim]

/-- **Trimming and making letters small decide** whether a text spells a word. -/
theorem spells_iff (hword : trim word = word) :
    Spells s word ↔ smallLetters (trim s) = smallLetters word := by
  constructor
  · intro h
    rw [h.smallLetters_trim_eq, hword]
  · intro h
    obtain ⟨l, r, hl, hr, hs⟩ := exists_pad_trimChars s.toList
    refine ⟨l, _, r, hs, hl, hr, ?_⟩
    rw [← toList_trim]
    exact smallLetters_eq_iff.1 h

/-- What spells a word of ASCII has nothing beyond ASCII but blanks. -/
theorem Spells.lt_of_not_isBlank (h : Spells s word) (hword : ∀ d ∈ word.toList, d.toNat < 128)
    {c : Char} (hc : c ∈ s.toList) (hblank : isBlank c = false) : c.toNat < 128 := by
  obtain ⟨l, v, r, hs, hl, hr, hv⟩ := h
  have hpad : c ∉ l ∧ c ∉ r := by
    constructor
    · intro hcl
      simp [hl c hcl] at hblank
    · intro hcr
      simp [hr c hcr] at hblank
  have hcv : c ∈ v := by simpa [hs, hpad.1, hpad.2] using hc
  obtain ⟨i, hi, rfl⟩ := List.getElem_of_mem hcv
  have hiw : i < word.toList.length := hv.length_eq ▸ hi
  exact (hv.get hi hiw).lt_of_lt (hword _ (List.getElem_mem hiw))

end

end Transports.Text
