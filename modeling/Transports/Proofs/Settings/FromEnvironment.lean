import Transports.Settings
/-!
# What an environment means for the settings

A variable either holds a word or lacks one (`Environment.Lacks`): it is unset, its bytes are not a
text, or the text is all blank. Whether it names a given word (`Environment.Names`) is a matter of
what stands between the blanks, up to the case of ASCII letters. The settings that are read from an
environment enable a token, prefer a transport and switch the warning off exactly if a variable
names the right word.
-/

namespace Transports

theorem Text.trim_eq_empty_iff {s : String} :
    Text.trim s = "" ↔ ∀ c ∈ s.toList, Text.isBlank c = true := by
  rw [← Text.trimChars_eq_nil_iff, ← Text.toList_trim, String.toList_eq_nil_iff]

namespace Environment

/-- There is no word in a variable. -/
inductive Lacks (env : Environment) (key : String) : Prop where
  | unset : env key = none → Lacks env key
  /-- The bytes are not UTF-8. -/
  | invalid {bytes : ByteArray} :
      env key = some bytes → String.fromUTF8? bytes = none → Lacks env key
  | blank {v : String} :
      env.text? key = some v → (∀ c ∈ v.toList, Text.isBlank c = true) → Lacks env key

/-- The value of a variable is a word, up to padding and the case of ASCII letters. -/
def Names (env : Environment) (key word : String) : Prop :=
  ∃ v, env.text? key = some v ∧ Text.sameLetters (Text.trim v) word = true

instance (env : Environment) (key word : String) : Decidable (env.Names key word) :=
  decidable_of_iff ((env.text? key).any fun v => Text.sameLetters (Text.trim v) word) (by
    simp [Names, Option.any_eq_true])

section
variable {env : Environment} {key word : String}

theorem word?_eq_none_iff : env.word? key = none ↔ env.Lacks key := by
  constructor
  · intro h
    cases hbytes : env key with
    | none => exact .unset hbytes
    | some bytes =>
      cases hv : String.fromUTF8? bytes with
      | none => exact .invalid hbytes hv
      | some v =>
        have htext : env.text? key = some v := by rw [text?, hbytes, Option.bind_some, hv]
        by_cases hblank : Text.trim v = ""
        · exact .blank htext (Text.trim_eq_empty_iff.1 hblank)
        · cases h.symm.trans (word?_eq_some_iff.2 ⟨v, htext, rfl, hblank⟩)
  · intro h
    refine Option.eq_none_iff_forall_ne_some.2 fun s hs => ?_
    obtain ⟨v, htext, rfl, hne⟩ := word?_eq_some_iff.1 hs
    cases h with
    | unset hbytes => simp [text?, hbytes] at htext
    | invalid hbytes hv => simp [text?, hbytes, hv] at htext
    | blank htext' hblank =>
      cases htext.symm.trans htext'
      exact hne (Text.trim_eq_empty_iff.2 hblank)

/-- A variable names a word, other than the empty one, exactly if its own word is that one. -/
theorem names_iff_word? (hword : word ≠ "") :
    env.Names key word ↔ ∃ s, env.word? key = some s ∧ Text.sameLetters s word = true := by
  constructor
  · rintro ⟨v, htext, hsame⟩
    refine ⟨_, word?_eq_some_iff.2 ⟨v, htext, rfl, fun hempty => hword ?_⟩, hsame⟩
    -- nothing but the empty text has no letters
    rw [hempty, Text.sameLetters_iff] at hsame
    exact String.toList_eq_nil_iff.1 (List.map_eq_nil_iff.1 hsame.symm)
  · rintro ⟨s, hs, hsame⟩
    obtain ⟨v, htext, rfl, -⟩ := word?_eq_some_iff.1 hs
    exact ⟨v, htext, hsame⟩

def words : Bool → List String
  | true => onWords
  | false => offWords

/-- No word stands for both positions, whatever the case of its letters. -/
theorem words_disjoint {a b : String} (ha : a ∈ onWords) (hb : b ∈ offWords) :
    Text.smallLetters a ≠ Text.smallLetters b := by
  have : ∀ a ∈ onWords, ∀ b ∈ offWords, Text.smallLetters a ≠ Text.smallLetters b := by decide
  exact this a ha b hb

theorem switch?_eq_some_iff {s : String} {b : Bool} :
    switch? s = some b ↔ ∃ w ∈ words b, Text.sameLetters (Text.trim s) w = true := by
  unfold switch?
  simp only [List.any_eq_true]
  by_cases hon : ∃ w ∈ onWords, Text.sameLetters (Text.trim s) w = true
  · rw [if_pos hon]
    cases b with
    | true => exact iff_of_true rfl hon
    | false =>
      refine iff_of_false (by decide) ?_
      rintro ⟨w, hw, hsame⟩
      obtain ⟨w', hw', hsame'⟩ := hon
      rw [Text.sameLetters_iff] at hsame hsame'
      exact words_disjoint hw' hw (hsame'.symm.trans hsame)
  · rw [if_neg hon]
    cases b with
    | true => exact iff_of_false (by split <;> decide) hon
    | false =>
      split
      · next hoff => exact iff_of_true rfl hoff
      · next hoff => exact iff_of_false (by decide) hoff

/-- A variable turns a switch from its default exactly if it names a word for the other position. -/
theorem flag_eq_not_iff {default : Bool} :
    env.flag key default = !default ↔ ∃ w ∈ words (!default), env.Names key w := by
  unfold flag Names
  cases htext : env.text? key with
  | none => cases default <;> simp
  | some v =>
    have hswitch : (switch? v).getD default = !default ↔ switch? v = some (!default) := by
      cases switch? v with
      | none => cases default <;> decide
      | some b => simp
    simpa [hswitch] using switch?_eq_some_iff

end

end Environment

/-! ## The settings of an environment -/

namespace Settings

variable {env : Environment} {token : String} {t : Transport}

theorem enables_ofEnvironment_iff (htoken : token ≠ "") :
    (ofEnvironment env).enables token = true ↔ env.Names preferenceKey token := by
  rw [Environment.names_iff_word? htoken]
  unfold enables ofEnvironment
  cases hword : env.word? preferenceKey with
  | none => simp
  | some s =>
    -- the word is trimmed when it is read, and once more when it is compared
    obtain ⟨v, -, rfl, -⟩ := Environment.word?_eq_some_iff.1 hword
    simp

/-- An environment makes the settings prefer the transport that it names. -/
theorem preferred?_ofEnvironment_iff :
    (ofEnvironment env).preferred? = some t ↔ env.Names preferenceKey t.token := by
  rw [← optsIn_iff, optsIn, enables_ofEnvironment_iff (by cases t <;> decide)]

theorem warnVersions_ofEnvironment_iff :
    (ofEnvironment env).warnVersions = false ↔
      ∃ w ∈ Environment.offWords, env.Names warnVersionsKey w :=
  Environment.flag_eq_not_iff

end Settings

end Transports
