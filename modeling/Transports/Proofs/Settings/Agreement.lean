import Transports.Proofs.Settings.FromEnvironment
import Transports.Proofs.Transport.Grammar
/-!
# Settings read from an environment and settings made directly

An environment trims the preferred transport when it is read; settings that are made directly keep
the text as it was written and trim it at every comparison. Both say the same of every transport
(`Settings.agree_of_trim_eq`), because only what is left between the blanks counts and because a
trimmed text stays as it is. They part over a text that is all blank: it counts as no preference in
an environment, and as one that names no transport in settings made directly.

A switch is set by a variable, whatever its default, exactly if the variable holds one of eight
words (`Environment.flag_settled_iff`). `environment_agrees_with_direct` has it all.
-/

namespace Transports

open Text

/-! ## The switch of a variable -/

namespace Environment

variable {env env' : Environment} {key v v' : String} {b : Bool}

/-- A variable holds a text if its bytes are the bytes of that text. -/
theorem text?_eq_some_iff : env.text? key = some v ↔ env key = some v.toByteArray := by
  unfold text?
  cases hbytes : env key with
  | none => simp
  | some bytes =>
    rw [Option.bind_some, Option.some.injEq]
    constructor
    · intro h
      unfold String.fromUTF8? at h
      split at h
      · cases h
        rfl
      · cases h
    · rintro rfl
      unfold String.fromUTF8?
      rw [dif_pos v.isValidUTF8]
      rfl

/-- Bytes that are not read as a text are the bytes of no text. -/
theorem fromUTF8?_eq_none_iff {bytes : ByteArray} :
    String.fromUTF8? bytes = none ↔ ∀ v : String, bytes ≠ v.toByteArray := by
  unfold String.fromUTF8?
  constructor
  · rintro h v rfl
    rw [dif_pos v.isValidUTF8] at h
    cases h
  · intro h
    rw [dif_neg]
    intro hvalid
    exact h (String.ofByteArray bytes hvalid) rfl

/-- The value of a variable is, without padding and in small letters, a word for a position of a
switch. -/
def Decides (env : Environment) (key : String) (b : Bool) : Prop :=
  ∃ v : String, env key = some v.toByteArray ∧ String.ofList (smallLetters (trim v)) ∈ words b

/-- The words of a switch have small letters. -/
theorem smallLetters_of_mem_words {w : String} (hw : w ∈ words b) :
    smallLetters w = w.toList := by
  have hall : ∀ b, ∀ w ∈ words b, smallLetters w = w.toList := by decide
  exact hall b w hw

theorem switch?_eq_some_iff_mem :
    switch? v = some b ↔ String.ofList (smallLetters (trim v)) ∈ words b := by
  rw [switch?_eq_some_iff]
  constructor
  · rintro ⟨w, hw, hsame⟩
    have hlower : smallLetters (trim v) = w.toList := by
      rw [sameLetters_iff.1 hsame, smallLetters_of_mem_words hw]
    rw [hlower, String.ofList_toList]
    exact hw
  · intro hmem
    refine ⟨_, hmem, sameLetters_iff.2 ?_⟩
    rw [smallLetters_of_mem_words hmem, String.toList_ofList]

theorem decides_iff : env.Decides key b ↔ (env.text? key).bind switch? = some b := by
  rw [Option.bind_eq_some_iff]
  unfold Decides
  simp only [text?_eq_some_iff, switch?_eq_some_iff_mem]

/-- **A variable settles a switch**, whatever the default, if it holds a word for the position. -/
theorem flag_settled_iff : (∀ default, env.flag key default = b) ↔ env.Decides key b := by
  rw [decides_iff]
  unfold flag
  constructor
  · intro h
    cases hswitch : (env.text? key).bind switch? with
    | none =>
      -- the default shows, and not every default is `b`
      have hdefault := h !b
      rw [hswitch, Option.getD_none] at hdefault
      cases b <;> cases hdefault
    | some b' =>
      have hsettled := h b
      rw [hswitch, Option.getD_some] at hsettled
      rw [hsettled]
  · intro h default
    rw [h, Option.getD_some]

/-- A variable that settles no switch leaves the default. -/
theorem flag_eq_default_of_not_decides (h : ¬∃ b, env.Decides key b) (default : Bool) :
    env.flag key default = default := by
  refine flag_eq_default (Option.eq_none_iff_forall_ne_some.2 fun b hb => ?_)
  exact h ⟨b, decides_iff.2 hb⟩

/-- The default has no say exactly if the variable decides. -/
theorem flag_independent_iff :
    (∀ default default', env.flag key default = env.flag key default') ↔
      ∃ b, env.Decides key b := by
  constructor
  · intro h
    by_contra hnot
    have hsame := h true false
    rw [flag_eq_default_of_not_decides hnot, flag_eq_default_of_not_decides hnot] at hsame
    cases hsame
  · rintro ⟨b, hb⟩ default default'
    have hsettled := flag_settled_iff.2 hb
    rw [hsettled default, hsettled default']

/-- A spelling of the value sets the switch as the value does. -/
theorem flag_eq_of_spells (h : env key = some v.toByteArray) (h' : env' key = some v'.toByteArray)
    (hspells : Spells v' v) (default : Bool) : env'.flag key default = env.flag key default := by
  have hswitch : switch? v' = switch? v := by
    refine Option.ext fun b => ?_
    rw [switch?_eq_some_iff_mem, switch?_eq_some_iff_mem, hspells.smallLetters_trim_eq]
  unfold flag
  rw [text?_eq_some_iff.2 h, text?_eq_some_iff.2 h', Option.bind_some, Option.bind_some, hswitch]

/-- A text that is not all blank leaves its middle as the word of the variable. -/
theorem word?_of_not_blank (h : env key = some v.toByteArray)
    (hv : ∃ c ∈ v.toList, isBlank c = false) : env.word? key = some (trim v) := by
  refine word?_eq_some_iff.2 ⟨v, text?_eq_some_iff.2 h, rfl, fun hempty => ?_⟩
  obtain ⟨c, hc, hblank⟩ := hv
  have hall := trim_eq_empty_iff.1 hempty c hc
  rw [hblank] at hall
  cases hall

/-- A variable lacks a word if it is unset, its bytes are those of no text, or the text is all
blank. -/
theorem lacks_iff : env.Lacks key ↔
    env key = none ∨
    (∃ bytes, env key = some bytes ∧ ∀ v : String, bytes ≠ v.toByteArray) ∨
    ∃ v : String, env key = some v.toByteArray ∧ ∀ c ∈ v.toList, isBlank c = true := by
  constructor
  · intro h
    cases h with
    | unset hbytes => exact .inl hbytes
    | invalid hbytes hv => exact .inr (.inl ⟨_, hbytes, fromUTF8?_eq_none_iff.1 hv⟩)
    | blank htext hblank => exact .inr (.inr ⟨_, text?_eq_some_iff.1 htext, hblank⟩)
  · rintro (hbytes | ⟨bytes, hbytes, hv⟩ | ⟨v, hv, hblank⟩)
    · exact .unset hbytes
    · exact .invalid hbytes (fromUTF8?_eq_none_iff.2 hv)
    · exact .blank (text?_eq_some_iff.2 hv) hblank

end Environment

/-! ## The preferred transport -/

namespace Settings

/-- Two settings say the same of every transport. -/
structure Agree (s s' : Settings) : Prop where
  enables : ∀ token, s.enables token = s'.enables token
  optsIn : ∀ t, s.optsIn t = s'.optsIn t
  preferred? : s.preferred? = s'.preferred?
  check : s.check = s'.check

/-- Settings that agree on the preference agree, whatever their switches. -/
theorem agree_of_preference_eq {s s' : Settings} (h : s.preference = s'.preference) :
    Agree s s' := by
  obtain ⟨preference, warn⟩ := s
  obtain ⟨preference', warn'⟩ := s'
  obtain rfl : preference = preference' := h
  exact ⟨fun _ => rfl, fun _ => rfl, rfl, rfl⟩

/-- **Only what is left between the blanks counts** of a preference. -/
theorem agree_of_trim_eq {s s' : Settings} {p p' : String} (hs : s.preference = some p)
    (hs' : s'.preference = some p') (h : trim p = trim p') : Agree s s' := by
  have henables : ∀ token, s.enables token = s'.enables token := by
    intro token
    simp only [enables, hs, hs', Option.any_some, h]
  have hparse : Transport.ofText p = Transport.ofText p' := Transport.ofText_congr h
  refine ⟨henables, fun t => henables t.token, ?_, ?_⟩
  · simp only [preferred?, hs, hs', Option.bind_some, hparse]
  · simp only [check, hs, hs', hparse]

theorem check_of_preference_eq_none {s : Settings} (h : s.preference = none) :
    s.check = .ok () := by
  unfold check
  rw [h]

/-- A text that is all blank names no transport. -/
theorem check_of_blank {s : Settings} {v : String} (hs : s.preference = some v)
    (hv : ∀ c ∈ v.toList, isBlank c = true) : s.check = .error ⟨⟨""⟩⟩ := by
  have hempty : trim v = "" := trim_eq_empty_iff.2 hv
  have hparse : Transport.ofText v = .error ⟨""⟩ := by
    refine Transport.ofText_eq_error_iff.2 ⟨hempty.symm, fun t ht => ?_⟩
    rw [hempty] at ht
    cases t <;> cases ht
  simp only [check, hs, hparse]

end Settings

/-! ## The two ways to settings -/

/-- **Settings read from an environment agree with settings made directly.** A text that is not all
blank is kept without its blanks, and the settings enable, prefer and refuse what settings with the
text as it was written do. A variable that is unset, is no text or is all blank counts as no
preference, while settings made directly refuse a text that is all blank. A switch does not depend
on its default exactly if its variable holds one of the eight words, whatever the padding and the
case of ASCII letters; otherwise it is its default. -/
theorem environment_agrees_with_direct (env : Environment) :
    (∀ v : String, env Settings.preferenceKey = some v.toByteArray →
      (∃ c ∈ v.toList, isBlank c = false) →
        (∀ warn, Settings.Agree (Settings.ofEnvironment env) ⟨some v, warn⟩) ∧
        (Settings.ofEnvironment env).preference = some (trim v) ∧
        TrimsTo v (trim v) ∧ trim (trim v) = trim v) ∧
    ((env Settings.preferenceKey = none ∨
        (∃ bytes, env Settings.preferenceKey = some bytes ∧ ∀ v : String, bytes ≠ v.toByteArray) ∨
        ∃ v : String, env Settings.preferenceKey = some v.toByteArray ∧
          ∀ c ∈ v.toList, isBlank c = true) →
      (Settings.ofEnvironment env).preference = none ∧
      (∀ warn, Settings.Agree (Settings.ofEnvironment env) ⟨none, warn⟩) ∧
      (Settings.ofEnvironment env).check = .ok ()) ∧
    (∀ v : String, (∀ c ∈ v.toList, isBlank c = true) → ∀ warn,
      Settings.check ⟨some v, warn⟩ = .error ⟨⟨""⟩⟩) ∧
    ∀ key,
      (∀ b, (∀ default, env.flag key default = b) ↔ env.Decides key b) ∧
      ((∀ default default', env.flag key default = env.flag key default') ↔
        ∃ v : String, env key = some v.toByteArray ∧
          String.ofList (smallLetters (trim v)) ∈ Environment.onWords ++ Environment.offWords) ∧
      ((¬∃ v : String, env key = some v.toByteArray ∧
          String.ofList (smallLetters (trim v)) ∈ Environment.onWords ++ Environment.offWords) →
        ∀ default, env.flag key default = default) ∧
      ∀ (env' : Environment) (v v' : String), env key = some v.toByteArray →
        env' key = some v'.toByteArray → Spells v' v →
          ∀ default, env'.flag key default = env.flag key default := by
  refine ⟨fun v hv hsome => ?_, fun hlacks => ?_, fun v hv warn => Settings.check_of_blank rfl hv,
    fun key => ?_⟩
  · have hword : (Settings.ofEnvironment env).preference = some (trim v) :=
      Environment.word?_of_not_blank hv hsome
    refine ⟨fun warn => ?_, hword, trimsTo_iff.2 rfl, trim_trim v⟩
    exact Settings.agree_of_trim_eq hword rfl (trim_trim v)
  · have hnone : (Settings.ofEnvironment env).preference = none :=
      Environment.word?_eq_none_iff.2 (Environment.lacks_iff.2 hlacks)
    refine ⟨hnone, fun warn => Settings.agree_of_preference_eq hnone, ?_⟩
    exact Settings.check_of_preference_eq_none hnone
  · have hdecides : (∃ v : String, env key = some v.toByteArray ∧
        String.ofList (smallLetters (trim v)) ∈ Environment.onWords ++ Environment.offWords) ↔
          ∃ b, env.Decides key b := by
      constructor
      · rintro ⟨v, hv, hmem⟩
        rcases List.mem_append.1 hmem with hon | hoff
        · exact ⟨true, v, hv, hon⟩
        · exact ⟨false, v, hv, hoff⟩
      · rintro ⟨b, v, hv, hmem⟩
        refine ⟨v, hv, List.mem_append.2 ?_⟩
        cases b with
        | true => exact .inl hmem
        | false => exact .inr hmem
    rw [hdecides]
    exact ⟨fun b => Environment.flag_settled_iff, Environment.flag_independent_iff,
      Environment.flag_eq_default_of_not_decides, fun env' v v' => Environment.flag_eq_of_spells⟩

end Transports
