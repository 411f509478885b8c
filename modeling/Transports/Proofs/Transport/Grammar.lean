import Transports.Proofs.Text.Spelling
import Transports.Resolver.Basic
/-!
# The grammar of transport names

A text names a transport in one way only: it spells the name, which is to spell the token, between
blanks (`Transport.ofText_eq_ok_iff_spells`). Parsing, the opt-in and the preference of settings,
and the look-up of a record by name all go by this grammar; a text outside of it is refused with
what is left of it between its blanks. `transport_grammar` says so of every text.
-/

namespace Transports

open Text

namespace Transport

/-! ## One transport -/

variable {s : String} {t u : Transport}

theorem trim_token (t : Transport) : trim t.token = t.token := by
  cases t <;> decide

theorem trim_name (t : Transport) : trim t.name = t.name := by
  cases t <;> decide

theorem lt_of_mem_name (t : Transport) : ∀ c ∈ t.name.toList, c.toNat < 128 := by
  cases t <;> simp [name]

/-- To spell the name of a transport is to spell its token. -/
theorem spells_name_iff : Spells s t.name ↔ Spells s t.token := by
  rw [spells_iff t.trim_name, spells_iff t.trim_token, smallLetters_name]

/-- **A text names the transport whose name it spells.** -/
theorem ofText_eq_ok_iff_spells : ofText s = .ok t ↔ Spells s t.name := by
  rw [ofText_eq_ok_iff, spells_name_iff, spells_iff t.trim_token]

/-- A text spells the name of one transport at most. -/
theorem eq_of_spells (ht : Spells s t.name) (hu : Spells s u.name) : t = u :=
  Except.ok.inj ((ofText_eq_ok_iff_spells.2 ht).symm.trans (ofText_eq_ok_iff_spells.2 hu))

/-- A text that spells no name is refused with what is left of it between its blanks. -/
theorem ofText_eq_error_of_not_spells (h : ∀ t : Transport, ¬Spells s t.name) :
    ofText s = .error ⟨trim s⟩ := by
  refine ofText_eq_error_iff.2 ⟨rfl, fun t ht => h t ?_⟩
  exact spells_name_iff.2 ((spells_iff t.trim_token).2 ht)

/-! ## What a text is taken for -/

/-- A text that names a transport, as a preference and as a name of a record. -/
structure Understood (s : String) (warn : Bool) (t : Transport) : Prop where
  ofText : Transport.ofText s = .ok t
  preferred? : Settings.preferred? ⟨some s, warn⟩ = some t
  optsIn : ∀ u, Settings.optsIn ⟨some s, warn⟩ u = true ↔ u = t
  check : Settings.check ⟨some s, warn⟩ = .ok ()
  getByName? : ∀ r : Resolver, r.getByName? s = some <$> r.get t

/-- A text that names no transport; the text of the errors is given. -/
structure Refused (s : String) (warn : Bool) (text : String) : Prop where
  ofText : Transport.ofText s = .error ⟨text⟩
  preferred? : Settings.preferred? ⟨some s, warn⟩ = none
  optsIn : ∀ u, Settings.optsIn ⟨some s, warn⟩ u = false
  check : Settings.check ⟨some s, warn⟩ = .error ⟨⟨text⟩⟩
  getByName? : ∀ r : Resolver, r.getByName? s = pure none

section
variable {warn : Bool}

/-- The preference that a text stands for is what the text names. -/
theorem preferred?_mk : Settings.preferred? ⟨some s, warn⟩ = (ofText s).toOption := by
  rw [Settings.preferred?, Option.bind_some]

theorem understood_of_ofText (h : ofText s = .ok t) : Understood s warn t := by
  have hpreferred : Settings.preferred? ⟨some s, warn⟩ = some t := by
    rw [preferred?_mk, h]
    rfl
  refine ⟨h, hpreferred, fun u => ?_, ?_, fun r => ?_⟩
  · rw [Settings.optsIn_iff, hpreferred, Option.some.injEq, eq_comm]
  · simp only [Settings.check, h]
  · simp only [Resolver.getByName?, h, map_eq_pure_bind]

theorem refused_of_ofText {text : String} (h : ofText s = .error ⟨text⟩) :
    Refused s warn text := by
  have hpreferred : Settings.preferred? ⟨some s, warn⟩ = none := by
    rw [preferred?_mk, h]
    rfl
  refine ⟨h, hpreferred, fun u => ?_, ?_, fun r => ?_⟩
  · rw [← Bool.not_eq_true, Settings.optsIn_iff, hpreferred]
    exact nofun
  · simp only [Settings.check, h]
  · simp only [Resolver.getByName?, h]

theorem preferred?_mk_eq_some_iff :
    Settings.preferred? ⟨some s, warn⟩ = some t ↔ Spells s t.name := by
  rw [preferred?_mk, ← ofText_eq_ok_iff_spells]
  cases ofText s <;> simp [Except.toOption]

/-! ## Two texts -/

/-- Two texts name the same transport, or neither names one; they are refused with the same text, up
to the case of letters. -/
structure TakenAlike (s' s : String) (warn : Bool) : Prop where
  ofText : (Transport.ofText s').toOption = (Transport.ofText s).toOption
  text : ∀ e', Transport.ofText s' = .error e' → ∃ e, Transport.ofText s = .error e ∧
    List.Forall₂ SameLetter e'.text.toList e.text.toList
  preferred? : Settings.preferred? ⟨some s', warn⟩ = Settings.preferred? ⟨some s, warn⟩
  optsIn : ∀ t, Settings.optsIn ⟨some s', warn⟩ t = Settings.optsIn ⟨some s, warn⟩ t

variable {s' : String}

/-- What decides is left between the blanks. -/
theorem ofText_congr (h : trim s' = trim s) : ofText s' = ofText s := by
  unfold ofText
  rw [h]

/-- A spelling of a text names what the text names. -/
theorem toOption_ofText_of_spells (h : Spells s' s) :
    (ofText s').toOption = (ofText s).toOption := by
  have hok : ∀ t, ofText s' = .ok t ↔ ofText s = .ok t := fun t => by
    rw [ofText_eq_ok_iff, ofText_eq_ok_iff, h.smallLetters_trim_eq]
  cases hs : ofText s with
  | ok t => rw [(hok t).2 hs]
  | error e =>
    cases hs' : ofText s' with
    | ok t => cases ((hok t).1 hs').symm.trans hs
    | error e' => rfl

theorem takenAlike_of_spells (h : Spells s' s) : TakenAlike s' s warn := by
  have hparse := toOption_ofText_of_spells h
  have hpreferred : Settings.preferred? ⟨some s', warn⟩ = Settings.preferred? ⟨some s, warn⟩ := by
    rw [preferred?_mk, preferred?_mk, hparse]
  refine ⟨hparse, fun e' he' => ?_, hpreferred, fun t => ?_⟩
  · obtain ⟨htext, hnone⟩ := ofText_eq_error_iff.1 he'
    refine ⟨⟨trim s⟩, ofText_eq_error_iff.2 ⟨rfl, fun t => ?_⟩, ?_⟩
    · rw [← h.smallLetters_trim_eq]
      exact hnone t
    · rw [htext]
      exact smallLetters_eq_iff.1 h.smallLetters_trim_eq
  · rw [Bool.eq_iff_iff, Settings.optsIn_iff, Settings.optsIn_iff, hpreferred]

/-- A text between blanks is taken for what it is without them, also if it is refused. -/
theorem ofText_pad {l r : List Char} (hl : ∀ c ∈ l, isBlank c = true)
    (hr : ∀ c ∈ r, isBlank c = true) : ofText (String.ofList (l ++ s.toList ++ r)) = ofText s := by
  refine ofText_congr ?_
  rw [trim, String.toList_ofList, trimChars_pad hl hr, trim]

end

end Transport

/-! ## The grammar -/

/-- **One grammar for the names of transports.** A text names a transport if it is white space, the
name or the token of the transport up to the case of ASCII letters, and white space; parsing, the
opt-in and the preference of settings agree on that, and so does the look-up by name. No text names
two transports, and none with a character beyond ASCII between its blanks names one. A text that
names none is refused with exactly what is left of it without its blanks. More blanks at the ends,
or letters in the other case, change nothing but the letters in that refusal. -/
theorem transport_grammar (s : String) (warn : Bool) :
    (∀ t : Transport,
      (Spells s t.token ↔ Spells s t.name) ∧
      (Transport.ofText s = .ok t ↔ Spells s t.name) ∧
      (Settings.optsIn ⟨some s, warn⟩ t = true ↔ Spells s t.name) ∧
      (Settings.preferred? ⟨some s, warn⟩ = some t ↔ Spells s t.name) ∧
      (Spells s t.name → Transport.Understood s warn t)) ∧
    (∀ t u : Transport, Spells s t.name → Spells s u.name → t = u) ∧
    (∀ c ∈ s.toList, isBlank c = false → 128 ≤ c.toNat → ∀ t : Transport, ¬Spells s t.name) ∧
    ((∀ t : Transport, ¬Spells s t.name) →
      ∃ text, TrimsTo s text ∧ Transport.Refused s warn text) ∧
    (∀ s', Spells s' s → Transport.TakenAlike s' s warn) ∧
    ∀ l r, (∀ c ∈ l, isBlank c = true) → (∀ c ∈ r, isBlank c = true) →
      Transport.ofText (String.ofList (l ++ s.toList ++ r)) = Transport.ofText s := by
  refine ⟨fun t => ⟨Transport.spells_name_iff.symm, Transport.ofText_eq_ok_iff_spells, ?_,
    Transport.preferred?_mk_eq_some_iff, fun h => ?_⟩, fun t u => Transport.eq_of_spells,
    fun c hc hblank hbeyond t ht => ?_, fun hnone => ?_,
    fun s' => Transport.takenAlike_of_spells, fun l r => Transport.ofText_pad⟩
  · rw [Settings.optsIn_iff, Transport.preferred?_mk_eq_some_iff]
  · exact Transport.understood_of_ofText (Transport.ofText_eq_ok_iff_spells.2 h)
  · have := ht.lt_of_not_isBlank t.lt_of_mem_name hc hblank
    omega
  · exact ⟨trim s, trimsTo_iff.2 rfl,
      Transport.refused_of_ofText (Transport.ofText_eq_error_of_not_spells hnone)⟩

end Transports
