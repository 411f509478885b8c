import Transports.Failure.Source
/-!
# The chain of a failure, source by source

`Failure.Sources` walks from a failure to its source until there is none, which is how one prints a
failure with everything beneath it. The walk always comes to an end, and what it passes is the chain
(`Failure.sources_iff`).
-/

namespace Transports

/-- The walk from a failure, if there is one, to the source of each: the failures passed. -/
inductive Failure.Sources : Option Failure → List Failure → Prop where
  | done : Sources none []
  | next {e : Failure} {l : List Failure} : Sources e.source? l → Sources (some e) (e :: l)

namespace Failure

theorem Sources.eq {e? : Option Failure} {l l' : List Failure} (h : Sources e? l)
    (h' : Sources e? l') : l = l' := by
  induction h generalizing l' with
  | done =>
    cases h'
    rfl
  | next _ ih =>
    cases h' with
    | next h' => rw [ih h']

/-- The walk beneath a failure passes its chain. -/
theorem sources_chain (e : Failure) : Sources e.source? e.chain := by
  generalize hl : e.chain = l
  induction l generalizing e with
  | nil =>
    rw [e.chain_eq] at hl
    cases hs : e.source? with
    | none => exact .done
    | some s =>
      rw [hs] at hl
      cases hl
  | cons s l ih =>
    rw [e.chain_eq] at hl
    cases hs : e.source? with
    | none =>
      rw [hs] at hl
      cases hl
    | some s' =>
      rw [hs] at hl
      cases hl
      exact .next (ih s rfl)

theorem sources_iff {e : Failure} {l : List Failure} : Sources e.source? l ↔ l = e.chain :=
  ⟨fun h => h.eq e.sources_chain, fun h => h ▸ e.sources_chain⟩

end Failure

theorem Cause.sources_iff {cause : Cause} {l : List Failure} :
    Failure.Sources cause.source? l ↔ l = cause.chain :=
  Failure.sources_iff (e := .cause cause)

end Transports
