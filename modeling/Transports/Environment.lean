import Transports.Text.Blank
import Transports.Text.Letters
/-!
# Environment variables

An environment sends a name to the bytes of its value. A value counts only if its bytes are a text:
bytes that are not UTF-8 are read as if the variable were unset.
-/

namespace Transports

/-- The bytes of each variable that is set. -/
abbrev Environment := String → Option ByteArray

namespace Environment

/-- The value of a variable, if it is set and its bytes are a text. -/
def text? (env : Environment) (key : String) : Option String :=
  (env key).bind String.fromUTF8?

/-- The value of a variable without the blanks around it, if anything is left. -/
def word? (env : Environment) (key : String) : Option String :=
  ((env.text? key).map Text.trim).filter (!·.isEmpty)

def onWords : List String := ["1", "true", "yes", "on"]

def offWords : List String := ["0", "false", "no", "off"]

/-- What a word says about a switch, up to padding and the case of ASCII letters. -/
def switch? (s : String) : Option Bool :=
  let word := Text.trim s
  if onWords.any (Text.sameLetters word) then some true
  else if offWords.any (Text.sameLetters word) then some false
  else none

/-- The switch that a variable sets, the default if it is unset or holds no word for either
position. -/
def flag (env : Environment) (key : String) (default : Bool) : Bool :=
  ((env.text? key).bind switch?).getD default

theorem flag_eq_default {env : Environment} {key : String} {default : Bool}
    (h : (env.text? key).bind switch? = none) : env.flag key default = default := by
  simp [flag, h]

theorem word?_eq_some_iff {env : Environment} {key s : String} :
    env.word? key = some s ↔ ∃ v, env.text? key = some v ∧ Text.trim v = s ∧ s ≠ "" := by
  cases h : env.text? key with
  | none => simp [word?, h]
  | some v =>
    simp only [word?, h, Option.map_some, Option.filter_some]
    split
    · next hv =>
      simp only [Bool.not_eq_true', String.isEmpty_eq_false_iff] at hv
      simp only [Option.some.injEq, exists_eq_left']
      exact ⟨fun e => ⟨e, e ▸ hv⟩, fun e => e.1⟩
    · next hv =>
      simp only [Bool.not_eq_true', String.isEmpty_eq_false_iff, Decidable.not_not] at hv
      simp only [reduceCtorEq, Option.some.injEq, exists_eq_left', false_iff, not_and]
      exact fun e => by simp [← e, hv]

end Environment

end Transports
