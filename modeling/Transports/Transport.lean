import Transports.Text.Blank
import Transports.Text.Letters
import Transports.Text.Quoted
/-!
# Transports

A transport is one strategy of multiplexing input and output. It has a name in capitals, which the
program prints, and a token in small letters, which settings use; a text names a transport by
either, whatever the case of its ASCII letters and whatever blanks stand around it
(`Transport.ofText`).
-/

namespace Transports

/-- One strategy of multiplexing input and output. -/
inductive Transport where
  /-- The portable fallback, which needs no native code. -/
  | nio
  /-- The epoll interface of Linux. -/
  | epoll
  /-- The kqueue interface of the BSDs and macOS. -/
  | kqueue
  /-- The io_uring interface of Linux, touched only when it is asked for by name. -/
  | ioUring
deriving DecidableEq, Repr

/-- A text that names no transport, without the blanks around it. -/
structure UnknownTransport where
  text : String
deriving DecidableEq, Repr

def UnknownTransport.message (u : UnknownTransport) : String :=
  "unknown transport type: " ++ Text.quoted u.text

namespace Transport

/-- Every transport, in the order in which they are listed. -/
def all : List Transport :=
  [nio, epoll, kqueue, ioUring]

@[simp] theorem mem_all (t : Transport) : t ∈ all := by
  cases t <;> decide

/-- The name that the program prints. -/
def name : Transport → String
  | nio => "NIO"
  | epoll => "EPOLL"
  | kqueue => "KQUEUE"
  | ioUring => "IO_URING"

/-- The token that settings use. -/
def token : Transport → String
  | nio => "nio"
  | epoll => "epoll"
  | kqueue => "kqueue"
  | ioUring => "io_uring"

/-- The position in `all`. -/
def ordinal : Transport → Nat
  | nio => 0
  | epoll => 1
  | kqueue => 2
  | ioUring => 3

theorem getElem?_all_ordinal (t : Transport) : all[t.ordinal]? = some t := by
  cases t <;> rfl

/-- Name and token differ in the case of their letters only, so they name alike. -/
theorem smallLetters_name (t : Transport) :
    Text.smallLetters t.name = Text.smallLetters t.token := by
  cases t <;> simp [name, token, Text.smallLetters]

/-- No two transports share a token, also up to case. -/
theorem smallLetters_token_injective {t u : Transport}
    (h : Text.smallLetters t.token = Text.smallLetters u.token) : t = u := by
  cases t <;> cases u <;> simp_all [token, Text.smallLetters]

theorem name_injective {t u : Transport} (h : t.name = u.name) : t = u := by
  refine smallLetters_token_injective ?_
  rw [← smallLetters_name, ← smallLetters_name, h]

/-- Whether a text without padding names the transport. -/
def named (t : Transport) (s : String) : Bool :=
  Text.sameLetters s t.name || Text.sameLetters s t.token

theorem named_iff {t : Transport} {s : String} :
    t.named s = true ↔ Text.smallLetters s = Text.smallLetters t.token := by
  simp [named, Text.sameLetters_iff, smallLetters_name]

/-- The transport that a text names. -/
def ofText (s : String) : Except UnknownTransport Transport :=
  match all.find? (·.named (Text.trim s)) with
  | some t => .ok t
  | none => .error ⟨Text.trim s⟩

theorem ofText_eq_ok_iff {s : String} {t : Transport} :
    ofText s = .ok t ↔ Text.smallLetters (Text.trim s) = Text.smallLetters t.token := by
  unfold ofText
  split
  · next u hu =>
    have hs := named_iff.1 (by simpa using List.find?_some hu)
    rw [Except.ok.injEq, hs]
    exact ⟨fun h => h ▸ rfl, smallLetters_token_injective⟩
  · next hnone =>
    have := List.find?_eq_none.1 hnone t (mem_all t)
    rw [named_iff] at this
    simp [this]

theorem ofText_eq_error_iff {s : String} {u : UnknownTransport} :
    ofText s = .error u ↔
      u.text = Text.trim s ∧
        ∀ t : Transport, Text.smallLetters (Text.trim s) ≠ Text.smallLetters t.token := by
  unfold ofText
  split
  · next t ht =>
    have hs := named_iff.1 (by simpa using List.find?_some ht)
    simp only [reduceCtorEq, false_iff, not_and, Classical.not_forall, Decidable.not_not]
    exact fun _ => ⟨t, hs⟩
  · next hnone =>
    rw [Except.error.injEq]
    constructor
    · rintro rfl
      refine ⟨rfl, fun t ht => ?_⟩
      exact List.find?_eq_none.1 hnone t (mem_all t) (named_iff.2 ht)
    · rintro ⟨h, -⟩
      cases u
      exact congrArg UnknownTransport.mk h.symm

end Transport

end Transports
