import Transports.Proofs.Detection.FirstFailure
import Transports.Proofs.Failure.Chain
/-!
# What stripping leaves

Every failure is a stack of wrappers over the failure that stripping leaves
(`Failure.exists_stack`), so whatever holds of a stack and its root tells what stripping does: it
finds the first failure on the walk from source to source that is no wrapper, and that failure is
left as it is, with everything beneath it. A detection strips what it puts into a cause
(`Detects.stripped`), and a constructor what it puts into a refusal.
-/

namespace Transports

/-- A wrapper, apart from the failure in it. -/
inductive Wrapper where
  /-- A type could not be set up. -/
  | initialization (typeName : String)
  /-- A call failed. -/
  | invocation
deriving DecidableEq, Repr

namespace Wrapper

def around : Wrapper → Failure → Failure
  | initialization typeName, e => .lookup (.initialization typeName e)
  | invocation, e => .lookup (.invocation e)

/-- What the text of a wrapper says before the text of the failure in it. -/
def preamble : Wrapper → String
  | initialization typeName => s!"failed to initialize {typeName}: "
  | invocation => "invocation failed: "

/-- A failure in wrappers, the outermost first. -/
def stack (ws : List Wrapper) (root : Failure) : Failure :=
  ws.foldr around root

end Wrapper

namespace Failure

open Wrapper

/-- A failure and everything beneath it, outermost first. -/
def walk (e : Failure) : List Failure :=
  e :: e.chain

/-- The walk goes from each failure to its source, until there is none. -/
theorem sources_walk (e : Failure) : Sources (some e) e.walk :=
  .next e.sources_chain

/-! ## One wrapper -/

section
variable (w : Wrapper) (e : Failure)

@[simp] theorem isWrapper_around : (w.around e).isWrapper = true := by
  cases w <;> rfl

@[simp] theorem strip_around : (w.around e).strip = e.strip := by
  cases w with
  | initialization typeName => exact strip_initialization typeName e
  | invocation => exact strip_invocation e

theorem message_around : (w.around e).message = w.preamble ++ e.message := by
  cases w <;> rfl

theorem walk_around : (w.around e).walk = w.around e :: e.walk := by
  cases w <;> rw [walk, around, chain, LookupFailure.chain] <;> rfl

end

/-! ## Stacks of wrappers -/

/-- **Every failure is a stack of wrappers** over what stripping leaves of it. -/
theorem exists_stack (e : Failure) : ∃ ws, e = stack ws e.strip := by
  fun_induction strip e with
  | case1 typeName source ih =>
    obtain ⟨ws, hws⟩ := ih
    exact ⟨.initialization typeName :: ws, congrArg (around (.initialization typeName)) hws⟩
  | case2 source ih =>
    obtain ⟨ws, hws⟩ := ih
    exact ⟨.invocation :: ws, congrArg (around .invocation) hws⟩
  | case3 e => exact ⟨[], rfl⟩

section
variable (ws : List Wrapper) (root : Failure)

/-- Wrappers make no difference to what stripping leaves. -/
theorem strip_stack : (stack ws root).strip = root.strip := by
  induction ws with
  | nil => rfl
  | cons w ws ih => exact (strip_around w _).trans ih

/-- Under wrappers, a failure that is none is left as it is. -/
theorem strip_stack_of_not_isWrapper {root : Failure} (h : root.isWrapper = false) :
    (stack ws root).strip = root :=
  (strip_stack ws root).trans (strip_of_not_isWrapper h)

/-- The text of a stack ends in that of its root. -/
theorem exists_message_stack : ∃ front, (stack ws root).message = front ++ root.message := by
  induction ws with
  | nil => exact ⟨"", String.empty_append.symm⟩
  | cons w ws ih =>
    obtain ⟨front, hfront⟩ := ih
    refine ⟨w.preamble ++ front, ?_⟩
    show (w.around (stack ws root)).message = _
    rw [message_around, hfront, String.append_assoc]

/-- The walk from a stack passes its root, and goes on from there as from the root alone. -/
theorem walk_suffix_walk_stack : root.walk <:+ (stack ws root).walk := by
  induction ws with
  | nil => exact List.suffix_refl _
  | cons w ws ih =>
    show _ <:+ (w.around (stack ws root)).walk
    rw [walk_around]
    exact ih.trans (List.suffix_cons _ _)

/-- The root is the first on the walk from a stack that is no wrapper, if it is none. -/
theorem find?_walk_stack {root : Failure} (h : root.isWrapper = false) :
    (stack ws root).walk.find? (!·.isWrapper) = some root := by
  induction ws with
  | nil => exact List.find?_cons_of_pos (by simp [stack, h])
  | cons w ws ih =>
    show (w.around (stack ws root)).walk.find? _ = _
    rw [walk_around, List.find?_cons_of_neg (by simp)]
    exact ih

end

end Failure

/-! ## What is stripped -/

/-- The failure that a cause holds, if it holds one, is no wrapper. -/
def Cause.Stripped (cause : Cause) : Prop :=
  ∀ e, cause = .nativeUnavailable e ∨ cause = .resolutionFailure e → e.isWrapper = false

namespace Cause.Stripped

theorem nativeUnavailable {e : Failure} (h : e.isWrapper = false) :
    (Cause.nativeUnavailable e).Stripped := by
  rintro e' (he | he)
  · cases he
    exact h
  · cases he

theorem resolutionFailure {e : Failure} (h : e.isWrapper = false) :
    (Cause.resolutionFailure e).Stripped := by
  rintro e' (he | he)
  · cases he
  · cases he
    exact h

end Cause.Stripped

/-- What makes a step of a search fail is stripped before it becomes the cause. -/
theorem Search.Fails.stripped {s : Surroundings} {space : String} {found : List Handle}
    {past effects : History} {step : Search.Step} {cause : Cause}
    (h : Search.Fails s space found past step cause effects) : cause.Stripped := by
  cases h with
  | missing _ => exact .resolutionFailure (Failure.isWrapper_strip _)
  | misfit _ _ => exact .resolutionFailure rfl
  | noAccessor _ _ => exact .resolutionFailure rfl
  | refused _ _ _ => exact .nativeUnavailable (Failure.isWrapper_strip _)
  | noConstructor _ _ => exact .resolutionFailure rfl

theorem Search.stripped {s : Surroundings} {space : String} {steps : List Search.Step}
    {found : List Handle} {past during : History} {cause : Cause}
    (h : Search s space steps found past (.error cause) during) : cause.Stripped := by
  generalize ho : (.error cause : Except Cause (List Handle)) = outcome at h
  induction h with
  | done => cases ho
  | stop hf =>
    cases ho
    exact hf.stripped
  | go _ _ ih => exact ih ho

/-- **A detection strips** the failure that it puts into a record. -/
theorem Detects.stripped {d : Declaration} {settings : Settings} {s : Surroundings}
    {past effects : History} {c : Capability} (h : Detects d settings s past c effects)
    {cause : Cause} (hc : c.cause? = some cause) : cause.Stripped := by
  cases h with
  | homeless _ =>
    cases hc
    rintro e (he | he) <;> cases he
  | gated _ _ =>
    cases hc
    rintro e (he | he) <;> cases he
  | failed _ _ hs =>
    cases hc
    exact hs.stripped
  | passed _ _ _ _ => cases hc

/-- **A constructor strips** the failure that it puts into a refusal. -/
theorem BoundConstructor.stripped_of_construct {c : BoundConstructor} {host : Host} {n : Nat}
    {factory : ThreadFactory} {past : History} {e : Refusal}
    (h : ((c.construct host n factory).run past).1 = .error e) :
    ∃ source, e = .groupConstruction c.transport source ∧ source.isWrapper = false := by
  cases ha : c.make.attempt (past.constructions c.groupType.id) with
  | error e' =>
    rw [run_construct_of_refused ha] at h
    cases h
    exact ⟨_, rfl, e'.isWrapper_strip⟩
  | ok openAt =>
    rw [run_construct_of_agreed ha] at h
    split at h
    · cases h
      exact ⟨_, rfl, Failure.isWrapper_strip _⟩
    · cases h

open Wrapper in
/-- **Stripping finds the failure that matters.** Every failure is finitely many wrappers over what
stripping leaves, which is no wrapper: it is the first such failure on the walk from source to
source, the walk goes on from it as it would from it alone, and the text ends in its text. Wrappers
over a failure make no difference, and to strip again changes nothing; what is no wrapper is left as
it is, whatever is inside. So no failure in the cause that a detection gives, or in the refusal that
a constructor gives, is a wrapper. -/
theorem strip_finds_root :
    (∀ e : Failure,
      (∃ ws, e = stack ws e.strip) ∧ e.strip.isWrapper = false ∧
      Failure.Sources (some e) e.walk ∧ e.walk.find? (!·.isWrapper) = some e.strip ∧
      e.strip.walk <:+ e.walk ∧ e.strip.strip = e.strip ∧
      ∃ front, e.message = front ++ e.strip.message) ∧
    (∀ ws root, (stack ws root).strip = root.strip) ∧
    (∀ ws root, root.isWrapper = false → (stack ws root).strip = root) ∧
    (∀ ws, (∀ e, (stack ws (.io e)).strip = .io e) ∧ (∀ e, (stack ws (.cause e)).strip = .cause e) ∧
      ∀ e, (stack ws (.refusal e)).strip = .refusal e) ∧
    (∀ (d : Declaration) settings s past source,
      ((d.detect settings s).run past).1.cause? = some (.nativeUnavailable source) ∨
        ((d.detect settings s).run past).1.cause? = some (.resolutionFailure source) →
      source.isWrapper = false) ∧
    ∀ (c : BoundConstructor) host n factory past e,
      ((c.construct host n factory).run past).1 = .error e →
      ∃ source, e = .groupConstruction c.transport source ∧ source.isWrapper = false := by
  refine ⟨fun e => ?_, Failure.strip_stack, fun ws _ => Failure.strip_stack_of_not_isWrapper ws,
    fun ws => ⟨fun _ => ?_, fun _ => ?_, fun _ => ?_⟩, fun d settings s past source h => ?_,
    fun _ _ _ _ _ _ => BoundConstructor.stripped_of_construct⟩
  · obtain ⟨ws, hws⟩ := e.exists_stack
    have hfind := Failure.find?_walk_stack ws e.isWrapper_strip
    have hsuffix := Failure.walk_suffix_walk_stack ws e.strip
    have hmessage := Failure.exists_message_stack ws e.strip
    rw [← hws] at hfind hsuffix hmessage
    exact ⟨⟨ws, hws⟩, e.isWrapper_strip, e.sources_walk, hfind, hsuffix, e.strip_strip, hmessage⟩
  · exact Failure.strip_stack_of_not_isWrapper ws rfl
  · exact Failure.strip_stack_of_not_isWrapper ws rfl
  · exact Failure.strip_stack_of_not_isWrapper ws rfl
  · obtain ⟨c, effects, hd, hrun⟩ := detects_detect d settings s past
    rw [hrun] at h
    rcases h with hc | hc
    · exact hd.stripped hc source (.inl rfl)
    · exact hd.stripped hc source (.inr rfl)

/-- A wrapper inside of a failure of input or output stays where it is. -/
example : (Wrapper.stack [.invocation, .initialization "x.Native"]
    (.io (.wrapped .other (.lookup (.invocation (.plain "no ring")))))).strip =
    .io (.wrapped .other (.lookup (.invocation (.plain "no ring")))) := by
  rfl

end Transports
