import Transports.Proofs.Capability.Accessors
import Transports.Proofs.Capability.Complete
/-!
# A record is made of all or nothing

What the contents of a record must be like is a list of rules (`Rule.checklist`), and the order of
the list decides which fault is reported: that of the first rule that is broken (`FirstBroken`).
Checking is done in steps, and each step is shown to check its own rules (`Checks`), so that the
rules of all steps together are the checklist (`checks_ofParts`). Contents that keep all rules are
either a cause alone or complete parts, and the record gives back what it was made of
(`ofParts_all_or_nothing`).
-/

namespace Transports

namespace Capability

/-! ## The rules -/

/-- A rule for the contents of a record. -/
inductive Rule where
  /-- The two types for domain sockets come together. -/
  | paired
  /-- A cause stands alone. -/
  | exclusive
  /-- There is something. -/
  | present
  /-- The type in a slot plays the role of the slot. -/
  | fitting (s : Slot)
  /-- Without a cause, the slot is filled. -/
  | filled (s : Slot)
  /-- Without a cause, there is a constructor. -/
  | constructible
deriving DecidableEq, Repr

/-- The rules, in the order in which they count. -/
def Rule.checklist : List Rule :=
  [.paired, .exclusive, .present,
   .fitting .domainServerChannel, .fitting .domainSocketChannel,
   .filled .serverChannel, .fitting .serverChannel,
   .filled .socketChannel, .fitting .socketChannel,
   .filled .datagramChannel, .fitting .datagramChannel,
   .filled .eventLoopGroup, .fitting .eventLoopGroup,
   .filled .eventLoop, .fitting .eventLoop,
   .constructible]

section
variable (name : String) (p : Parts) (cause? : Option Cause)

/-- Contents break a rule, which makes a fault. -/
inductive Breaks : Rule → PartsFault → Prop where
  | paired :
    (p.handle? .domainServerChannel).isSome ≠ (p.handle? .domainSocketChannel).isSome →
    Breaks .paired (.halfDomainPair name)
  | exclusive : cause?.isSome = true → p.isEmpty = false → Breaks .exclusive (.bothPresent name)
  | present : cause? = none → p.isEmpty = true → Breaks .present (.neitherPresent name)
  | fitting {s : Slot} {h : Handle} : p.handle? s = some h → h.role ≠ s.role →
    Breaks (.fitting s) (.roleMismatch name s.label s.role h.role)
  | filled {s : Slot} : cause? = none → p.handle? s = none →
    Breaks (.filled s) (.incomplete name s.label)
  | constructible : cause? = none → p.constructor? = none →
    Breaks .constructible (.incomplete name "event loop group constructor")

def Keeps (r : Rule) : Prop :=
  ∀ fault, ¬ Breaks name p cause? r fault

/-- The first of the rules that contents break makes a fault. -/
inductive FirstBroken : List Rule → PartsFault → Prop where
  | here {r : Rule} {rules : List Rule} {fault : PartsFault} :
    Breaks name p cause? r fault → FirstBroken (r :: rules) fault
  | later {r : Rule} {rules : List Rule} {fault : PartsFault} :
    Keeps name p cause? r → FirstBroken rules fault → FirstBroken (r :: rules) fault

/-- A computation checks rules: it succeeds if they are kept, and else fails with the fault of the
first that is broken. -/
def Checks {α : Type} (rules : List Rule) : Except PartsFault α → Prop
  | .ok _ => ∀ r ∈ rules, Keeps name p cause? r
  | .error fault => FirstBroken name p cause? rules fault

end

section
variable {name : String} {p : Parts} {cause? : Option Cause} {r : Rule} {rules rules' : List Rule}
  {fault fault' : PartsFault} {α β : Type}

theorem Breaks.unique (h : Breaks name p cause? r fault) (h' : Breaks name p cause? r fault') :
    fault = fault' := by
  cases h with
  | fitting he _ =>
    cases h' with
    | fitting he' _ =>
      rw [he] at he'
      cases he'
      rfl
  | _ => cases h'; rfl

/-- Only one fault is the first. -/
theorem FirstBroken.unique (h : FirstBroken name p cause? rules fault)
    (h' : FirstBroken name p cause? rules fault') : fault = fault' := by
  induction h with
  | here hb =>
    cases h' with
    | here hb' => exact hb.unique hb'
    | later hk _ => exact absurd hb (hk _)
  | later hk _ ih =>
    cases h' with
    | here hb' => exact absurd hb' (hk _)
    | later _ h' => exact ih h'

/-- If one rule is broken first, not all are kept. -/
theorem FirstBroken.not_keeps (h : FirstBroken name p cause? rules fault) :
    ¬ ∀ r ∈ rules, Keeps name p cause? r := by
  intro hkeeps
  induction h with
  | here hb => exact hkeeps _ List.mem_cons_self _ hb
  | later _ _ ih => exact ih fun r hr => hkeeps r (List.mem_cons_of_mem _ hr)

theorem FirstBroken.append_right (h : FirstBroken name p cause? rules fault)
    (rules' : List Rule) : FirstBroken name p cause? (rules ++ rules') fault := by
  induction h with
  | here hb => exact .here hb
  | later hk _ ih => exact .later hk ih

theorem FirstBroken.append_left (h : FirstBroken name p cause? rules' fault)
    (hkeeps : ∀ r ∈ rules, Keeps name p cause? r) :
    FirstBroken name p cause? (rules ++ rules') fault := by
  induction rules with
  | nil => exact h
  | cons r rules ih =>
    refine .later (hkeeps r List.mem_cons_self) (ih fun r' hr' => ?_)
    exact hkeeps r' (List.mem_cons_of_mem _ hr')

/-! ## Steps that check rules -/

theorem checks_ok_nil (a : α) : Checks name p cause? [] (.ok a) :=
  fun _ hr => by cases hr

/-- A rule that is kept anyway may be put in front. -/
theorem Checks.cons_of_keeps {x : Except PartsFault α} (h : Checks name p cause? rules x)
    (hk : Keeps name p cause? r) : Checks name p cause? (r :: rules) x := by
  cases x with
  | ok a =>
    intro r' hr'
    rcases List.mem_cons.1 hr' with rfl | hr'
    · exact hk
    · exact h r' hr'
  | error fault => exact .later hk h

/-- A step and then another one check the rules of both. -/
theorem Checks.bind {x : Except PartsFault α} {k : α → Except PartsFault β}
    (hx : Checks name p cause? rules x) (hk : ∀ a, Checks name p cause? rules' (k a)) :
    Checks name p cause? (rules ++ rules') (x >>= k) := by
  cases x with
  | error fault => exact FirstBroken.append_right hx rules'
  | ok a =>
    show Checks name p cause? (rules ++ rules') (k a)
    have hka := hk a
    cases hcase : k a with
    | error fault =>
      rw [hcase] at hka
      exact FirstBroken.append_left hka hx
    | ok b =>
      rw [hcase] at hka
      intro r hr
      rcases List.mem_append.1 hr with hr | hr
      · exact hx r hr
      · exact hka r hr

theorem Checks.map {x : Except PartsFault α} (hx : Checks name p cause? rules x) (f : α → β) :
    Checks name p cause? rules (x.map f) := by
  cases x with
  | ok a => exact hx
  | error fault => exact hx

/-- The fault of a computation that checks rules is that of the first broken rule. -/
theorem Checks.eq_error_iff {x : Except PartsFault α} (h : Checks name p cause? rules x) :
    x = .error fault ↔ FirstBroken name p cause? rules fault := by
  cases x with
  | ok a => exact ⟨fun he => (by cases he), fun hf => absurd h hf.not_keeps⟩
  | error fault' =>
    constructor
    · intro he
      cases he
      exact h
    · intro hf
      rw [FirstBroken.unique h hf]

/-- A computation that checks rules succeeds exactly if they are all kept. -/
theorem Checks.exists_ok_iff {x : Except PartsFault α} (h : Checks name p cause? rules x) :
    (∃ a, x = .ok a) ↔ ∀ r ∈ rules, Keeps name p cause? r := by
  cases x with
  | ok a => exact iff_of_true ⟨a, rfl⟩ h
  | error fault => exact iff_of_false (fun ⟨_, he⟩ => (by cases he)) (FirstBroken.not_keeps h)

/-! ## When a rule is kept -/

theorem keeps_paired_iff :
    Keeps name p cause? .paired ↔
      (p.handle? .domainServerChannel).isSome = (p.handle? .domainSocketChannel).isSome := by
  constructor
  · intro h
    by_contra hne
    exact h _ (.paired hne)
  · rintro h _ ⟨hne⟩
    exact hne h

theorem keeps_exclusive_iff :
    Keeps name p cause? .exclusive ↔ (cause?.isSome = true → p.isEmpty = true) := by
  constructor
  · intro h hcause
    by_contra hempty
    exact h _ (.exclusive hcause (by simpa using hempty))
  · rintro h _ ⟨⟩
    simp_all

theorem keeps_present_iff :
    Keeps name p cause? .present ↔ (cause? = none → p.isEmpty = false) := by
  constructor
  · intro h hcause
    by_contra hempty
    exact h _ (.present hcause (by simpa using hempty))
  · rintro h _ ⟨⟩
    simp_all

theorem keeps_fitting_iff {s : Slot} :
    Keeps name p cause? (.fitting s) ↔ ∀ h, p.handle? s = some h → h.role = s.role := by
  constructor
  · intro hk h he
    by_contra hr
    exact hk _ (.fitting he hr)
  · rintro hall _ ⟨⟩
    simp_all

theorem keeps_filled_iff {s : Slot} :
    Keeps name p cause? (.filled s) ↔ (cause? = none → p.handle? s ≠ none) := by
  constructor
  · intro h hcause he
    exact h _ (.filled hcause he)
  · rintro h _ ⟨⟩
    simp_all

theorem keeps_constructible_iff :
    Keeps name p cause? .constructible ↔ (cause? = none → p.constructor? ≠ none) := by
  constructor
  · intro h hcause he
    exact h _ (.constructible hcause he)
  · rintro h _ ⟨⟩
    simp_all

/-! ## The steps of the program -/

theorem checks_fitting {s : Slot} {h : Handle} (he : p.handle? s = some h) :
    Checks name p cause? [.fitting s] (s.accept name h) := by
  unfold Slot.accept
  split
  · next hr =>
    refine (checks_ok_nil h).cons_of_keeps (keeps_fitting_iff.2 fun k hk => ?_)
    cases he.symm.trans hk
    exact hr
  · next hr => exact .here (.fitting he hr)

theorem checks_require (s : Slot) :
    Checks name p none [.filled s, .fitting s] (p.require name s) := by
  unfold Parts.require
  split
  · next he => exact .here (.filled rfl he)
  · next h he => exact (checks_fitting he).cons_of_keeps (keeps_filled_iff.2 fun _ => by simp [he])

/-- A pair that is there is checked; if it is not there, neither type is. -/
theorem checks_domainPair? (hpair : p.hasHalfPair = false) :
    Checks name p cause? [.fitting .domainServerChannel, .fitting .domainSocketChannel]
      (p.domainPair? name) := by
  unfold Parts.domainPair?
  split
  · next server socket hserver hsocket =>
    show Checks name p cause?
      ([.fitting .domainServerChannel] ++ ([.fitting .domainSocketChannel] ++ [])) _
    refine (checks_fitting hserver).bind fun _ => ?_
    exact (checks_fitting hsocket).bind fun _ => checks_ok_nil _
  · next hnone =>
    have hserver : p.handle? .domainServerChannel = none := by
      cases hs : p.handle? .domainServerChannel with
      | none => rfl
      | some server =>
        cases hk : p.handle? .domainSocketChannel with
        | none => simp [Parts.hasHalfPair, hs, hk] at hpair
        | some socket => exact absurd hk (hnone server socket hs)
    have hsocket : p.handle? .domainSocketChannel = none := by
      simpa [Parts.hasHalfPair, hserver] using hpair
    refine Checks.cons_of_keeps (Checks.cons_of_keeps (checks_ok_nil _) ?_) ?_
    · exact keeps_fitting_iff.2 fun h he => by simp [hsocket] at he
    · exact keeps_fitting_iff.2 fun h he => by simp [hserver] at he

/-- The parts of a record without a cause are checked slot by slot, the constructor last. -/
theorem checks_offer (hpair : p.hasHalfPair = false) :
    Checks name p none
      (([.fitting .domainServerChannel, .fitting .domainSocketChannel] : List Rule) ++
        ([.filled .serverChannel, .fitting .serverChannel] ++
        ([.filled .socketChannel, .fitting .socketChannel] ++
        ([.filled .datagramChannel, .fitting .datagramChannel] ++
        ([.filled .eventLoopGroup, .fitting .eventLoopGroup] ++
        ([.filled .eventLoop, .fitting .eventLoop] ++ [.constructible])))))) (p.offer name) := by
  unfold Parts.offer
  refine (checks_domainPair? hpair).bind fun domain? => ?_
  refine (checks_require _).bind fun server => ?_
  refine (checks_require _).bind fun socket => ?_
  refine (checks_require _).bind fun datagram => ?_
  refine (checks_require _).bind fun group => ?_
  refine (checks_require _).bind fun loop => ?_
  split
  · next hc => exact .here (.constructible rfl hc)
  · next hc =>
    exact (checks_ok_nil _).cons_of_keeps (keeps_constructible_iff.2 fun _ => by simp [hc])

/-- A cause alone keeps all rules. -/
theorem keeps_of_cause {cause : Cause} (hempty : p.isEmpty = true) (r : Rule) :
    Keeps name p (some cause) r := by
  obtain ⟨hslots, -⟩ := Parts.isEmpty_iff.1 hempty
  cases r with
  | paired => exact keeps_paired_iff.2 (by rw [hslots, hslots])
  | exclusive => exact keeps_exclusive_iff.2 fun _ => hempty
  | present => exact keeps_present_iff.2 fun h => by cases h
  | fitting s => exact keeps_fitting_iff.2 fun h he => by simp [hslots] at he
  | filled s => exact keeps_filled_iff.2 fun h => by cases h
  | constructible => exact keeps_constructible_iff.2 fun h => by cases h

/-- **Making a record checks the checklist.** -/
theorem checks_ofParts (name : String) (p : Parts) (cause? : Option Cause) :
    Checks name p cause? Rule.checklist (ofParts name p cause?) := by
  unfold ofParts
  split
  · next hhalf => exact .here (.paired (by simpa [Parts.hasHalfPair] using hhalf))
  · next hhalf =>
    have hpair : p.hasHalfPair = false := by simpa using hhalf
    have hpaired : Keeps name p cause? .paired :=
      keeps_paired_iff.2 (by simpa [Parts.hasHalfPair] using hpair)
    split
    · next cause hempty => exact fun r _ => keeps_of_cause hempty r
    · next cause hempty => exact .later hpaired (.here (.exclusive rfl hempty))
    · next hempty =>
      refine .later hpaired (.later ?_ (.here (.present rfl hempty)))
      exact keeps_exclusive_iff.2 fun h => by cases h
    · next hempty =>
      refine Checks.cons_of_keeps (Checks.cons_of_keeps (Checks.cons_of_keeps
        ((checks_offer hpair).map (available name)) ?_) ?_) hpaired
      · exact keeps_present_iff.2 fun _ => hempty
      · exact keeps_exclusive_iff.2 fun h => by cases h

/-! ## What is accepted -/

/-- Parts without a cause keep all rules exactly if they are complete. -/
theorem keeps_checklist_iff_complete :
    (∀ r ∈ Rule.checklist, Keeps name p none r) ↔ p.Complete := by
  constructor
  · intro h
    have hfills : ∀ s, .filled s ∈ Rule.checklist → .fitting s ∈ Rule.checklist → p.Fills s := by
      intro s hfilled hfitting
      obtain ⟨k, hk⟩ := Option.ne_none_iff_exists'.1 (keeps_filled_iff.1 (h _ hfilled) rfl)
      exact ⟨k, hk, keeps_fitting_iff.1 (h _ hfitting) k hk⟩
    have hpaired := keeps_paired_iff.1 (h .paired (by decide))
    refine ⟨fun s hs => ?_, ?_, ?_⟩
    · cases s with
      | domainServerChannel => cases hs
      | domainSocketChannel => cases hs
      | _ => exact hfills _ (by decide) (by decide)
    · cases hserver : p.handle? .domainServerChannel with
      | none =>
        rw [hserver] at hpaired
        exact .inr ⟨rfl, by simpa using hpaired.symm⟩
      | some server =>
        rw [hserver] at hpaired
        obtain ⟨socket, hsocket⟩ := Option.isSome_iff_exists.1 hpaired.symm
        refine .inl ⟨⟨server, hserver, ?_⟩, socket, hsocket, ?_⟩
        · exact keeps_fitting_iff.1 (h (.fitting .domainServerChannel) (by decide)) server hserver
        · exact keeps_fitting_iff.1 (h (.fitting .domainSocketChannel) (by decide)) socket hsocket
    · have hmake := keeps_constructible_iff.1 (h .constructible (by decide)) rfl
      exact Option.ne_none_iff_exists'.1 hmake
  · intro hp
    obtain ⟨o, ho, -, -⟩ := ofParts_of_complete hp name
    exact (checks_ofParts name p none).exists_ok_iff.1 ⟨_, ho⟩

/-- **A record is made exactly of a cause alone or of complete parts.** -/
theorem exists_ofParts_iff :
    (∃ c, ofParts name p cause? = .ok c) ↔
      ((∀ s, p.handle? s = none) ∧ p.constructor? = none ∧ cause?.isSome = true) ∨
        cause? = none ∧ p.Complete := by
  rw [(checks_ofParts name p cause?).exists_ok_iff]
  cases cause? with
  | none => simp [keeps_checklist_iff_complete]
  | some cause =>
    simp only [Option.isSome_some, and_true, reduceCtorEq, false_and, or_false,
      ← Parts.isEmpty_iff]
    constructor
    · intro h
      exact keeps_exclusive_iff.1 (h .exclusive (by decide)) rfl
    · exact fun hempty r _ => keeps_of_cause hempty r

/-! ## What is given back -/

theorem ofParts_some_eq {cause : Cause} {c : Capability}
    (h : ofParts name p (some cause) = .ok c) : c = unavailable name cause := by
  unfold ofParts at h
  split at h
  · cases h
  · cases hempty : p.isEmpty with
    | true =>
      rw [hempty] at h
      cases h
      rfl
    | false =>
      rw [hempty] at h
      cases h

/-- **A record gives back what it was made of**, under its name: each type, the constructor and the
cause. -/
theorem accessors_ofParts {c : Capability} (h : ofParts name p cause? = .ok c) :
    c.name = name ∧ c.cause? = cause? ∧ (∀ s k, c.handle s = .ok k ↔ p.handle? s = some k) ∧
      ∀ b, c.constructor = .ok b ↔ p.constructor? = some b := by
  rcases exists_ofParts_iff.1 ⟨c, h⟩ with ⟨hslots, hconstructor, hcause⟩ | ⟨rfl, hp⟩
  · obtain ⟨cause, rfl⟩ := Option.isSome_iff_exists.1 hcause
    obtain rfl := ofParts_some_eq h
    exact ⟨rfl, rfl, fun s k => by simp [hslots], fun b => by simp [hconstructor]⟩
  · obtain ⟨o, ho, hhandles, hconstructor⟩ := ofParts_of_complete hp name
    cases h.symm.trans ho
    refine ⟨rfl, rfl, fun s k => ?_, fun b => by simp [hconstructor]⟩
    rw [handle_available, ← hhandles]
    cases o.handle? s <;> simp

/-- Which constructor there is makes no difference to the rules. -/
theorem breaks_with_constructor {b b' : BoundConstructor}
    (h : Breaks name { p with constructor? := some b } cause? r fault) :
    Breaks name { p with constructor? := some b' } cause? r fault := by
  cases h with
  | paired hne => exact .paired hne
  | exclusive hcause _ => exact .exclusive hcause (by simp [Parts.isEmpty])
  | present _ hempty => simp [Parts.isEmpty] at hempty
  | fitting he hr => exact .fitting he hr
  | filled hcause he => exact .filled hcause he
  | constructible _ hc => cases hc

theorem firstBroken_with_constructor {b b' : BoundConstructor}
    (h : FirstBroken name { p with constructor? := some b } cause? rules fault) :
    FirstBroken name { p with constructor? := some b' } cause? rules fault := by
  induction h with
  | here hb => exact .here (breaks_with_constructor hb)
  | later hk _ ih => exact .later (fun fault hb => hk fault (breaks_with_constructor hb)) ih

end

end Capability

open Capability in
/-- **A record is made of all or nothing.** It comes about exactly from a cause alone, or without a
cause from parts that fill each required slot with a type of its role, hold a constructor, and have
either both types for domain sockets, of their roles, or neither. It then gives back what it was
made of. Otherwise the fault is that of the first rule on the checklist that is broken. Of the
constructor nothing is demanded but that it is there. -/
theorem ofParts_all_or_nothing (name : String) (p : Parts) (cause? : Option Cause) :
    ((∃ c, ofParts name p cause? = .ok c) ↔
      ((∀ s, p.handle? s = none) ∧ p.constructor? = none ∧ cause?.isSome = true) ∨
        cause? = none ∧ p.Complete) ∧
    (∀ c, ofParts name p cause? = .ok c →
      c.name = name ∧ c.cause? = cause? ∧ (∀ s k, c.handle s = .ok k ↔ p.handle? s = some k) ∧
        ∀ b, c.constructor = .ok b ↔ p.constructor? = some b) ∧
    (∀ fault, ofParts name p cause? = .error fault ↔
      FirstBroken name p cause? Rule.checklist fault) ∧
    ∀ b b' fault, ofParts name { p with constructor? := some b } cause? = .error fault →
      ofParts name { p with constructor? := some b' } cause? = .error fault := by
  refine ⟨exists_ofParts_iff, fun c h => accessors_ofParts h,
    fun fault => (checks_ofParts name p cause?).eq_error_iff, fun b b' fault h => ?_⟩
  have hfirst := (checks_ofParts name _ cause?).eq_error_iff.1 h
  exact (checks_ofParts name _ cause?).eq_error_iff.2 (firstBroken_with_constructor hfirst)

end Transports
