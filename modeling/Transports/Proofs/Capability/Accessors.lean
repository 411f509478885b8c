import Mathlib.Data.List.Forall2
import Transports.Capability.OfParts
/-!
# The accessors of a record agree

A record answers three questions about itself and has ten accessors that may refuse. They tell one
story: an unavailable record refuses everything with the cause it holds, an available one refuses at
most the domain sockets, and a group fails for no other reason than its own making. Nothing that was
asked of a record before changes what it answers (`accessors_agree`).
-/

namespace Transports

/-! ## Making a group -/

section
variable {make : BoundConstructor} {host : Host} {n : Nat} {factory : ThreadFactory}
  {past : History}

/-- The making of a group fails under the name of its transport, whatever the reason. -/
theorem BoundConstructor.refusal_of_run_construct {e : Refusal}
    (h : ((make.construct host n factory).run past).1 = .error e) :
    ∃ source, e = .groupConstruction make.transport source := by
  cases ha : make.make.attempt (past.constructions make.groupType.id) with
  | error source =>
    rw [run_construct_of_refused ha] at h
    cases h
    exact ⟨_, rfl⟩
  | ok openAt =>
    rw [run_construct_of_agreed ha] at h
    split at h
    · cases h
      exact ⟨_, rfl⟩
    · cases h

end

namespace Capability

/-! ## One story -/

section
variable {name : String} {cause : Cause} {offer : Offer}

@[simp] theorem isAvailable_unavailable : (unavailable name cause).isAvailable = false := rfl

@[simp] theorem isAvailable_available : (available name offer).isAvailable = true := rfl

@[simp] theorem cause?_unavailable : (unavailable name cause).cause? = some cause := rfl

@[simp] theorem cause?_available : (available name offer).cause? = none := rfl

@[simp] theorem supportsDomainSockets_unavailable :
    (unavailable name cause).supportsDomainSockets = false := rfl

@[simp] theorem supportsDomainSockets_available :
    (available name offer).supportsDomainSockets = offer.domain?.isSome := rfl

@[simp] theorem name_available : (available name offer).name = name := rfl

/-- A record is one or the other. -/
theorem eq_unavailable_or_eq_available (c : Capability) :
    (∃ name cause, c = unavailable name cause) ∨ ∃ name offer, c = available name offer := by
  obtain ⟨name, offer | cause⟩ := c
  · exact .inr ⟨name, offer, rfl⟩
  · exact .inl ⟨name, cause, rfl⟩

theorem exists_handle_available_iff {s : Slot} :
    (∃ h, (available name offer).handle s = .ok h) ↔
      s.isDomain = false ∨ offer.domain?.isSome = true := by
  have hs := offer.isSome_handle? s
  rw [handle_available]
  cases h : offer.handle? s <;> simp_all

end

section
variable {c : Capability} {cause : Cause} {s : Slot}

theorem eq_unavailable_of_cause? (h : c.cause? = some cause) : c = unavailable c.name cause := by
  rcases c.eq_unavailable_or_eq_available with ⟨name, cause', rfl⟩ | ⟨name, offer, rfl⟩
  · cases h
    rfl
  · cases h

theorem isAvailable_iff_cause?_eq_none : c.isAvailable = true ↔ c.cause? = none := by
  rcases c.eq_unavailable_or_eq_available with ⟨name, cause, rfl⟩ | ⟨name, offer, rfl⟩ <;> simp

/-- The accessor of a type that is not for domain sockets succeeds on an available record. -/
theorem exists_handle_iff_isAvailable (hs : s.isDomain = false) :
    (∃ h, c.handle s = .ok h) ↔ c.isAvailable = true := by
  rcases c.eq_unavailable_or_eq_available with ⟨name, cause, rfl⟩ | ⟨name, offer, rfl⟩
  · simp
  · simp [exists_handle_available_iff, hs]

/-- The accessor of a type for domain sockets succeeds on a record that supports them. -/
theorem exists_handle_iff_supportsDomainSockets (hs : s.isDomain = true) :
    (∃ h, c.handle s = .ok h) ↔ c.supportsDomainSockets = true := by
  rcases c.eq_unavailable_or_eq_available with ⟨name, cause, rfl⟩ | ⟨name, offer, rfl⟩
  · simp
  · simp [exists_handle_available_iff, hs]

theorem exists_constructor_iff_isAvailable :
    (∃ make, c.constructor = .ok make) ↔ c.isAvailable = true := by
  rcases c.eq_unavailable_or_eq_available with ⟨name, cause, rfl⟩ | ⟨name, offer, rfl⟩ <;> simp

/-- An available record refuses the types for domain sockets, if it lacks them, and no other. -/
theorem handle_eq_error_iff (ha : c.isAvailable = true) {e : Refusal} :
    c.handle s = .error e ↔
      s.isDomain = true ∧ c.supportsDomainSockets = false ∧
        e = .unsupported c.name "domain sockets" := by
  rcases c.eq_unavailable_or_eq_available with ⟨name, cause, rfl⟩ | ⟨name, offer, rfl⟩
  · cases ha
  · have hs := offer.isSome_handle? s
    rw [handle_available]
    cases h : offer.handle? s with
    | none =>
      obtain ⟨hdomain, hnone⟩ : s.isDomain = true ∧ offer.domain? = none := by simpa [h] using hs
      simp [hdomain, hnone, eq_comm]
    | some t =>
      have hd : ¬ (s.isDomain = true ∧ offer.domain?.isSome = false) := by
        rintro ⟨hdomain, hnone⟩
        rw [h, hdomain, hnone] at hs
        cases hs
      exact ⟨fun he => (by cases he), fun he => absurd ⟨he.1, he.2.1⟩ hd⟩

/-- A record with a constructor fails to make a group only in the making. -/
theorem refusal_of_run_newGroup {make : BoundConstructor} (hc : c.constructor = .ok make)
    {host : Host} {n : Nat} {factory : ThreadFactory} {past : History} {e : Refusal}
    (h : ((c.newGroup host n factory).run past).1 = .error e) :
    ∃ source, e = .groupConstruction make.transport source := by
  unfold newGroup at h
  rw [hc] at h
  exact BoundConstructor.refusal_of_run_construct h

end

/-! ## The cause is passed on as it is -/

end Capability

/-- The refusal with another cause in place of the one it holds. -/
def Refusal.mapCause (f : Cause → Cause) : Refusal → Refusal
  | notAvailable name cause => notAvailable name (f cause)
  | unsupported name capability => unsupported name capability
  | groupConstruction name source => groupConstruction name source

namespace Capability

/-- The record with another cause in place of the one it holds. -/
def mapCause (f : Cause → Cause) (c : Capability) : Capability :=
  match c.availability with
  | .available _ => c
  | .unavailable cause => unavailable c.name (f cause)

section
variable (f : Cause → Cause) (c : Capability)

/-- The accessor does not look at the cause: it hands on whichever one the record holds. -/
theorem handle_mapCause (s : Slot) :
    (c.mapCause f).handle s = (c.handle s).mapError (·.mapCause f) := by
  rcases c.eq_unavailable_or_eq_available with ⟨name, cause, rfl⟩ | ⟨name, offer, rfl⟩
  · rfl
  · show (available name offer).handle s = ((available name offer).handle s).mapError _
    rw [handle_available]
    cases offer.handle? s <;> rfl

theorem constructor_mapCause :
    (c.mapCause f).constructor = c.constructor.mapError (·.mapCause f) := by
  rcases c.eq_unavailable_or_eq_available with ⟨name, cause, rfl⟩ | ⟨name, offer, rfl⟩ <;> rfl

theorem run_newGroup_mapCause (host : Host) (n : Nat) (factory : ThreadFactory) (past : History) :
    ((c.mapCause f).newGroup host n factory).run past =
      (((c.newGroup host n factory).run past).1.mapError (·.mapCause f),
        ((c.newGroup host n factory).run past).2) := by
  rcases c.eq_unavailable_or_eq_available with ⟨name, cause, rfl⟩ | ⟨name, offer, rfl⟩
  · rfl
  · show ((available name offer).newGroup host n factory).run past = _
    refine Prod.ext ?_ rfl
    cases hrun : (((available name offer).newGroup host n factory).run past).1 with
    | ok g => rfl
    | error e =>
      obtain ⟨source, rfl⟩ := refusal_of_run_newGroup constructor_available hrun
      rfl

end

/-! ## Calls one after the other -/

inductive Call where
  | handle (s : Slot)
  | constructor
  | newGroup (n : Nat) (factory : ThreadFactory)

inductive Reply where
  | handle (r : Except Refusal Handle)
  | constructor (r : Except Refusal BoundConstructor)
  | group (r : Except Refusal (LoopGroup Resource))

def call (c : Capability) (host : Host) : Call → Act Reply
  | .handle s => return .handle (c.handle s)
  | .constructor => return .constructor c.constructor
  | .newGroup n factory => return .group (← c.newGroup host n factory)

def calls (c : Capability) (host : Host) (l : List Call) : Act (List Reply) :=
  l.mapM (c.call host)

/-- What a record answers to a call, whatever happened before: its accessors always the same, and
only the making of a group may go one way or the other, if there is a constructor. -/
def Tells (c : Capability) : Call → Reply → Prop
  | .handle s, .handle r => r = c.handle s
  | .constructor, .constructor r => r = c.constructor
  | .newGroup _ _, .group r =>
    (∀ e, c.constructor = .error e → r = .error e) ∧
      ∀ make e, c.constructor = .ok make → r = .error e →
        ∃ source, e = .groupConstruction make.transport source
  | _, _ => False

section
variable (c : Capability) (host : Host)

theorem tells_call (q : Call) (past : History) : c.Tells q ((c.call host q).run past).1 := by
  cases q with
  | handle s => rfl
  | constructor => rfl
  | newGroup n factory =>
    refine ⟨fun e hc => ?_, fun make e hc he => refusal_of_run_newGroup hc he⟩
    show ((c.newGroup host n factory).run past).1 = .error e
    unfold newGroup
    rw [hc]
    rfl

theorem run_calls_cons (q : Call) (l : List Call) (past : History) :
    (c.calls host (q :: l)).run past =
      (((c.call host q).run past).1 :: ((c.calls host l).run ((c.call host q).run past).2).1,
        ((c.calls host l).run ((c.call host q).run past).2).2) := by
  unfold calls
  rw [List.mapM_cons]
  rfl

/-- **Any number of calls**: each is answered as if it were the first. -/
theorem tells_calls (l : List Call) (past : History) :
    List.Forall₂ c.Tells l ((c.calls host l).run past).1 := by
  induction l generalizing past with
  | nil => exact .nil
  | cons q l ih =>
    rw [run_calls_cons]
    exact .cons (c.tells_call host q past) (ih _)

end

/-- The calls of an unavailable record leave everything as it is: no constructor is called. -/
theorem run_calls_unavailable (name : String) (cause : Cause) (host : Host) (l : List Call)
    (past : History) : (((unavailable name cause).calls host l).run past).2 = past := by
  induction l with
  | nil => rfl
  | cons q l ih =>
    have hq : (((unavailable name cause).call host q).run past).2 = past := by
      cases q <;> rfl
    rw [run_calls_cons, hq]
    exact ih

end Capability

/-- **The accessors of a record agree**, with each other and with what the record says of itself. An
unavailable record refuses everything with its own name and the cause that it holds, whichever that
is, and calls no constructor; the chain beneath the refusal is that cause and the chain of the
cause. An available record without domain sockets refuses the two types for them and nothing else,
and the making of a group on an available record fails only as such. Whatever was asked before, a
call is answered as if it were the first. -/
theorem accessors_agree (c : Capability) :
    (c.isAvailable = true ↔ c.cause? = none) ∧
    (∀ s : Slot, s.isDomain = false → ((∃ h, c.handle s = .ok h) ↔ c.isAvailable = true)) ∧
    ((∃ make, c.constructor = .ok make) ↔ c.isAvailable = true) ∧
    (∀ s : Slot, s.isDomain = true →
      ((∃ h, c.handle s = .ok h) ↔ c.supportsDomainSockets = true)) ∧
    (∀ cause, c.cause? = some cause →
      (∀ s, c.handle s = .error (.notAvailable c.name cause)) ∧
      c.constructor = .error (.notAvailable c.name cause) ∧
      (∀ host n factory past, (c.newGroup host n factory).run past =
        (.error (.notAvailable c.name cause), past)) ∧
      (Failure.refusal (.notAvailable c.name cause)).source? = some (.cause cause) ∧
      (Failure.refusal (.notAvailable c.name cause)).chain =
        .cause cause :: (Failure.cause cause).chain) ∧
    (∀ f, (∀ s, (c.mapCause f).handle s = (c.handle s).mapError (·.mapCause f)) ∧
      (c.mapCause f).constructor = c.constructor.mapError (·.mapCause f) ∧
      ∀ host n factory past, ((c.mapCause f).newGroup host n factory).run past =
        (((c.newGroup host n factory).run past).1.mapError (·.mapCause f),
          ((c.newGroup host n factory).run past).2)) ∧
    (c.isAvailable = true →
      (∀ s e, c.handle s = .error e ↔ s.isDomain = true ∧ c.supportsDomainSockets = false ∧
        e = .unsupported c.name "domain sockets") ∧
      ∃ make, c.constructor = .ok make ∧ ∀ host n factory past,
        (∃ g, ((c.newGroup host n factory).run past).1 = .ok g) ∨
          ∃ source, ((c.newGroup host n factory).run past).1 =
            .error (.groupConstruction make.transport source)) ∧
    ∀ host l past, List.Forall₂ c.Tells l ((c.calls host l).run past).1 ∧
      (c.isAvailable = false → ((c.calls host l).run past).2 = past) := by
  refine ⟨Capability.isAvailable_iff_cause?_eq_none,
    fun s hs => Capability.exists_handle_iff_isAvailable hs,
    Capability.exists_constructor_iff_isAvailable,
    fun s hs => Capability.exists_handle_iff_supportsDomainSockets hs, fun cause hc => ?_,
    fun f => ⟨c.handle_mapCause f, c.constructor_mapCause f, c.run_newGroup_mapCause f⟩,
    fun ha => ?_, fun host l past => ⟨c.tells_calls host l past, fun ha => ?_⟩⟩
  · rw [Capability.eq_unavailable_of_cause? hc]
    exact ⟨fun _ => rfl, rfl, fun _ _ _ _ => rfl, rfl, rfl⟩
  · obtain ⟨make, hmake⟩ := Capability.exists_constructor_iff_isAvailable.2 ha
    refine ⟨fun s e => Capability.handle_eq_error_iff ha, make, hmake,
      fun host n factory past => ?_⟩
    cases hrun : ((c.newGroup host n factory).run past).1 with
    | ok g => exact .inl ⟨g, rfl⟩
    | error e =>
      obtain ⟨source, rfl⟩ := Capability.refusal_of_run_newGroup hmake hrun
      exact .inr ⟨source, rfl⟩
  · rcases c.eq_unavailable_or_eq_available with ⟨name, cause, rfl⟩ | ⟨name, offer, rfl⟩
    · exact Capability.run_calls_unavailable name cause host l past
    · cases ha

end Transports
