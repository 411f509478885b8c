import Transports.Proofs.Detection.Origin
/-!
# The event of a record

A detection tells one event, and the record says which (`Detects.events_eq`): the event of an
unavailable record shows the gate that is closed or the text of the cause, that of an available one
shows whether there are domain sockets. As it shows in a log, by its message and its fields, the
event tells as much of the record (`Capability.describes_event`).
-/

namespace Transports

def Capability.event (c : Capability) : Event :=
  match c.availability with
  | .available offer => .transportAvailable offer.domain?.isSome
  | .unavailable (.namespaceUnresolved tier) => .namespaceUnresolved tier
  | .unavailable (.notOptedIn token) => .notEnabled token
  | .unavailable cause => .transportUnavailable cause

/-! ## What a detection tells -/

/-- The questions and calls of a search tell nothing. -/
theorem Search.events_during {d : Declaration} {s : Surroundings} {space : String}
    {past during : History} {outcome : Except Cause (List Handle)}
    (h : Search s space d.steps [] past outcome during) : during.events = [] := by
  refine List.filterMap_eq_nil_iff.2 fun e he => ?_
  rcases mem_during h he with ⟨_, _, rfl⟩ | ⟨_, _, rfl⟩ <;> rfl

/-- A search fails because a type cannot be found or used, or because the backend says so itself. -/
theorem Search.cause_of_error {s : Surroundings} {space : String} {steps : List Step}
    {found : List Handle} {past during : History} {cause : Cause}
    (h : Search s space steps found past (.error cause) during) :
    ∃ source, cause = .nativeUnavailable source ∨ cause = .resolutionFailure source := by
  generalize ho : (.error cause : Except Cause (List Handle)) = outcome at h
  induction h with
  | done => cases ho
  | stop hf =>
    cases ho
    cases hf with
    | missing _ => exact ⟨_, .inr rfl⟩
    | misfit _ _ => exact ⟨_, .inr rfl⟩
    | noAccessor _ _ => exact ⟨_, .inr rfl⟩
    | refused _ _ _ => exact ⟨_, .inl rfl⟩
    | noConstructor _ _ => exact ⟨_, .inr rfl⟩
  | go _ _ ih => exact ih ho

/-- **A detection tells the event of its record**, and no other. -/
theorem Detects.events_eq {d : Declaration} {settings : Settings} {s : Surroundings}
    {past effects : History} {c : Capability} (h : Detects d settings s past c effects) :
    effects.events = [c.event] := by
  -- what is sought first and what is searched for tell nothing
  have hlast : ∀ {during : History} {event : Event}, during.events = [] →
      History.events (.soughtNamespace d.tier :: (during ++ [.told event])) = [event] := by
    intro during event hd
    show History.events (during ++ [.told event]) = _
    rw [History.events_append, hd]
    rfl
  cases h with
  | homeless _ => rfl
  | gated _ _ => rfl
  | failed _ _ hs =>
    rw [hlast hs.events_during]
    obtain ⟨source, rfl | rfl⟩ := hs.cause_of_error <;> rfl
  | @passed space found during o hspace htoken hs ho =>
    rw [hlast hs.events_during]
    have hdomain := isSome_ofRole_domain hs .domainServerChannel rfl
    rw [← ho.handle?_eq, Offer.isSome_handle?] at hdomain
    exact congrArg (fun b => [Event.transportAvailable b]) hdomain.symm

/-! ## What the event tells of the record -/

theorem Tier.name_injective {t u : Tier} (h : t.name = u.name) : t = u := by
  cases t <;> cases u <;> simp_all [name]

namespace Event

variable {tier : Tier} {token : String} {cause : Cause} {domainSockets : Bool}

@[simp] theorem message_namespaceUnresolved :
    (namespaceUnresolved tier).message = "namespace unresolved" := rfl

@[simp] theorem message_notEnabled :
    (notEnabled token).message = "not enabled explicitly, skipping probe" := rfl

@[simp] theorem message_transportUnavailable :
    (transportUnavailable cause).message = "transport unavailable" := rfl

@[simp] theorem message_transportAvailable :
    (transportAvailable domainSockets).message = "transport available" := rfl

end Event

/-- As an event shows in a log, by its message and its fields, it tells what a record says. -/
structure Event.Describes (e : Event) (c : Capability) : Prop where
  level_eq : e.level = .debug
  namespaceUnresolved_iff : ∀ tier,
    (e.message = "namespace unresolved" ∧ e.fields = [("tier", .text tier.name)]) ↔
      c.cause? = some (.namespaceUnresolved tier)
  notOptedIn_iff : ∀ token,
    (e.message = "not enabled explicitly, skipping probe" ∧ e.fields = [("token", .text token)]) ↔
      c.cause? = some (.notOptedIn token)
  unavailable_iff : ∀ text,
    (e.message = "transport unavailable" ∧ e.fields = [("cause", .text text)]) ↔
      ∃ cause, c.cause? = some cause ∧ cause.message = text ∧
        ∃ source, cause = .nativeUnavailable source ∨ cause = .resolutionFailure source
  available_iff : ∀ domainSockets,
    (e.message = "transport available" ∧ e.fields = [("domain_sockets", .flag domainSockets)]) ↔
      c.isAvailable = true ∧ c.supportsDomainSockets = domainSockets

/-- **The event of a record describes it.** -/
theorem Capability.describes_event (c : Capability) : c.event.Describes c := by
  obtain ⟨name, offer | tier | token | source | source⟩ := c
  · constructor <;>
      simp [event, cause?, isAvailable, supportsDomainSockets, Event.level, Event.fields]
  · constructor <;> simp [event, cause?, isAvailable, Event.level, Event.fields]
    exact fun tier' => ⟨Tier.name_injective, congrArg _⟩
  all_goals
    constructor <;> simp [event, cause?, isAvailable, Event.level, Event.fields]

end Transports
