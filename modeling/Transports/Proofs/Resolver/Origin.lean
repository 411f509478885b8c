import Transports.Proofs.Detection.Origin
import Transports.Proofs.Resolver.AtMostOnce
/-!
# Where kept records come from

A resolver keeps what a detection made available, or what the fallback always offers
(`Resolver.Origin`). Either way the record is linked to its own constructor, so that a refusal to
make a group names the record. What threads do tells no event of level error: a calm procedure stays
calm whatever it is handed (`Procedure.calm_step`), and so do threads (`Crew.calm_run`).
-/

namespace Transports

/-! ## The fallback -/

namespace Fallback

/-- What the fallback offers: its own handles, and no domain sockets. -/
def offer : Offer where
  serverChannel := serverChannel
  socketChannel := socketChannel
  domain? := none
  datagramChannel := datagramChannel
  eventLoopGroup := eventLoopGroup
  eventLoop := eventLoop
  constructor := ⟨Transport.nio.name, eventLoopGroup, make⟩

theorem assemble_eq : assemble = .ok (.available Transport.nio.name offer) := rfl

theorem run_capability (past : History) :
    capability.run past = (.available Transport.nio.name offer, past) := rfl

theorem handle?_offer (slot : Slot) (b : BoundConstructor) :
    offer.handle? slot = (parts b).handle? slot := by
  cases slot <;> rfl

theorem linked_offer : offer.Linked Transport.nio.name := ⟨rfl, rfl, rfl⟩

end Fallback

/-! ## Records that are kept -/

/-- A record with a linked offer is named by a refusal to make a group on it. -/
theorem Offer.Linked.refusal_eq {c : Capability} {o : Offer} (hl : o.Linked c.name)
    (hc : c.availability = .available o) {host : Host} {n : Nat} {factory : ThreadFactory}
    {now : History} {e : Refusal} (h : ((c.newGroup host n factory).run now).1 = .error e) :
    ∃ source, e = .groupConstruction c.name source := by
  obtain ⟨name, _⟩ := c
  cases hc
  obtain ⟨source, rfl⟩ := Capability.refusal_of_run_newGroup Capability.constructor_available h
  exact ⟨source, by rw [hl.transport_eq]⟩

namespace Resolver

/-- Where an offer that a resolver keeps comes from. -/
inductive Origin (r : Resolver) (past now : History) : Transport → Offer → Prop where
  | fallback : Origin r past now .nio Fallback.offer
  | found {t : Transport} {d : Declaration} {before : History} {o : Offer} :
      Declaration.of? t = some d → past <+: before → o.FoundBy d r.surroundings before now →
      Origin r past now t o

section
variable {r : Resolver} {past now : History} {touches : List FirstTouch} {m : Memory}
  {t : Transport} {c : Capability} {o : Offer}

/-- **Every available record that is kept** has an origin, and is linked to its own constructor. -/
theorem Reached.origin (h : r.Reached past touches m now) (hc : m.record? t = some c)
    (ho : c.availability = .available o) :
    c = .available t.name o ∧ r.Origin past now t o ∧ o.Linked c.name := by
  obtain ⟨before, hb, rfl⟩ := h.record?_eq_some_iff.1 hc
  cases hd : Declaration.of? t with
  | none =>
    obtain rfl := Declaration.of?_eq_none_iff.1 hd
    cases ho
    exact ⟨rfl, .fallback, Fallback.linked_offer⟩
  | some d =>
    obtain ⟨hrecord, hfound, hlinked⟩ := (r.detects_compute t before hd).foundBy_and_linked ho
    obtain ⟨hpast, hnow⟩ := h.trace_prefix _ hb
    rw [hrecord, ← Declaration.name_of? hd]
    exact ⟨rfl, .found hd hpast (hfound.mono hnow), hlinked⟩

end

end Resolver

/-! ## Threads stay calm -/

/-- Whatever a procedure is handed, it tells no event of level error by itself. -/
def Procedure.Calm {α : Type} : Procedure α → Prop
  | done _ => True
  | touch _ next => ∀ c, (next c).Calm
  | tell e next => e.level ≠ .error ∧ next.Calm
  | construct _ _ _ next => ∀ g, (next g).Calm

namespace Procedure

section
variable {α β : Type}

theorem calm_pure (a : α) : (pure a : Procedure α).Calm := trivial

theorem Calm.bind {p : Procedure α} {k : α → Procedure β} (hp : p.Calm) (hk : ∀ a, (k a).Calm) :
    (p >>= k).Calm := by
  show (p.bind k).Calm
  induction p with
  | done a => exact hk a
  | touch t next ih => exact fun c => ih c (hp c)
  | tell e next ih => exact ⟨hp.1, ih hp.2⟩
  | construct make n factory next ih => exact fun g => ih g (hp g)

end

theorem calm_getAll (l : List Transport) : (getAll l).Calm := by
  induction l with
  | nil => exact calm_pure _
  | cons t l ih => exact fun c => ih.bind fun _ => calm_pure _

theorem calm_chosen? (named : Option Transport) : (chosen? named).Calm := by
  cases named with
  | none => exact calm_pure _
  | some t =>
    intro c
    show (if c.isAvailable then _ else _ : Procedure _).Calm
    split
    · exact calm_pure _
    · exact ⟨fun hl => (by cases hl), calm_pure _⟩

theorem calm_firstAvailable? (l : List Transport) : (firstAvailable? l).Calm := by
  induction l with
  | nil => exact calm_pure _
  | cons t l ih =>
    intro c
    show (if c.isAvailable then _ else _ : Procedure _).Calm
    split
    · exact calm_pure _
    · exact ih

theorem calm_preferred (named : Option Transport) : (preferred named).Calm := by
  refine (calm_chosen? named).bind fun c? => ?_
  cases c? with
  | some c => exact calm_pure _
  | none =>
    refine (calm_firstAvailable? _).bind fun c? => ?_
    cases c? with
    | some c => exact calm_pure _
    | none => exact fun _ => calm_pure _

end Procedure

theorem Request.calm_procedure (settings : Settings) (q : Request) :
    (q.procedure settings).Calm := by
  cases q with
  | get t => exact fun _ => Procedure.calm_pure _
  | getByName name =>
    simp only [procedure]
    cases Transport.ofText name with
    | error u => exact Procedure.calm_pure _
    | ok t => exact fun _ => Procedure.calm_pure _
  | records => exact (Procedure.calm_getAll _).bind fun _ => Procedure.calm_pure _
  | firstRecords n => exact (Procedure.calm_getAll _).bind fun _ => Procedure.calm_pure _
  | preferred => exact (Procedure.calm_preferred _).bind fun _ => Procedure.calm_pure _
  | newGroup t n factory =>
    intro c
    unfold Procedure.newGroup
    split
    · exact Procedure.calm_pure _
    · exact fun _ => Procedure.calm_pure _

theorem Procedure.calm_ofRequests (settings : Settings) (requests : List Request) :
    (ofRequests settings requests).Calm := by
  induction requests with
  | nil => exact calm_pure _
  | cons q l ih => exact (q.calm_procedure settings).bind fun _ => ih.bind fun _ => calm_pure _

def Crew.Calm (crew : Crew) : Prop :=
  ∀ p ∈ crew.threads, p.Calm

section
variable (r : Resolver) (host : Host) (m : Memory) (now : History)

theorem Resolver.calm_trace (t : Transport) : History.Calm (r.trace t now) := by
  cases hd : Declaration.of? t with
  | none =>
    obtain rfl := Declaration.of?_eq_none_iff.1 hd
    rw [trace_nio]
    exact History.calm_nil
  | some d => exact (r.detects_compute t now hd).calm

theorem Resolver.calm_get (t : Transport) :
    ∃ c m' added, ((r.get t).run m).run now = ((c, m'), now ++ added) ∧ History.Calm added := by
  cases hc : m.record? t with
  | some c =>
    refine ⟨c, m, [], ?_, History.calm_nil⟩
    rw [run_get_of_known hc, List.append_nil]
  | none =>
    have hrun : ((r.get t).run m).run now = _ := run_get_of_unknown hc
    rw [r.run_compute] at hrun
    exact ⟨_, _, r.trace t now, hrun, r.calm_trace now t⟩

/-- The making of a group tells no event of level error. -/
theorem BoundConstructor.calm_construct (make : BoundConstructor) (n : Nat)
    (factory : ThreadFactory) :
    ∃ g added, (make.construct host n factory).run now = (g, now ++ added) ∧
      History.Calm added := by
  cases ha : make.make.attempt (now.constructions make.groupType.id) with
  | error e => exact ⟨_, _, run_construct_of_refused ha, by simp [History.Calm]⟩
  | ok openAt =>
    have hrun : (make.construct host n factory).run now = _ := run_construct_of_agreed ha
    split at hrun
    · exact ⟨_, _, hrun, by simp [History.Calm]⟩
    · exact ⟨_, _, hrun, by simp [History.Calm, Event.level]⟩

/-- **One step of a calm procedure** tells no event of level error, and leaves a calm one. -/
theorem Procedure.calm_step {α : Type} {p : Procedure α} (hp : p.Calm) :
    ∃ p' records m' added,
      ((p.step r host).run m).run now = (((p', records), m'), now ++ added) ∧ p'.Calm ∧
        History.Calm added := by
  cases p with
  | done a =>
    refine ⟨.done a, [], m, [], ?_, hp, History.calm_nil⟩
    rw [List.append_nil]
    rfl
  | touch t next =>
    obtain ⟨c, m', added, hrun, hadded⟩ := r.calm_get m now t
    exact ⟨next c, [(t, c)], m', added, run_step_touch hrun, hp c, hadded⟩
  | tell e next => exact ⟨next, [], m, [.told e], rfl, hp.2, History.calm_told_iff.2 hp.1⟩
  | construct make n factory next =>
    obtain ⟨g, added, hrun, hadded⟩ := BoundConstructor.calm_construct host now make n factory
    exact ⟨next g, [], m, added, run_step_construct hrun, hp g, hadded⟩

namespace Crew

/-- **Calm threads** tell no event of level error, whatever the schedule. -/
theorem calm_run {crew : Crew} (hcrew : crew.Calm) (schedule : List Nat) :
    ∃ crew' m' added, ((crew.run r host schedule).run m).run now = ((crew', m'), now ++ added) ∧
      History.Calm added := by
  obtain ⟨crew', _, m', _, hrun, -, added, rfl, hadded⟩ :=
    crew.keeps_run (P := Procedure.Calm)
      (I := fun _ _ now' => ∃ added, now' = now ++ added ∧ History.Calm added)
      (fun p _ m now' hp ⟨added, hnow, hadded⟩ => by
        obtain ⟨p', records, m', added', hrun, hp', hadded'⟩ := Procedure.calm_step r host m now' hp
        refine ⟨p', records, m', _, hrun, hp', added ++ added', ?_, ?_⟩
        · rw [hnow, List.append_assoc]
        · exact History.calm_append_iff.2 ⟨hadded, hadded'⟩)
      hcrew ⟨[], (List.append_nil _).symm, History.calm_nil⟩ schedule
  exact ⟨crew', m', added, hrun, hadded⟩

theorem calm_ofRequests (settings : Settings) (programs : List (List Request)) :
    (ofRequests settings programs).Calm := by
  intro p hp
  obtain ⟨requests, -, rfl⟩ := List.mem_map.1 hp
  exact Procedure.calm_ofRequests settings requests

end Crew

end

/-- **Available records hold what was found, and are linked.** Whatever parts the search of a
detection gathers make a record, and so do those of the fallback, so no event of level error is ever
told. An available record holds in each slot the handle that answered the question for that slot, or
the handle of the fallback; a detected one has domain sockets if both of their names are declared.
Its constructor is that of its own group type under its own name, so a refusal to make a group names
the record; the check of parts asks for no such link. -/
theorem available_records_linked :
    (∀ (d : Declaration) (s : Surroundings) (space : String) (past now : History) (parts : Parts),
      (s.findParts d space).run.run past = (.ok parts, now) →
        ∃ o, Capability.ofParts d.name parts none = .ok (.available d.name o)) ∧
    (Fallback.assemble = .ok (.available Transport.nio.name Fallback.offer) ∧
      (∀ past, Fallback.capability.run past =
        (.available Transport.nio.name Fallback.offer, past)) ∧
      (∀ slot b, Fallback.offer.handle? slot = (Fallback.parts b).handle? slot) ∧
      (Capability.available Transport.nio.name Fallback.offer).supportsDomainSockets = false) ∧
    (∀ (d : Declaration) (settings : Settings) (s : Surroundings) (past : History),
      ∃ c effects, (d.detect settings s).run past = (c, past ++ effects) ∧
        History.Calm effects ∧
        ∀ o, c.availability = .available o →
          c = .available d.name o ∧ o.FoundBy d s past (past ++ effects) ∧ o.Linked c.name ∧
          (c.supportsDomainSockets = true ↔
            d.domainServerChannel?.isSome = true ∧ d.domainSocketChannel?.isSome = true)) ∧
    (∀ (r : Resolver) (host : Host) (programs : List (List Request)) (schedule : List Nat)
      (past : History), ∃ crew m added,
        (((Crew.ofRequests r.settings programs).run r host schedule).run {}).run past =
          ((crew, m), past ++ added) ∧
        History.Calm added ∧
        (∀ x ∈ crew.handed, m.record? x.1 = some x.2) ∧
        ∀ t c o, m.record? t = some c → c.availability = .available o →
          c = .available t.name o ∧ r.Origin past (past ++ added) t o ∧ o.Linked c.name) ∧
    (∀ (c : Capability) (o : Offer), c.availability = .available o → o.Linked c.name →
      ∀ host n factory now e, ((c.newGroup host n factory).run now).1 = .error e →
        ∃ source, e = .groupConstruction c.name source) ∧
    ∀ (name : String) (p : Parts) (o : Offer) (b : BoundConstructor),
      Capability.ofParts name p none = .ok (.available name o) →
        Capability.ofParts name { p with constructor? := some b } none =
          .ok (.available name { o with constructor := b }) := by
  refine ⟨fun d s space past now parts h => Surroundings.ofParts_of_findParts h,
    ⟨Fallback.assemble_eq, Fallback.run_capability, Fallback.handle?_offer, rfl⟩,
    fun d settings s past => ?_, fun r host programs schedule past => ?_,
    fun c o hc hl host n factory now e h => hl.refusal_eq hc h,
    fun name p o b h => Capability.ofParts_with_constructor h b⟩
  · obtain ⟨c, effects, h, hrun⟩ := detects_detect d settings s past
    refine ⟨c, effects, hrun, h.calm, fun o ho => ?_⟩
    obtain ⟨rfl, hfound, hlinked⟩ := h.foundBy_and_linked ho
    exact ⟨rfl, hfound, hlinked, hfound.isSome_domain?_iff⟩
  · obtain ⟨crew, touches, m, now, hrun, h⟩ := Crew.tracks_ofRequests r host programs schedule past
    obtain ⟨_, _, added, hrun', hcalm⟩ :=
      Crew.calm_run r host {} past (Crew.calm_ofRequests r.settings programs) schedule
    cases hrun.symm.trans hrun'
    exact ⟨crew, m, added, hrun, hcalm, h.known, fun t c o hc ho => h.reached.origin hc ho⟩

end Transports
