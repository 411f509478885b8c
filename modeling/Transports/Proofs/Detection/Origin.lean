import Transports.Proofs.Capability.Accessors
import Transports.Proofs.Detection.Isolation
/-!
# Where the contents of a record come from

A record that a detection makes available holds in each slot the very handle that was the answer to
the question for that slot (`Offer.FoundBy`), and its constructor is that of its own group type,
bound to its own name (`Offer.Linked`). Nothing that checks parts asks for this link
(`ofParts_with_constructor`); it holds because detection and fallback bind what they put into the
slot. What is found always makes a record, so the two events of level error are never told.
-/

namespace Transports

open Search

/-! ## The question for a slot -/

/-- The place of the question for a slot among the questions of a detection; the first question, at
place 0, is for the entry point. -/
def Slot.place : Slot → Nat
  | serverChannel => 1
  | socketChannel => 2
  | datagramChannel => 3
  | eventLoopGroup => 4
  | eventLoop => 5
  | domainServerChannel => 6
  | domainSocketChannel => 7

/-- The name that is asked for to fill a slot; for domain sockets only if both are declared. -/
def Declaration.slotName? (d : Declaration) : Slot → Option String
  | .serverChannel => some d.serverChannel
  | .socketChannel => some d.socketChannel
  | .datagramChannel => some d.datagramChannel
  | .eventLoopGroup => some d.eventLoopGroup
  | .eventLoop => some d.eventLoop
  | .domainServerChannel => d.domainSockets?.map (·.1)
  | .domainSocketChannel => d.domainSockets?.map (·.2)

theorem Declaration.getElem?_typeNames (d : Declaration) (slot : Slot) :
    d.typeNames[slot.place]? = d.slotName? slot := by
  unfold typeNames slotName? domainSockets?
  cases d.domainServerChannel? <;> cases d.domainSocketChannel? <;> cases slot <;> rfl

/-- Between two points of a history, the question at a place is answered with a handle. -/
def Surroundings.Answered (s : Surroundings) (past now : History) (place : Nat)
    (space typeName : String) (h : Handle) : Prop :=
  ∃ before : History, past <+: before ∧ before ++ [.asked space typeName] <+: now ∧
    before.questions.length = past.questions.length + place ∧ s.lookup before space typeName = .ok h

/-- An offer holds in each slot what the question for that slot was answered with, and has domain
sockets if both of their names are declared. -/
structure Offer.FoundBy (o : Offer) (d : Declaration) (s : Surroundings) (past now : History) :
    Prop where
  answered : ∃ space, s.namespaceOf past d.tier = some space ∧
    ∀ slot h, o.handle? slot = some h → ∃ typeName, d.slotName? slot = some typeName ∧
      s.Answered past now slot.place space typeName h
  isSome_domain?_iff : o.domain?.isSome = true ↔
    d.domainServerChannel?.isSome = true ∧ d.domainSocketChannel?.isSome = true

/-- The constructor of an offer is that of its own group type, bound to a name. -/
structure Offer.Linked (o : Offer) (name : String) : Prop where
  transport_eq : o.constructor.transport = name
  groupType_eq : o.constructor.groupType = o.eventLoopGroup
  member_eq : o.eventLoopGroup.member = .constructor o.constructor.make

/-! ## What a search finds are answers -/

section
variable {s : Surroundings} {space : String} {past now now' : History} {place : Nat}
  {typeName : String} {h : Handle}

theorem Surroundings.Answered.mono (ha : s.Answered past now place space typeName h)
    (hnow : now <+: now') : s.Answered past now' place space typeName h := by
  obtain ⟨before, hpast, hasked, hplace, hl⟩ := ha
  exact ⟨before, hpast, hasked.trans hnow, hplace, hl⟩

/-- Further back, the place counts the questions in between as well. -/
theorem Surroundings.Answered.after {effects : History} {k : Nat}
    (ha : s.Answered (past ++ effects) now place space typeName h)
    (hk : effects.questions.length + place = k) : s.Answered past now k space typeName h := by
  obtain ⟨before, hpast, hasked, hplace, hl⟩ := ha
  refine ⟨before, (List.prefix_append _ _).trans hpast, hasked, ?_, hl⟩
  rw [hplace, History.questions_append, List.length_append, ← hk, Nat.add_assoc]

theorem Offer.FoundBy.mono {o : Offer} {d : Declaration} (h : o.FoundBy d s past now)
    (hnow : now <+: now') : o.FoundBy d s past now' where
  answered := by
    obtain ⟨space, hspace, hslots⟩ := h.answered
    refine ⟨space, hspace, fun slot t ht => ?_⟩
    obtain ⟨typeName, hname, ha⟩ := hslots slot t ht
    exact ⟨typeName, hname, ha.mono hnow⟩
  isSome_domain?_iff := h.isSome_domain?_iff

end

/-- **What a search finds are answers**: the handle found at a place answers the question at that
place. -/
theorem Search.answered {s : Surroundings} {space : String} {steps : List Step}
    {found all : List Handle} {past during : History}
    (h : Search s space steps found past (.ok all) during) :
    ∃ more, all = found ++ more ∧ ∀ k h, more[k]? = some h → ∃ typeName,
      (steps.filterMap (·.typeName?))[k]? = some typeName ∧
        s.Answered past (past ++ during) k space typeName h := by
  generalize ho : (.ok all : Except Cause (List Handle)) = outcome at h
  induction h with
  | done =>
    cases ho
    exact ⟨[], (List.append_nil _).symm, fun _ _ hk => by simp at hk⟩
  | stop => cases ho
  | @go step rest found past more effects outcome during hp _ ih =>
    obtain ⟨later, rfl, hlater⟩ := ih ho
    rw [← List.append_assoc past]
    cases hp with
    | @find typeName role t ha hr =>
      refine ⟨t :: later, by simp, fun k h hk => ?_⟩
      cases k with
      | zero =>
        cases hk
        exact ⟨typeName, rfl, past, List.prefix_refl _, List.prefix_append _ _, rfl, ha⟩
      | succ k =>
        obtain ⟨name, hname, hanswered⟩ := hlater k h hk
        exact ⟨name, hname, hanswered.after (Nat.add_comm 1 k)⟩
    | consult =>
      refine ⟨later, by simp, fun k h hk => ?_⟩
      obtain ⟨name, hname, hanswered⟩ := hlater k h hk
      exact ⟨name, hname, hanswered.after (Nat.zero_add k)⟩
    | bind =>
      refine ⟨later, by simp, fun k h hk => ?_⟩
      obtain ⟨name, hname, hanswered⟩ := hlater k h hk
      exact ⟨name, hname, hanswered.after (Nat.zero_add k)⟩

section
variable {d : Declaration} {s : Surroundings} {space : String} {found : List Handle}
  {past during : History}

/-- The type for a slot is the one found at the place of its question. -/
theorem Search.ofRole_eq_getElem? (h : Search s space d.steps [] past (.ok found) during)
    (slot : Slot) : ofRole found slot.role = found[slot.place]? := by
  have hroles : found.map (·.role) = d.steps.filterMap (·.role?) := roles_of_ok h
  have hfind : ofRole found slot.role =
      found[(d.steps.filterMap (·.role?)).findIdx (· = slot.role)]? := by
    unfold ofRole
    rw [List.find?_eq_getElem?_findIdx, ← hroles, List.findIdx_map]
    rfl
  rw [hfind]
  have hlength : found.length = (d.steps.filterMap (·.role?)).length := by
    rw [← hroles, List.length_map]
  unfold Declaration.steps Declaration.typeSteps Declaration.domainSteps at hlength ⊢
  cases hd : d.domainSockets? with
  | some names => cases slot <;> rfl
  | none =>
    -- the places for domain sockets lie behind everything that is found
    rw [hd] at hlength
    have hnone : ∀ k, 6 ≤ k → found[k]? = none := fun k hk =>
      List.getElem?_eq_none (hlength ▸ hk)
    cases slot with
    | domainServerChannel => rfl
    | domainSocketChannel => exact (hnone 6 (by decide)).trans (hnone 7 (by decide)).symm
    | _ => rfl

/-- The type that a search finds for a slot answers the question for that slot. -/
theorem Search.answered_of_ofRole (h : Search s space d.steps [] past (.ok found) during)
    {slot : Slot} {t : Handle} (ht : ofRole found slot.role = some t) :
    ∃ typeName, d.slotName? slot = some typeName ∧
      s.Answered past (past ++ during) slot.place space typeName t := by
  rw [Search.ofRole_eq_getElem? h slot] at ht
  obtain ⟨_, rfl, hanswered⟩ := answered h
  obtain ⟨typeName, hname, ha⟩ := hanswered _ _ ht
  rw [d.filterMap_typeName?_steps, d.getElem?_typeNames] at hname
  exact ⟨typeName, hname, ha⟩

end

/-! ## What a detection makes available -/

/-- An offer that holds what a detection found was found by it. -/
theorem Offer.Holds.foundBy {o : Offer} {d : Declaration} {s : Surroundings} {space : String}
    {found : List Handle} {past during now : History} (ho : o.Holds d.name found)
    (hspace : s.namespaceOf past d.tier = some space)
    (h : Search s space d.steps [] (past ++ [.soughtNamespace d.tier]) (.ok found) during)
    (hnow : past ++ [.soughtNamespace d.tier] ++ during <+: now) : o.FoundBy d s past now where
  answered := by
    refine ⟨space, hspace, fun slot t ht => ?_⟩
    rw [ho.handle?_eq] at ht
    obtain ⟨typeName, hname, ha⟩ := Search.answered_of_ofRole h ht
    exact ⟨typeName, hname, (ha.mono hnow).after (Nat.zero_add _)⟩
  isSome_domain?_iff := by
    have hserver := isSome_ofRole_domain h .domainServerChannel rfl
    rw [← ho.handle?_eq, Offer.isSome_handle?] at hserver
    rw [show o.domain?.isSome = d.domainSockets?.isSome from hserver]
    unfold Declaration.domainSockets?
    cases d.domainServerChannel? <;> cases d.domainSocketChannel? <;> simp

theorem Offer.Holds.linked {o : Offer} {name : String} {found : List Handle}
    (ho : o.Holds name found) : o.Linked name := by
  obtain ⟨group, hof, hb⟩ := ho.bind_eq
  obtain ⟨ht, hg, hm⟩ := BoundConstructor.bind_eq_ok_iff.1 hb
  have hgroup : o.eventLoopGroup = group :=
    Option.some.inj ((ho.handle?_eq .eventLoopGroup).trans hof)
  exact ⟨ht, hg.trans hgroup.symm, hgroup ▸ hm⟩

section
variable {d : Declaration} {settings : Settings} {s : Surroundings} {past effects : History}
  {c : Capability}

/-- **What a detection makes available** was found by it, and is linked to its own constructor. -/
theorem Detects.foundBy_and_linked {o : Offer} (h : Detects d settings s past c effects)
    (hc : c.availability = .available o) :
    c = .available d.name o ∧ o.FoundBy d s past (past ++ effects) ∧ o.Linked d.name := by
  cases h with
  | homeless _ => cases hc
  | gated _ _ => cases hc
  | failed _ _ _ => cases hc
  | passed hspace _ hs ho =>
    cases hc
    exact ⟨rfl, ho.foundBy hspace hs (by simp), ho.linked⟩

/-- Whatever parts the search of a detection gathers make a record. -/
theorem Surroundings.ofParts_of_findParts {space : String} {parts : Parts} {now : History}
    (h : (s.findParts d space).run.run past = (.ok parts, now)) :
    ∃ o, Capability.ofParts d.name parts none = .ok (.available d.name o) := by
  obtain ⟨outcome, during, hs, hrun⟩ := search_findParts s d space past
  rw [hrun] at h
  cases outcome with
  | error cause => cases h
  | ok found =>
    cases h
    obtain ⟨o, ho, -, -⟩ := Capability.ofParts_of_complete (complete_parts hs) d.name
    exact ⟨o, ho⟩

end

/-! ## No event of level error -/

/-- No event of level error is told. -/
def History.Calm (h : History) : Prop :=
  ∀ event, .told event ∈ h → event.level ≠ .error

namespace History

theorem calm_nil : Calm [] :=
  fun _ he => by cases he

theorem calm_append_iff {h k : History} : Calm (h ++ k) ↔ Calm h ∧ Calm k := by
  simp only [Calm, List.mem_append, or_imp, forall_and]

theorem calm_told_iff {event : Event} : Calm [.told event] ↔ event.level ≠ .error := by
  simp [Calm]

end History

/-- **A detection tells no event of level error**, so what it found made a valid record. -/
theorem Detects.calm {d : Declaration} {settings : Settings} {s : Surroundings}
    {past effects : History} {c : Capability} (h : Detects d settings s past c effects) :
    History.Calm effects := by
  -- the questions and calls of a search tell nothing
  have hsearch : ∀ {space : String} {outcome : Except Cause (List Handle)} {during : History},
      Search s space d.steps [] (past ++ [.soughtNamespace d.tier]) outcome during →
      ∀ event, .told event ∉ during := by
    intro space outcome during hs event he
    rcases mem_during hs he with ⟨_, _, h⟩ | ⟨_, _, h⟩ <;> cases h
  intro event he
  cases h with
  | homeless _ =>
    obtain rfl : event = .namespaceUnresolved d.tier := by simpa using he
    exact fun hl => by cases hl
  | gated _ _ =>
    obtain ⟨token, rfl⟩ : ∃ token, event = .notEnabled token := ⟨_, by simpa using he⟩
    exact fun hl => by cases hl
  | failed _ _ hs =>
    obtain ⟨cause, rfl⟩ : ∃ cause, event = .transportUnavailable cause :=
      ⟨_, by simpa [hsearch hs] using he⟩
    exact fun hl => by cases hl
  | passed _ _ hs _ =>
    obtain ⟨domain, rfl⟩ : ∃ domain, event = .transportAvailable domain :=
      ⟨_, by simpa [hsearch hs] using he⟩
    exact fun hl => by cases hl

/-! ## Parts do not carry the link -/

/-- What is computed from a result was computed from one that there is. -/
theorem exists_of_bind_eq_ok {ε α β : Type} {x : Except ε α} {f : α → Except ε β} {b : β}
    (h : (x >>= f) = .ok b) : ∃ a, x = .ok a ∧ f a = .ok b := by
  cases x with
  | error e => cases h
  | ok a => exact ⟨a, rfl, h⟩

section
variable {p : Parts} {name : String} {o : Offer}

/-- The offer of parts with a constructor is the offer of the same parts with another one. -/
theorem Parts.offer_with_constructor (h : p.offer name = .ok o) (b : BoundConstructor) :
    ({ p with constructor? := some b } : Parts).offer name = .ok { o with constructor := b } := by
  unfold Parts.offer at h ⊢
  obtain ⟨domain?, hdomain, h⟩ := exists_of_bind_eq_ok h
  obtain ⟨server, hserver, h⟩ := exists_of_bind_eq_ok h
  obtain ⟨socket, hsocket, h⟩ := exists_of_bind_eq_ok h
  obtain ⟨datagram, hdatagram, h⟩ := exists_of_bind_eq_ok h
  obtain ⟨group, hgroup, h⟩ := exists_of_bind_eq_ok h
  obtain ⟨loop, hloop, h⟩ := exists_of_bind_eq_ok h
  -- all but the constructor is taken from the slots, which are the same
  have hpair : ({ p with constructor? := some b } : Parts).domainPair? name = .ok domain? := hdomain
  have hrequire : ∀ slot t, p.require name slot = .ok t →
      ({ p with constructor? := some b } : Parts).require name slot = .ok t := fun _ _ hr => hr
  simp only [hpair, hrequire _ _ hserver, hrequire _ _ hsocket, hrequire _ _ hdatagram,
    hrequire _ _ hgroup, hrequire _ _ hloop]
  cases hc : p.constructor? with
  | none =>
    rw [hc] at h
    cases h
  | some c =>
    rw [hc] at h
    cases h
    rfl

theorem Capability.ofParts_eq_available_iff :
    ofParts name p none = .ok (.available name o) ↔
      p.hasHalfPair = false ∧ p.isEmpty = false ∧ p.offer name = .ok o := by
  unfold ofParts
  cases p.hasHalfPair <;> cases p.isEmpty <;> cases p.offer name <;>
    simp [Except.map, available]

/-- **Parts are admitted with any constructor**, whatever its name and its group type: the link is
not among the things that are checked. -/
theorem Capability.ofParts_with_constructor (h : ofParts name p none = .ok (.available name o))
    (b : BoundConstructor) :
    ofParts name { p with constructor? := some b } none =
      .ok (.available name { o with constructor := b }) := by
  obtain ⟨hhalf, -, ho⟩ := ofParts_eq_available_iff.1 h
  refine ofParts_eq_available_iff.2 ⟨hhalf, ?_, Parts.offer_with_constructor ho b⟩
  simp [Parts.isEmpty]

end

end Transports
