import Transports.Proofs.Capability.Complete
import Transports.Proofs.Detection.Search
/-!
# The first failure decides a detection

A detection passes two gates, the namespace of the tier and the opt-in, and then searches. `Detects`
lists its four ways to end, each with the record and with everything that is done on the way;
`detects_detect` shows that there are no others. `detect_first_failure` is the full account.
-/

namespace Transports

open Search

/-! ## The record of a search that succeeds -/

/-- An offer holds what was found: in each slot the type found for its role, and the constructor of
the group type found, bound to the name of the backend. -/
structure Offer.Holds (o : Offer) (name : String) (found : List Handle) : Prop where
  handle?_eq : ∀ slot : Slot, o.handle? slot = ofRole found slot.role
  bind_eq : ∃ group, ofRole found .eventLoopGroup = some group ∧
    BoundConstructor.bind name group = .ok o.constructor

section
variable {d : Declaration} {s : Surroundings} {space : String} {found : List Handle}
  {past during : History}

/-- Every type that a record needs is found. -/
theorem fills_of_required (h : Search s space d.steps [] past (.ok found) during) {slot : Slot}
    (hslot : slot.isDomain = false) : (parts d.name found).Fills slot := by
  have hr : slot.role ∈ found.map (·.role) := by
    rw [roles_of_ok h]
    cases slot <;> simp_all [Declaration.steps, Declaration.typeSteps, Step.role?, Slot.role,
      Slot.isDomain]
  obtain ⟨t, ht⟩ := Option.isSome_iff_exists.1 (isSome_ofRole_iff.2 hr)
  exact ⟨t, ht, role_of_ofRole ht⟩

/-- The types for domain sockets are found exactly if both are declared. -/
theorem isSome_ofRole_domain (h : Search s space d.steps [] past (.ok found) during) (slot : Slot)
    (hslot : slot.isDomain = true) : (ofRole found slot.role).isSome = d.domainSockets?.isSome := by
  rw [Bool.eq_iff_iff, isSome_ofRole_iff, roles_of_ok h]
  cases hd : d.domainSockets? <;> cases slot <;>
    simp_all [Declaration.steps, Declaration.typeSteps, Declaration.domainSteps, Step.role?,
      Slot.role, Slot.isDomain]

theorem complete_parts (h : Search s space d.steps [] past (.ok found) during) :
    (parts d.name found).Complete where
  required _ := fills_of_required h
  pair := by
    have hserver := isSome_ofRole_domain h .domainServerChannel rfl
    have hsocket := isSome_ofRole_domain h .domainSocketChannel rfl
    cases hd : d.domainSockets?.isSome with
    | true =>
      rw [hd] at hserver hsocket
      obtain ⟨server, hserver⟩ := Option.isSome_iff_exists.1 hserver
      obtain ⟨socket, hsocket⟩ := Option.isSome_iff_exists.1 hsocket
      exact .inl ⟨⟨server, hserver, role_of_ofRole hserver⟩,
        ⟨socket, hsocket, role_of_ofRole hsocket⟩⟩
    | false =>
      rw [hd, Option.isSome_eq_false_iff, Option.isNone_iff_eq_none] at hserver hsocket
      exact .inr ⟨hserver, hsocket⟩
  constructor := by
    obtain ⟨group, make, hof, hm⟩ := constructor_of_ok h
      (by simp [Declaration.steps, Declaration.typeSteps])
    have hb : BoundConstructor.bind d.name group = .ok ⟨d.name, group, make⟩ :=
      BoundConstructor.bind_eq_ok_iff.2 ⟨rfl, rfl, hm⟩
    exact ⟨⟨d.name, group, make⟩, by simp [parts, hof, hb, Except.toOption]⟩

/-- The constructor among the parts is that of the group type found. -/
theorem bind_of_constructor?_parts {name : String} {c : BoundConstructor}
    (h : (parts name found).constructor? = some c) :
    ∃ group, ofRole found .eventLoopGroup = some group ∧
      BoundConstructor.bind name group = .ok c := by
  obtain ⟨group, hof, hc⟩ := Option.bind_eq_some_iff.1 h
  refine ⟨group, hof, ?_⟩
  cases hb : BoundConstructor.bind name group with
  | error e => simp [hb, Except.toOption] at hc
  | ok c' =>
    rw [hb] at hc
    cases hc
    rfl

/-- **What a search finds always makes a record**: the fault of an invalid record never shows. -/
theorem run_conclude_ok (h : Search s space d.steps [] past (.ok found) during) (now : History) :
    ∃ o : Offer, o.Holds d.name found ∧
      (d.conclude (.ok (parts d.name found))).run now =
        (.available d.name o, now ++ [.told (.transportAvailable d.domainSockets?.isSome)]) := by
  obtain ⟨o, ho, hh, hc⟩ := Capability.ofParts_of_complete (complete_parts h) d.name
  refine ⟨o, ⟨hh, bind_of_constructor?_parts hc⟩, ?_⟩
  have hdomain : (Capability.available d.name o).supportsDomainSockets = d.domainSockets?.isSome :=
    calc o.domain?.isSome
        = (o.handle? .domainServerChannel).isSome := by simp [Offer.isSome_handle?, Slot.isDomain]
      _ = (ofRole found Slot.domainServerChannel.role).isSome := by rw [hh]; rfl
      _ = d.domainSockets?.isSome := isSome_ofRole_domain h _ rfl
  simp only [Declaration.conclude, ho, hdomain]
  rfl

end

/-! ## The four ways to end -/

/-- How a detection ends: the record, and everything that it does. -/
inductive Detects (d : Declaration) (settings : Settings) (s : Surroundings) (past : History) :
    Capability → History → Prop where
  | homeless : s.namespaceOf past d.tier = none →
      Detects d settings s past (.unavailable d.name (.namespaceUnresolved d.tier))
        [.soughtNamespace d.tier, .told (.namespaceUnresolved d.tier)]
  | gated {space token : String} : s.namespaceOf past d.tier = some space →
      d.missingToken? settings = some token →
      Detects d settings s past (.unavailable d.name (.notOptedIn token))
        [.soughtNamespace d.tier, .told (.notEnabled token)]
  | failed {space : String} {cause : Cause} {during : History} :
      s.namespaceOf past d.tier = some space → d.missingToken? settings = none →
      Search s space d.steps [] (past ++ [.soughtNamespace d.tier]) (.error cause) during →
      Detects d settings s past (.unavailable d.name cause)
        (.soughtNamespace d.tier :: (during ++ [.told (.transportUnavailable cause)]))
  | passed {space : String} {found : List Handle} {during : History} {o : Offer} :
      s.namespaceOf past d.tier = some space → d.missingToken? settings = none →
      Search s space d.steps [] (past ++ [.soughtNamespace d.tier]) (.ok found) during →
      o.Holds d.name found →
      Detects d settings s past (.available d.name o)
        (.soughtNamespace d.tier ::
          (during ++ [.told (.transportAvailable d.domainSockets?.isSome)]))

theorem detects_detect (d : Declaration) (settings : Settings) (s : Surroundings) (past : History) :
    ∃ c effects, Detects d settings s past c effects ∧
      (d.detect settings s).run past = (c, past ++ effects) := by
  unfold Declaration.detect
  rw [Act.run_bind_of_run (s.run_seek d.tier past)]
  cases hspace : s.namespaceOf past d.tier with
  | none =>
    refine ⟨_, _, .homeless hspace, ?_⟩
    show (_, past ++ [_] ++ [_]) = _
    rw [List.append_assoc]
    rfl
  | some space =>
    cases htoken : d.missingToken? settings with
    | some token =>
      refine ⟨_, _, .gated hspace htoken, ?_⟩
      show (_, past ++ [_] ++ [_]) = _
      rw [List.append_assoc]
      rfl
    | none =>
      obtain ⟨outcome, during, hs, hrun⟩ :=
        search_findParts s d space (past ++ [.soughtNamespace d.tier])
      show ∃ c effects, _ ∧ ((s.findParts d space).run >>= d.conclude).run _ = _
      rw [Act.run_bind_of_run hrun]
      cases outcome with
      | error cause =>
        refine ⟨_, _, .failed hspace htoken hs, ?_⟩
        show (_, past ++ [_] ++ during ++ [_]) = _
        simp
      | ok found =>
        obtain ⟨o, ho, hc⟩ := run_conclude_ok hs (past ++ [.soughtNamespace d.tier] ++ during)
        refine ⟨_, _, .passed hspace htoken hs ho, hc.trans ?_⟩
        simp

theorem Detects.name_eq {d : Declaration} {settings : Settings} {s : Surroundings}
    {past effects : History} {c : Capability} (h : Detects d settings s past c effects) :
    c.name = d.name := by
  cases h with
  | homeless _ => rfl
  | gated _ _ => rfl
  | failed _ _ _ => rfl
  | passed _ _ _ _ => rfl

/-! ## Everything that a search does -/

/-- The call that the answer to the first question leads to: that of the accessor, if the answer is
an entry point that has one. -/
def accessorCalls : Except LookupFailure Handle → History
  | .ok ⟨serial?, name, .entryPoint, .accessor _⟩ => [.consulted ⟨name, serial?⟩]
  | _ => []

theorem accessorCalls_of_accessor {h : Handle} {answer : Nat → Option Failure}
    (hr : h.role = .entryPoint) (hm : h.member = .accessor answer) :
    accessorCalls (.ok h) = [.consulted h.id] := by
  obtain ⟨serial?, name, role, member⟩ := h
  cases hr
  cases hm
  rfl

theorem accessorCalls_of_no_accessor {h : Handle} (hm : ∀ answer, h.member ≠ .accessor answer) :
    accessorCalls (.ok h) = [] := by
  unfold accessorCalls
  split
  · next heq =>
    cases heq
    exact absurd rfl (hm _)
  · rfl

theorem accessorCalls_of_misfit {h : Handle} (hr : h.role ≠ .entryPoint) :
    accessorCalls (.ok h) = [] := by
  unfold accessorCalls
  split
  · next heq =>
    cases heq
    exact absurd rfl hr
  · rfl

/-- The first question, the call that its answer leads to, and then further questions in order, all
of them if the search succeeds. -/
theorem during_of_steps {d : Declaration} {s : Surroundings} {space : String}
    {past during : History} {outcome : Except Cause (List Handle)}
    (h : Search s space d.steps [] past outcome during) :
    ∃ later, during = .asked space d.entryPoint ::
        (accessorCalls (s.lookup past space d.entryPoint) ++ later.map (.asked space ·)) ∧
      later <+: d.typeNames.tail ∧ ∀ found, outcome = .ok found → later = d.typeNames.tail := by
  -- the names behind the first are those of the steps behind the call of the accessor
  have htail : d.typeSteps.filterMap (·.typeName?) = d.typeNames.tail := by
    rw [← d.filterMap_typeName?_steps]
    rfl
  cases h with
  | stop hf =>
    cases hf with
    | missing ha =>
      exact ⟨[], by simp [ha, accessorCalls], List.nil_prefix, fun _ ho => by cases ho⟩
    | misfit ha hr =>
      exact ⟨[], by simp [ha, accessorCalls_of_misfit hr], List.nil_prefix, fun _ ho => by cases ho⟩
  | go hp hs =>
    cases hp with
    | @find _ _ entryPoint ha hr =>
      have hof : ofRole ([] ++ [entryPoint]) .entryPoint = some entryPoint := by simp [ofRole, hr]
      rw [ha]
      cases hs with
      | stop hf =>
        cases hf with
        | noAccessor hof' hm =>
          cases hof.symm.trans hof'
          exact ⟨[], by simp [accessorCalls_of_no_accessor hm], List.nil_prefix,
            fun _ ho => by cases ho⟩
        | refused hof' hm he =>
          cases hof.symm.trans hof'
          exact ⟨[], by simp [accessorCalls_of_accessor hr hm], List.nil_prefix,
            fun _ ho => by cases ho⟩
      | go hp hs =>
        cases hp with
        | consult hof' hm he =>
          cases hof.symm.trans hof'
          have hc : Step.consult ∉ d.typeSteps := by
            unfold Declaration.typeSteps Declaration.domainSteps
            cases d.domainSockets? <;> simp
          obtain ⟨later, rfl, hl, hall⟩ := during_of_no_consult hs hc
          rw [htail] at hl hall
          exact ⟨later, by simp [accessorCalls_of_accessor hr hm], hl, hall⟩

/-- **The first failure decides a detection.** Without a namespace nothing is asked, and without
the opt-in of a gated backend nothing either. Otherwise the steps are carried out in order up to the
first that fails (`Search`), and the questions put are a prefix of the declared names, the accessor
being called once between the first and the second if the first answer has one. The record is that
of the failure, or holds what was found. -/
theorem detect_first_failure (d : Declaration) (settings : Settings) (s : Surroundings)
    (past : History) :
    ∃ c effects, (d.detect settings s).run past = (c, past ++ effects) ∧
      match s.namespaceOf past d.tier with
      | none =>
        c = .unavailable d.name (.namespaceUnresolved d.tier) ∧
          effects = [.soughtNamespace d.tier, .told (.namespaceUnresolved d.tier)]
      | some space =>
        (∃ token, d.optIn? = some token ∧ settings.enables token = false ∧
          c = .unavailable d.name (.notOptedIn token) ∧
          effects = [.soughtNamespace d.tier, .told (.notEnabled token)]) ∨
        ((∀ token ∈ d.optIn?, settings.enables token = true) ∧
          ∃ outcome during later event,
            Search s space d.steps [] (past ++ [.soughtNamespace d.tier]) outcome during ∧
            during = .asked space d.entryPoint ::
              (accessorCalls (s.lookup (past ++ [.soughtNamespace d.tier]) space d.entryPoint) ++
                later.map (.asked space ·)) ∧
            d.entryPoint :: later <+: d.typeNames ∧
            effects = .soughtNamespace d.tier :: (during ++ [.told event]) ∧
            match outcome with
            | .error cause =>
              c = .unavailable d.name cause ∧ event = .transportUnavailable cause
            | .ok found =>
              d.entryPoint :: later = d.typeNames ∧
                (∃ o : Offer, o.Holds d.name found ∧ c = .available d.name o) ∧
                event = .transportAvailable d.domainSockets?.isSome) := by
  obtain ⟨c, effects, h, hrun⟩ := detects_detect d settings s past
  refine ⟨c, effects, hrun, ?_⟩
  have hopen : d.missingToken? settings = none →
      ∀ token ∈ d.optIn?, settings.enables token = true := by
    intro hn token ht
    have := Option.filter_eq_none_iff.1 hn token ht
    simpa using this
  cases h with
  | homeless hspace =>
    rw [hspace]
    exact ⟨rfl, rfl⟩
  | gated hspace htoken =>
    rw [hspace]
    obtain ⟨ht, he⟩ := Option.filter_eq_some_iff.1 htoken
    exact .inl ⟨_, ht, by simpa using he, rfl, rfl⟩
  | failed hspace htoken hs =>
    rw [hspace]
    obtain ⟨later, hd, hl, -⟩ := during_of_steps hs
    exact .inr ⟨hopen htoken, _, _, later, _, hs, hd, List.cons_prefix_cons.2 ⟨rfl, hl⟩, rfl, rfl,
      rfl⟩
  | passed hspace htoken hs ho =>
    rw [hspace]
    obtain ⟨later, hd, hl, hall⟩ := during_of_steps hs
    exact .inr ⟨hopen htoken, _, _, later, _, hs, hd, List.cons_prefix_cons.2 ⟨rfl, hl⟩, rfl,
      congrArg (d.entryPoint :: ·) (hall _ rfl), ⟨_, ho, rfl⟩, rfl⟩

end Transports
