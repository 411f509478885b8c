import Transports.Proofs.Detection.Isolation
import Transports.Proofs.Resolver.AtMostOnce
import Transports.Proofs.Resolver.Building
/-!
# Settings matter by the transport that they name

A resolver uses its settings for the order of preference and for the gates. Both depend on the
transport that the preference names and on nothing else (`Declaration.missingToken?_congr`), so
resolvers with the same collaborators are one computation if their settings name the same transport
(`Resolver.Alike.run_eq`). What building tells of the settings and of the versions reaches only
those who listen to events (`Surroundings.Deaf`): `preference_alone_decides`.
-/

namespace Transports

/-! ## Resolvers that are alike -/

/-- The token of a transport is in the preference exactly if the preference names it, so settings
that name the same transport open the same gates. -/
theorem Settings.enables_token_congr {s s' : Settings} (h : s.preferred? = s'.preferred?)
    (t : Transport) : s.enables t.token = s'.enables t.token := by
  have hiff : s.optsIn t = true ↔ s'.optsIn t = true := by rw [optsIn_iff, optsIn_iff, h]
  exact Bool.eq_iff_iff.2 hiff

/-- The gates of the built-in backends open to tokens of transports. -/
theorem Declaration.exists_eq_token {t : Transport} {d : Declaration} (hd : of? t = some d)
    {token : String} (ht : token ∈ d.optIn?) : ∃ u : Transport, token = u.token := by
  cases t <;> cases hd <;> cases ht
  exact ⟨.ioUring, rfl⟩

theorem Declaration.missingToken?_congr {t : Transport} {d : Declaration} (hd : of? t = some d)
    {s s' : Settings} (h : s.preferred? = s'.preferred?) :
    d.missingToken? s = d.missingToken? s' := by
  unfold missingToken?
  cases ht : d.optIn? with
  | none => rfl
  | some token =>
    obtain ⟨u, rfl⟩ := exists_eq_token hd ht
    simp only [Option.filter, Settings.enables_token_congr h u]

theorem Declaration.detect_congr {d : Declaration} {settings settings' : Settings}
    (h : d.missingToken? settings = d.missingToken? settings') (s : Surroundings) :
    d.detect settings s = d.detect settings' s := by
  unfold detect
  rw [h]

/-- Two resolvers ask the same collaborators, and their settings name the same transport. -/
structure Resolver.Alike (r r' : Resolver) : Prop where
  surroundings_eq : r.surroundings = r'.surroundings
  preferred?_eq : r.settings.preferred? = r'.settings.preferred?

section
variable {r r' : Resolver}

theorem Resolver.Alike.compute_eq (h : r.Alike r') : r.compute = r'.compute := by
  funext t
  unfold compute
  cases hd : Declaration.of? t with
  | none => rfl
  | some d =>
    show d.detect _ _ = d.detect _ _
    rw [h.surroundings_eq,
      Declaration.detect_congr (Declaration.missingToken?_congr hd h.preferred?_eq)]

theorem Resolver.Alike.get_eq (h : r.Alike r') : r.get = r'.get := by
  funext t
  unfold get
  rw [h.compute_eq]

theorem Resolver.Alike.step_eq {α : Type} (h : r.Alike r') (host : Host) (p : Procedure α) :
    p.step r host = p.step r' host := by
  cases p with
  | touch t next =>
    unfold Procedure.step
    rw [h.get_eq]
  | _ => rfl

theorem Resolver.Alike.procedure_eq (h : r.Alike r') (q : Request) :
    q.procedure r.settings = q.procedure r'.settings := by
  cases q with
  | preferred =>
    unfold Request.procedure
    rw [h.preferred?_eq]
  | _ => rfl

theorem Resolver.Alike.ofRequests_eq (h : r.Alike r') (requests : List Request) :
    Procedure.ofRequests r.settings requests = Procedure.ofRequests r'.settings requests := by
  induction requests with
  | nil => rfl
  | cons q l ih => simp only [Procedure.ofRequests, h.procedure_eq q, ih]

theorem Resolver.Alike.crew_eq (h : r.Alike r') (programs : List (List Request)) :
    Crew.ofRequests r.settings programs = Crew.ofRequests r'.settings programs := by
  unfold Crew.ofRequests
  rw [funext h.ofRequests_eq]

/-- **Resolvers that are alike are one computation**, for threads under any schedule. -/
theorem Resolver.Alike.run_eq (h : r.Alike r') (host : Host) (crew : Crew) (schedule : List Nat) :
    crew.run r host schedule = crew.run r' host schedule := by
  have hstep : Crew.step r host = Crew.step r' host := by
    funext crew i
    unfold Crew.step
    simp only [h.step_eq]
  unfold Crew.run
  rw [hstep]

theorem Resolver.Alike.serve_eq (h : r.Alike r') (host : Host) (requests : List Request) :
    r.serve host requests = r'.serve host requests := by
  have hanswer : r.answer host = r'.answer host := by
    funext q
    rw [← Request.run_procedure, ← Request.run_procedure, h.procedure_eq]
    induction q.procedure r'.settings with
    | done a => rfl
    | touch t next ih => simp only [Procedure.run, h.get_eq, ih]
    | tell e next ih => simp only [Procedure.run, ih]
    | construct make n factory next ih => simp only [Procedure.run, ih]
  unfold serve
  rw [hanswer]

end

/-! ## What happens besides events -/

def Effect.isTold : Effect → Bool
  | told _ => true
  | _ => false

namespace History

/-- Everything that happened besides the telling of events. -/
def deeds (h : History) : History :=
  h.filter (!·.isTold)

@[simp] theorem deeds_append (h k : History) : (h ++ k).deeds = h.deeds ++ k.deeds :=
  List.filter_append ..

@[simp] theorem deeds_map_told (events : List Event) : deeds (events.map .told) = [] := by
  refine List.filter_eq_nil_iff.2 fun e he => ?_
  obtain ⟨event, -, rfl⟩ := List.mem_map.1 he
  exact Bool.false_ne_true

theorem consultations_deeds (h : History) (id : Handle.Id) :
    h.deeds.consultations id = h.consultations id := by
  unfold deeds consultations
  rw [List.countP_filter]
  congr 1
  funext e
  cases e <;> simp [Effect.isTold]

theorem constructions_deeds (h : History) (id : Handle.Id) :
    h.deeds.constructions id = h.constructions id := by
  unfold deeds constructions
  rw [List.countP_filter]
  congr 1
  funext e
  cases e <;> simp [Effect.isTold]

end History

/-! ## Computations that do not listen -/

namespace Act

/-- After histories that differ in events only, a computation gives the same answer and does the
same. -/
def Deaf {α : Type} (x : Act α) : Prop :=
  ∀ past past' : History, past.deeds = past'.deeds →
    ∃ a effects, x.run past = (a, past ++ effects) ∧ x.run past' = (a, past' ++ effects)

section
variable {α β : Type}

theorem deaf_pure (a : α) : Deaf (pure a) :=
  fun past past' _ =>
    ⟨a, [], Prod.ext rfl (List.append_nil past).symm, Prod.ext rfl (List.append_nil past').symm⟩

theorem deaf_perform (e : Effect) : Deaf (perform e) :=
  fun _ _ _ => ⟨(), [e], rfl, rfl⟩

/-- What is answered may depend on everything that happened, events apart. -/
theorem deaf_perform_answer {e : Effect} {f : History → α}
    (hf : ∀ past past' : History, past.deeds = past'.deeds → f past = f past') :
    Deaf (do let past ← get; perform e; return f past) :=
  fun past past' h => ⟨f past, [e], rfl, Prod.ext (hf past past' h).symm rfl⟩

theorem Deaf.bind {x : Act α} {k : α → Act β} (hx : Deaf x) (hk : ∀ a, Deaf (k a)) :
    Deaf (x >>= k) := by
  intro past past' h
  obtain ⟨a, effects, hrun, hrun'⟩ := hx past past' h
  obtain ⟨b, more, hmore, hmore'⟩ := hk a (past ++ effects) (past' ++ effects) (by
    rw [History.deeds_append, History.deeds_append, h])
  refine ⟨b, effects ++ more, ?_, ?_⟩
  · rw [run_bind_of_run hrun, hmore, List.append_assoc]
  · rw [run_bind_of_run hrun', hmore', List.append_assoc]

/-- In a computation that may stop with a cause, each part must not listen. -/
theorem deaf_run_bind {x : ExceptT Cause Act α} {k : α → ExceptT Cause Act β} (hx : Deaf x.run)
    (hk : ∀ a, Deaf (k a).run) : Deaf (x >>= k).run := by
  rw [ExceptT.run_bind]
  refine hx.bind fun outcome => ?_
  cases outcome with
  | error e => exact deaf_pure _
  | ok a => exact hk a

end

end Act

/-- Collaborators that do not listen to events: what they answer depends on everything else that
happened, and on nothing else. -/
structure Surroundings.Deaf (s : Surroundings) : Prop where
  lookup_eq : ∀ past past' : History, past.deeds = past'.deeds → s.lookup past = s.lookup past'
  namespaceOf_eq : ∀ past past' : History, past.deeds = past'.deeds →
    s.namespaceOf past = s.namespaceOf past'

theorem Handle.deaf_consult (h : Handle) : Act.Deaf h.consult := by
  unfold consult
  split
  · exact Act.deaf_pure _
  · refine Act.deaf_perform_answer fun past past' hp => ?_
    rw [← past.consultations_deeds, ← past'.consultations_deeds, hp]

theorem BoundConstructor.deaf_construct (make : BoundConstructor) (host : Host) (n : Nat)
    (factory : ThreadFactory) : Act.Deaf (make.construct host n factory) := by
  intro past past' h
  obtain ⟨answer, effects, -, hrun⟩ :=
    make.run_construct host n factory (past.constructions make.groupType.id)
  refine ⟨answer, effects, hrun past rfl, hrun past' ?_⟩
  rw [← past.constructions_deeds, ← past'.constructions_deeds, h]

namespace Surroundings.Deaf

section
variable {s : Surroundings} (hs : s.Deaf)
include hs

theorem find (space typeName : String) (role : Role) :
    Act.Deaf (s.find space typeName role).run :=
  Act.deaf_perform_answer fun past past' h => by rw [hs.lookup_eq past past' h]

theorem seek (tier : Tier) : Act.Deaf (s.seek tier) :=
  Act.deaf_perform_answer fun past past' h => by rw [hs.namespaceOf_eq past past' h]

theorem checkEntryPoint (d : Declaration) (space : String) :
    Act.Deaf (s.checkEntryPoint d space).run := by
  refine Act.deaf_run_bind (hs.find _ _ _) fun entryPoint => ?_
  refine Act.deaf_run_bind (entryPoint.deaf_consult.bind fun _ => Act.deaf_pure _) fun answer => ?_
  split <;> exact Act.deaf_pure _

theorem findDomainPair (d : Declaration) (space : String) :
    Act.Deaf (s.findDomainPair d space).run := by
  unfold Surroundings.findDomainPair
  split
  · exact Act.deaf_pure _
  · exact Act.deaf_run_bind (hs.find _ _ _) fun _ =>
      Act.deaf_run_bind (hs.find _ _ _) fun _ => Act.deaf_pure _

theorem findParts (d : Declaration) (space : String) : Act.Deaf (s.findParts d space).run := by
  refine Act.deaf_run_bind (hs.checkEntryPoint d space) fun _ => ?_
  refine Act.deaf_run_bind (hs.find _ _ _) fun _ => Act.deaf_run_bind (hs.find _ _ _) fun _ => ?_
  refine Act.deaf_run_bind (hs.find _ _ _) fun _ => ?_
  refine Act.deaf_run_bind (hs.find _ _ _) fun group => ?_
  refine Act.deaf_run_bind (hs.find _ _ _) fun _ => ?_
  refine Act.deaf_run_bind (Act.deaf_pure ((BoundConstructor.bind d.name group).mapError _))
    fun _ => ?_
  exact Act.deaf_run_bind (hs.findDomainPair d space) fun _ => Act.deaf_pure _

/-- **A detection does not listen** if those whom it asks do not. -/
theorem detect (d : Declaration) (settings : Settings) : Act.Deaf (d.detect settings s) := by
  refine (hs.seek d.tier).bind fun space? => ?_
  cases space? with
  | none => exact (Act.deaf_perform _).bind fun _ => Act.deaf_pure _
  | some space =>
    dsimp only
    cases d.missingToken? settings with
    | some token => exact (Act.deaf_perform _).bind fun _ => Act.deaf_pure _
    | none =>
      refine (hs.findParts d space).bind fun outcome => ?_
      unfold Declaration.conclude
      cases outcome with
      | error cause => exact (Act.deaf_perform _).bind fun _ => Act.deaf_pure _
      | ok parts =>
        dsimp only
        split <;> exact (Act.deaf_perform _).bind fun _ => Act.deaf_pure _

end

end Surroundings.Deaf

/-- A directory answers by its contents, whatever happened. -/
theorem Directory.deaf_surroundings (dir : Directory) (n : Namespaces) :
    (dir.surroundings n).Deaf where
  lookup_eq _ _ _ := rfl
  namespaceOf_eq _ _ _ := rfl

/-! ## Sessions that do not listen -/

def Session.Deaf {α : Type} (x : Session α) : Prop :=
  ∀ m : Memory, Act.Deaf (x.run m)

section
variable {α β : Type}

theorem Session.deaf_pure (a : α) : Session.Deaf (pure a) :=
  fun _ => Act.deaf_pure _

theorem Session.Deaf.bind {x : Session α} {k : α → Session β} (hx : x.Deaf)
    (hk : ∀ a, (k a).Deaf) : (x >>= k).Deaf :=
  fun m => (hx m).bind fun p => hk p.1 p.2

theorem Session.deaf_lift {x : Act α} (hx : Act.Deaf x) : Session.Deaf (liftM x) := by
  intro m past past' h
  obtain ⟨a, effects, hrun, hrun'⟩ := hx past past' h
  exact ⟨(a, m), effects, run_lift hrun, run_lift hrun'⟩

variable {r : Resolver} (hr : r.surroundings.Deaf)
include hr

theorem Resolver.deaf_get (t : Transport) : (r.get t).Deaf := by
  have hcompute : Act.Deaf (r.compute t) := by
    unfold compute
    cases Declaration.of? t with
    | none => exact Act.deaf_pure _
    | some d => exact hr.detect d r.settings
  intro m past past' h
  cases hm : m.record? t with
  | some c =>
    refine ⟨(c, m), [], ?_, ?_⟩
    · rw [run_get_of_known hm, List.append_nil]
    · rw [run_get_of_known hm, List.append_nil]
  | none =>
    obtain ⟨c, effects, hrun, hrun'⟩ := hcompute past past' h
    refine ⟨(c, m.store t c), effects, ?_, ?_⟩
    · rw [run_get_of_unknown hm, hrun]
    · rw [run_get_of_unknown hm, hrun']

theorem Procedure.deaf_step (host : Host) (p : Procedure α) : (p.step r host).Deaf := by
  cases p with
  | done a => exact Session.deaf_pure _
  | touch t next => exact (Resolver.deaf_get hr t).bind fun _ => Session.deaf_pure _
  | tell e next =>
    exact (Session.deaf_lift (Act.deaf_perform _)).bind fun _ => Session.deaf_pure _
  | construct make n factory next =>
    exact (Session.deaf_lift (make.deaf_construct host n factory)).bind fun _ =>
      Session.deaf_pure _

/-- **Threads do not listen** if the collaborators do not, whatever the schedule. -/
theorem Crew.deaf_run (host : Host) (crew : Crew) (schedule : List Nat) :
    (crew.run r host schedule).Deaf := by
  unfold run
  induction schedule generalizing crew with
  | nil => exact Session.deaf_pure _
  | cons i schedule ih =>
    rw [List.foldlM_cons]
    refine Session.Deaf.bind ?_ ih
    unfold step
    split
    · exact Session.deaf_pure _
    · exact (Procedure.deaf_step hr host _).bind fun _ => Session.deaf_pure _

end

/-! ## Setups -/

/-- Setups with the same collaborators whose settings name the same transport. -/
theorem Setup.alike_resolver {s s' : Setup} (hlookup : s.lookup? = s'.lookup?)
    (hnamespace : s.namespaceOf? = s'.namespaceOf?)
    (hpreferred : s.settings.preferred? = s'.settings.preferred?) (host : Host) :
    (s.resolver host).Alike (s'.resolver host) where
  surroundings_eq := by simp only [resolver, surroundings, hlookup, hnamespace]
  preferred?_eq := hpreferred

/-- Builds the resolver of a setup and lets threads use it. -/
def Setup.use (s : Setup) (host : Host) (programs : List (List Request)) (schedule : List Nat) :
    Session Crew := do
  let r ← s.build host
  (Crew.ofRequests r.settings programs).run r host schedule

/-- **The named transport is all that settings decide.** Building a resolver gives one, whatever the
settings and the linked versions are, and does nothing but tell; the verdict on the versions is
there exactly if the settings ask for it. Resolvers of setups with the same collaborators, whose
settings name the same transport or both name none, are one computation: from any state they serve
requests in the same way, and threads under any schedule too. After the two buildings, which may
tell different events, threads are handed the same records and answers, as many records are
computed, and the same is asked and told, unless a collaborator listens to events. -/
theorem preference_alone_decides (host : Host) :
    (∀ (s : Setup) (past : History),
      (s.build host).run past = (s.resolver host, past ++ (s.news host).map .told) ∧
        (s.resolver host).settings = s.settings ∧
        ((s.resolver host).verdict?.isSome = true ↔ s.settings.warnVersions = true)) ∧
    (∀ s s' : Setup, s.lookup? = s'.lookup? → s.namespaceOf? = s'.namespaceOf? →
      s.settings.preferred? = s'.settings.preferred? →
        (∀ requests,
          (s.resolver host).serve host requests = (s'.resolver host).serve host requests) ∧
        (∀ programs schedule,
          (Crew.ofRequests s.settings programs).run (s.resolver host) host schedule =
            (Crew.ofRequests s'.settings programs).run (s'.resolver host) host schedule) ∧
        ((s.surroundings host).Deaf → ∀ programs schedule past, ∃ crew m added,
          ((s.use host programs schedule).run {}).run past =
              ((crew, m), past ++ (s.news host).map .told ++ added) ∧
            ((s'.use host programs schedule).run {}).run past =
              ((crew, m), past ++ (s'.news host).map .told ++ added))) ∧
    ∀ (dir : Directory) (n : Namespaces), (dir.surroundings n).Deaf := by
  refine ⟨fun s past => ⟨s.run_build host past, rfl, s.isSome_verdict?_iff⟩,
    fun s s' hlookup hnamespace hpreferred => ?_, Directory.deaf_surroundings⟩
  have halike := Setup.alike_resolver hlookup hnamespace hpreferred host
  have hcrew : ∀ programs, Crew.ofRequests s.settings programs =
      Crew.ofRequests s'.settings programs := halike.crew_eq
  refine ⟨halike.serve_eq host, fun programs schedule => ?_, fun hdeaf programs schedule past => ?_⟩
  · rw [hcrew, halike.run_eq]
  · have huse : ∀ u : Setup, ((u.use host programs schedule).run {}).run past =
        (((Crew.ofRequests u.settings programs).run (u.resolver host) host schedule).run {}).run
          (past ++ (u.news host).map .told) := fun u =>
      Session.run_bind_of_run (Session.run_lift (u.run_build host past))
    obtain ⟨⟨crew, m⟩, added, hrun, hrun'⟩ :=
      Crew.deaf_run (r := s.resolver host) hdeaf host (Crew.ofRequests s.settings programs) schedule
        {} (past ++ (s.news host).map .told) (past ++ (s'.news host).map .told) (by simp)
    refine ⟨crew, m, added, ?_, ?_⟩
    · rw [huse, hrun]
    · rw [huse, ← hcrew, ← halike.run_eq, hrun']

/-- Padding, case and the choice of name or token do not matter. -/
example : ({ preference := some " Io_UrinG\t" } : Settings).preferred? =
    ({ preference := some "IO_URING", warnVersions := false } : Settings).preferred? := by
  decide

end Transports
