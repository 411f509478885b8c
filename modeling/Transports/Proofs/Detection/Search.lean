import Transports.Detection
/-!
# The search of a detection as a run of steps

What a detection looks for is a list of steps (`Declaration.steps`): questions, the call of the
accessor after the first one, and the binding of the constructor before the domain sockets. `Search`
says, without the program, how such a list is carried out: the steps pass one after the other, and
the first that fails ends it. `search_findParts` shows that the program does just that; what follows
from the rules alone (which questions are put, what is found, whose accessor is called) is proved by
induction on the rules.
-/

namespace Transports

namespace Search

/-- One step of a search. -/
inductive Step where
  /-- Ask for a type that plays a role. -/
  | find (typeName : String) (role : Role)
  /-- Ask the entry point found whether the backend can be used. -/
  | consult
  /-- Bind the constructor of the group type found. -/
  | bind
deriving DecidableEq, Repr

def Step.typeName? : Step → Option String
  | find typeName _ => some typeName
  | consult => none
  | bind => none

def ofRole (found : List Handle) (role : Role) : Option Handle :=
  found.find? (·.role = role)

end Search

namespace Declaration

def typeNames (d : Declaration) : List String :=
  [d.entryPoint, d.serverChannel, d.socketChannel, d.datagramChannel, d.eventLoopGroup,
    d.eventLoop] ++
    match d.domainServerChannel?, d.domainSocketChannel? with
    | some server, some socket => [server, socket]
    | _, _ => []

def domainSteps (d : Declaration) : List Search.Step :=
  match d.domainSockets? with
  | none => []
  | some (server, socket) =>
    [.find server .serverDomainSocketChannel, .find socket .domainSocketChannel]

/-- The steps behind the entry point. -/
def typeSteps (d : Declaration) : List Search.Step :=
  .find d.serverChannel .serverSocketChannel :: .find d.socketChannel .socketChannel ::
    .find d.datagramChannel .datagramChannel :: .find d.eventLoopGroup .eventLoopGroup ::
    .find d.eventLoop .eventLoop :: .bind :: d.domainSteps

/-- Everything that a search goes through, in order. -/
def steps (d : Declaration) : List Search.Step :=
  .find d.entryPoint .entryPoint :: .consult :: d.typeSteps

theorem filterMap_typeName?_steps (d : Declaration) :
    d.steps.filterMap (·.typeName?) = d.typeNames := by
  unfold steps typeSteps domainSteps typeNames domainSockets?
  cases d.domainServerChannel? <;> cases d.domainSocketChannel? <;> rfl

end Declaration

/-! ## The rules -/

section
variable (s : Surroundings) (space : String) (found : List Handle) (past : History)

/-- How a step passes: what it adds to what was found, and its effects. -/
inductive Search.Passes : Search.Step → List Handle → History → Prop where
  | find {typeName : String} {role : Role} {h : Handle} :
      s.lookup past space typeName = .ok h → h.role = role →
      Passes (.find typeName role) [h] [.asked space typeName]
  | consult {h : Handle} {answer : Nat → Option Failure} :
      ofRole found .entryPoint = some h → h.member = .accessor answer →
      answer (past.consultations h.id) = none → Passes .consult [] [.consulted h.id]
  | bind {h : Handle} {make : Constructor} :
      ofRole found .eventLoopGroup = some h → h.member = .constructor make → Passes .bind [] []

/-- How a step fails: the cause, and its effects. -/
inductive Search.Fails : Search.Step → Cause → History → Prop where
  | missing {typeName : String} {role : Role} {e : LookupFailure} :
      s.lookup past space typeName = .error e →
      Fails (.find typeName role) (.resolutionFailure (Failure.lookup e).strip)
        [.asked space typeName]
  | misfit {typeName : String} {role : Role} {h : Handle} :
      s.lookup past space typeName = .ok h → h.role ≠ role →
      Fails (.find typeName role)
        (.resolutionFailure (.lookup (.roleMismatch h.name role h.role))) [.asked space typeName]
  | noAccessor {h : Handle} :
      ofRole found .entryPoint = some h → (∀ answer, h.member ≠ .accessor answer) →
      Fails .consult
        (.resolutionFailure (.lookup (.missingMember h.name "unavailability cause accessor"))) []
  | refused {h : Handle} {answer : Nat → Option Failure} {e : Failure} :
      ofRole found .entryPoint = some h → h.member = .accessor answer →
      answer (past.consultations h.id) = some e →
      Fails .consult (.nativeUnavailable e.strip) [.consulted h.id]
  | noConstructor {h : Handle} :
      ofRole found .eventLoopGroup = some h → (∀ make, h.member ≠ .constructor make) →
      Fails .bind
        (.resolutionFailure
          (.lookup (.missingMember h.name "(thread count, thread factory) constructor"))) []

end

/-- A search from what was found and a history: its outcome, and what it adds to the history. -/
inductive Search (s : Surroundings) (space : String) :
    List Search.Step → List Handle → History → Except Cause (List Handle) → History → Prop where
  | done {found past} : Search s space [] found past (.ok found) []
  | stop {step rest found past cause effects} :
      Search.Fails s space found past step cause effects →
      Search s space (step :: rest) found past (.error cause) effects
  | go {step rest found past more effects outcome during} :
      Search.Passes s space found past step more effects →
      Search s space rest (found ++ more) (past ++ effects) outcome during →
      Search s space (step :: rest) found past outcome (effects ++ during)

/-! ## What follows from the rules -/

namespace Search

def Step.role? : Step → Option Role
  | find _ role => some role
  | consult => none
  | bind => none

theorem ofRole_append_of_eq_some {found more : List Handle} {role : Role} {h : Handle}
    (hof : ofRole found role = some h) : ofRole (found ++ more) role = some h := by
  unfold ofRole at hof ⊢
  rw [List.find?_append, hof, Option.some_or]

theorem role_of_ofRole {found : List Handle} {role : Role} {h : Handle}
    (hof : ofRole found role = some h) : h.role = role := by
  simpa using List.find?_some hof

theorem isSome_ofRole_iff {found : List Handle} {role : Role} :
    (ofRole found role).isSome = true ↔ role ∈ found.map (·.role) := by
  simp [ofRole, List.find?_isSome]

section
variable {s : Surroundings} {space : String} {steps : List Step} {found all : List Handle}
  {past during : History} {outcome : Except Cause (List Handle)}

/-- A search that succeeds has found a type for each role that it looked for. -/
theorem roles_of_ok (h : Search s space steps found past (.ok all) during) :
    all.map (·.role) = found.map (·.role) ++ steps.filterMap (·.role?) := by
  generalize ho : (.ok all : Except Cause (List Handle)) = outcome at h
  induction h with
  | done => cases ho; simp
  | stop => cases ho
  | go hp _ ih =>
    rw [ih ho]
    cases hp with
    | find _ hr => simp [Step.role?, hr]
    | consult => simp [Step.role?]
    | bind => simp [Step.role?]

/-- What was found is kept. -/
theorem found_prefix (h : Search s space steps found past (.ok all) during) : found <+: all := by
  generalize ho : (.ok all : Except Cause (List Handle)) = outcome at h
  induction h with
  | done => cases ho; exact List.prefix_refl _
  | stop => cases ho
  | go _ _ ih => exact (List.prefix_append _ _).trans (ih ho)

/-- A search that succeeds has bound the constructor of the group type it found. -/
theorem constructor_of_ok (h : Search s space steps found past (.ok all) during)
    (hb : Step.bind ∈ steps) :
    ∃ group make, ofRole all .eventLoopGroup = some group ∧ group.member = .constructor make := by
  generalize ho : (.ok all : Except Cause (List Handle)) = outcome at h
  induction h with
  | done => cases hb
  | stop => cases ho
  | go hp hs ih =>
    cases hb with
    | tail _ hb => exact ih hb ho
    | head =>
      cases hp with
      | bind hof hm =>
        subst ho
        obtain ⟨more, rfl⟩ := found_prefix hs
        exact ⟨_, _, ofRole_append_of_eq_some (ofRole_append_of_eq_some hof), hm⟩

/-- Without the call of an accessor, a search does nothing but put its questions, up to the first
one that fails. -/
theorem during_of_no_consult (h : Search s space steps found past outcome during)
    (hc : Step.consult ∉ steps) :
    ∃ names, during = names.map (.asked space ·) ∧ names <+: steps.filterMap (·.typeName?) ∧
      (∀ all, outcome = .ok all → names = steps.filterMap (·.typeName?)) := by
  induction h with
  | done => exact ⟨[], rfl, List.nil_prefix, fun _ _ => rfl⟩
  | stop hf =>
    cases hf with
    | missing => exact ⟨[_], rfl, by simp [Step.typeName?], fun _ ho => by cases ho⟩
    | misfit => exact ⟨[_], rfl, by simp [Step.typeName?], fun _ ho => by cases ho⟩
    | noAccessor => exact absurd List.mem_cons_self hc
    | refused => exact absurd List.mem_cons_self hc
    | noConstructor => exact ⟨[], rfl, List.nil_prefix, fun _ ho => by cases ho⟩
  | go hp _ ih =>
    obtain ⟨names, rfl, hn, hall⟩ := ih fun hm => hc (List.mem_cons_of_mem _ hm)
    cases hp with
    | find =>
      refine ⟨_ :: names, rfl, ?_, fun all ho => ?_⟩
      · simpa [Step.typeName?] using hn
      · simp [Step.typeName?, hall all ho]
    | consult => exact absurd List.mem_cons_self hc
    | bind =>
      refine ⟨names, rfl, ?_, ?_⟩
      · simpa [Step.typeName?] using hn
      · simpa [Step.typeName?] using hall

end

end Search

/-! ## Carrying steps out -/

namespace Search

/-- The parts that a search has found. -/
def parts (name : String) (found : List Handle) : Parts where
  handle? slot := ofRole found slot.role
  constructor? := (ofRole found .eventLoopGroup).bind fun h =>
    (BoundConstructor.bind name h).toOption

section
variable {α β : Type} {x : ExceptT Cause Act α} {k : α → ExceptT Cause Act β} {past now : History}

theorem run_bind_ok {a : α} (h : x.run.run past = (.ok a, now)) :
    (x >>= k).run.run past = (k a).run.run now := by
  simp only [ExceptT.run_bind, StateT.run_bind, h]
  rfl

theorem run_bind_error {e : Cause} (h : x.run.run past = (.error e, now)) :
    (x >>= k).run.run past = (.error e, now) := by
  simp only [ExceptT.run_bind, StateT.run_bind, h]
  rfl

theorem run_lift {a : Act α} {r : α} (h : a.run past = (r, now)) :
    (liftM a : ExceptT Cause Act α).run.run past = (.ok r, now) := by
  show (StateT.run a past >>= fun p => pure (.ok p.1, p.2) : Id (Except Cause α × History)) = _
  rw [h]
  rfl

end

theorem run_consult_of_accessor {h : Handle} {answer : Nat → Option Failure} {past : History}
    (hm : h.member = .accessor answer) :
    h.consult.run past =
      (.ok (answer (past.consultations h.id)), past ++ [.consulted h.id]) := by
  simp only [Handle.consult, Handle.accessor_eq_ok_iff.2 hm]
  rfl

theorem run_consult_of_no_accessor {h : Handle} {past : History}
    (hm : ∀ answer, h.member ≠ .accessor answer) :
    h.consult.run past =
      (.error (.missingMember h.name "unavailability cause accessor"), past) := by
  simp only [Handle.consult, Handle.accessor_eq_error_iff.2 ⟨hm, rfl⟩]
  rfl

/-- A computation carries steps out: given what was found before, its run is a search, and it ends
with what `f` makes of everything found. -/
def CarriesOut {α : Type} (s : Surroundings) (space : String) (steps : List Step)
    (found : List Handle) (f : List Handle → α) (x : ExceptT Cause Act α) : Prop :=
  ∀ past, ∃ outcome during, Search s space steps found past outcome during ∧
    x.run.run past = (outcome.map f, past ++ during)

section
variable {α : Type} {s : Surroundings} {space : String} {rest : List Step} {found : List Handle}
  {f : List Handle → α}

theorem carriesOut_pure : CarriesOut s space [] found f (pure (f found)) :=
  fun past => ⟨.ok found, [], .done, by rw [List.append_nil]; rfl⟩

theorem carriesOut_find {typeName : String} {role : Role} {k : Handle → ExceptT Cause Act α}
    (hk : ∀ h : Handle, h.role = role → CarriesOut s space rest (found ++ [h]) f (k h)) :
    CarriesOut s space (.find typeName role :: rest) found f
      (s.find space typeName role >>= k) := by
  intro past
  have hrun := s.run_find space typeName role past
  cases ha : s.lookup past space typeName with
  | error e =>
    rw [ha] at hrun
    exact ⟨_, _, .stop (.missing ha), run_bind_error hrun⟩
  | ok h =>
    by_cases hr : h.role = role
    · obtain ⟨outcome, during, hs, hx⟩ := hk h hr (past ++ [.asked space typeName])
      have he : h.expect role = .ok h := Handle.expect_eq_ok_iff.2 ⟨hr, rfl⟩
      rw [ha, Except.bind, he] at hrun
      refine ⟨outcome, _, .go (.find ha hr) hs, ?_⟩
      rw [run_bind_ok hrun, hx, List.append_assoc]
    · have he : h.expect role = .error (.roleMismatch h.name role h.role) :=
        Handle.expect_eq_error_iff.2 ⟨hr, rfl⟩
      rw [ha, Except.bind, he] at hrun
      exact ⟨_, _, .stop (.misfit ha hr), run_bind_error hrun⟩

theorem carriesOut_consult {h : Handle}
    {k : Except LookupFailure (Option Failure) → ExceptT Cause Act α}
    (hof : ofRole found .entryPoint = some h) (herror : ∀ e, k (.error e) = throw (.ofLookup e))
    (hsome : ∀ e, k (.ok (some e)) = throw (.nativeUnavailable e.strip))
    (hnone : CarriesOut s space rest found f (k (.ok none))) :
    CarriesOut s space (.consult :: rest) found f (liftM h.consult >>= k) := by
  intro past
  by_cases hm : ∃ answer, h.member = .accessor answer
  · obtain ⟨answer, hm⟩ := hm
    rw [run_bind_ok (run_lift (run_consult_of_accessor hm))]
    cases ha : answer (past.consultations h.id) with
    | some e =>
      refine ⟨_, _, .stop (.refused hof hm ha), ?_⟩
      rw [hsome]
      rfl
    | none =>
      obtain ⟨outcome, during, hs, hx⟩ := hnone (past ++ [.consulted h.id])
      refine ⟨outcome, _, .go (.consult hof hm ha) (by simpa using hs), ?_⟩
      rw [hx, List.append_assoc]
  · have hm : ∀ answer, h.member ≠ .accessor answer := fun answer he => hm ⟨answer, he⟩
    refine ⟨_, _, .stop (.noAccessor hof hm), ?_⟩
    rw [run_bind_ok (run_lift (run_consult_of_no_accessor hm)), herror, List.append_nil]
    rfl

/-- The first two steps are the work of `Surroundings.checkEntryPoint`. -/
theorem carriesOut_checkEntryPoint {d : Declaration} {x : ExceptT Cause Act α}
    (hx : ∀ h : Handle, h.role = .entryPoint → CarriesOut s space rest [h] f x) :
    CarriesOut s space (.find d.entryPoint .entryPoint :: .consult :: rest) [] f
      (s.checkEntryPoint d space >>= fun _ => x) := by
  unfold Surroundings.checkEntryPoint
  rw [bind_assoc]
  refine carriesOut_find fun h hr => ?_
  rw [bind_assoc]
  exact carriesOut_consult (by simp [ofRole, hr]) (fun _ => rfl) (fun _ => rfl) (hx h hr)

theorem carriesOut_bind {name : String} {h : Handle}
    {k : BoundConstructor → ExceptT Cause Act α}
    (hof : ofRole found .eventLoopGroup = some h)
    (hk : ∀ c, BoundConstructor.bind name h = .ok c → CarriesOut s space rest found f (k c)) :
    CarriesOut s space (.bind :: rest) found f
      (liftM ((BoundConstructor.bind name h).mapError Cause.ofLookup) >>= k) := by
  intro past
  cases hb : BoundConstructor.bind name h with
  | ok c =>
    obtain ⟨-, -, hm⟩ := BoundConstructor.bind_eq_ok_iff.1 hb
    obtain ⟨outcome, during, hs, hx⟩ := hk c hb past
    refine ⟨outcome, _, .go (.bind hof hm) (by simpa using hs), ?_⟩
    exact hx
  | error e =>
    obtain ⟨hm, rfl⟩ := BoundConstructor.bind_eq_error_iff.1 hb
    exact ⟨_, _, .stop (.noConstructor hof hm), by rw [List.append_nil]; rfl⟩

theorem carriesOut_findDomainPair {d : Declaration} {g : Option (Handle × Handle) → α}
    (hnone : g none = f found)
    (hsome : ∀ server socket : Handle, server.role = .serverDomainSocketChannel →
      socket.role = .domainSocketChannel →
      g (some (server, socket)) = f (found ++ [server] ++ [socket])) :
    CarriesOut s space d.domainSteps found f
      (s.findDomainPair d space >>= fun p => pure (g p)) := by
  unfold Surroundings.findDomainPair Declaration.domainSteps
  cases d.domainSockets? with
  | none =>
    rw [pure_bind, hnone]
    exact carriesOut_pure
  | some names =>
    simp only [bind_assoc, pure_bind]
    refine carriesOut_find fun server hserver => carriesOut_find fun socket hsocket => ?_
    rw [hsome server socket hserver hsocket]
    exact carriesOut_pure

end

end Search

open Search in
/-- **The program searches by the rules.** -/
theorem search_findParts (s : Surroundings) (d : Declaration) (space : String) :
    CarriesOut s space d.steps [] (parts d.name) (s.findParts d space) := by
  unfold Surroundings.findParts Declaration.steps Declaration.typeSteps
  refine carriesOut_checkEntryPoint fun entryPoint hentry => ?_
  refine carriesOut_find fun server hserver => carriesOut_find fun socket hsocket => ?_
  refine carriesOut_find fun datagram hdatagram => carriesOut_find fun group hgroup => ?_
  refine carriesOut_find fun loop hloop => ?_
  have hof : ofRole ([entryPoint] ++ [server] ++ [socket] ++ [datagram] ++ [group] ++ [loop])
      .eventLoopGroup = some group := by
    simp [ofRole, *]
  refine carriesOut_bind hof fun c hc => carriesOut_findDomainPair ?_ ?_
  · simp only [parts, hof, Option.bind_some, hc, Parts.mk.injEq]
    refine ⟨funext fun slot => ?_, rfl⟩
    cases slot <;> simp [ofRole, Slot.role, *]
  · intro domainServer domainSocket hdomainServer hdomainSocket
    have hof' : ofRole ([entryPoint] ++ [server] ++ [socket] ++ [datagram] ++ [group] ++ [loop] ++
        [domainServer] ++ [domainSocket]) .eventLoopGroup = some group := by
      simp [ofRole, *]
    simp only [parts, hof', Option.bind_some, hc, Parts.mk.injEq]
    refine ⟨funext fun slot => ?_, rfl⟩
    cases slot <;> simp [ofRole, Slot.role, *]

end Transports
