import Transports.Proofs.Resolver.Reached
import Transports.Resolver.Setup
/-!
# Each transport is searched for at most once

Several threads use one resolver: each carries out its own requests, a schedule says whose step is
next, and the touch of a transport is one step (`Crew`). Whatever the requests, the schedule and the
collaborators are, each transport is searched for when it is touched first, and never again; all
threads are handed the same record (`probed_at_most_once`).
-/

namespace Transports

/-! ## Threads that share a resolver -/

/-- The next step of a procedure: what is left to do after it, and the record that it hands out. -/
def Procedure.step {α : Type} (r : Resolver) (host : Host) :
    Procedure α → Session (Procedure α × List (Transport × Capability))
  | done a => return (done a, [])
  | touch t next => do
    let c ← r.get t
    return (next c, [(t, c)])
  | tell e next => do
    Act.tell e
    return (next, [])
  | construct make n factory next => do
    return (next (← make.construct host n factory), [])

section
variable {α : Type} {r : Resolver} {host : Host} {m m' : Memory} {now now' : History}

theorem Procedure.run_step_touch {t : Transport} {next : Capability → Procedure α} {c : Capability}
    (h : ((r.get t).run m).run now = ((c, m'), now')) :
    (((touch t next).step r host).run m).run now = (((next c, [(t, c)]), m'), now') := by
  unfold step
  rw [Session.run_bind_of_run h]
  rfl

theorem Procedure.run_step_construct {make : BoundConstructor} {n : Nat} {factory : ThreadFactory}
    {next : Except Refusal (LoopGroup Resource) → Procedure α}
    {g : Except Refusal (LoopGroup Resource)}
    (h : (make.construct host n factory).run now = (g, now')) :
    (((construct make n factory next).step r host).run m).run now =
      (((next g, []), m), now') := by
  unfold step
  rw [Session.run_bind_of_run (Session.run_lift h)]
  rfl

end

/-- To carry a procedure out is to take its first step and to carry out what is left. -/
theorem Procedure.run_step {α : Type} (r : Resolver) (host : Host) (p : Procedure α) :
    p.run r host = p.step r host >>= fun x => x.1.run r host := by
  cases p with
  | done a => simp [step, run]
  | touch t next => simp [step, run]
  | tell e next => simp [step, run]
  | construct make n factory next => simp [step, run]

/-- Threads that share a resolver: what each has still to do, and the records handed out so far,
oldest first. -/
structure Crew where
  threads : List (Procedure (List Answer))
  handed : List (Transport × Capability) := []

namespace Crew

def ofRequests (settings : Settings) (programs : List (List Request)) : Crew where
  threads := programs.map (Procedure.ofRequests settings)

def step (r : Resolver) (host : Host) (crew : Crew) (i : Nat) : Session Crew :=
  match crew.threads[i]? with
  | none => return crew
  | some p => do
    let (p, records) ← p.step r host
    return { threads := crew.threads.set i p, handed := crew.handed ++ records }

/-- A step of one thread after the other, as the schedule has it. -/
def run (r : Resolver) (host : Host) (crew : Crew) (schedule : List Nat) : Session Crew :=
  schedule.foldlM (step r host) crew

section
variable {r : Resolver} {host : Host} {P : Procedure (List Answer) → Prop}
  {I : List (Transport × Capability) → Memory → History → Prop}
  (hkeeps : ∀ p handed m now, P p → I handed m now → ∃ p' records m' now',
    ((p.step r host).run m).run now = (((p', records), m'), now') ∧ P p' ∧
      I (handed ++ records) m' now')
include hkeeps

theorem keeps_step (crew : Crew) {m : Memory} {now : History} (hp : ∀ p ∈ crew.threads, P p)
    (h : I crew.handed m now) (i : Nat) :
    ∃ crew' records m' now', ((crew.step r host i).run m).run now = ((crew', m'), now') ∧
      crew'.handed = crew.handed ++ records ∧ (∀ p ∈ crew'.threads, P p) ∧
      I crew'.handed m' now' := by
  unfold step
  cases hi : crew.threads[i]? with
  | none => exact ⟨crew, [], m, now, rfl, (List.append_nil _).symm, hp, h⟩
  | some p =>
    obtain ⟨p', records, m', now', hrun, hp', h'⟩ :=
      hkeeps p crew.handed m now (hp p (List.mem_of_getElem? hi)) h
    refine ⟨⟨crew.threads.set i p', crew.handed ++ records⟩, records, m', now', ?_, rfl,
      fun q hq => ?_, h'⟩
    · show ((p.step r host >>= _).run m).run now = _
      rw [Session.run_bind_of_run hrun]
      rfl
    · rcases List.mem_or_eq_of_mem_set hq with hq | rfl
      · exact hp q hq
      · exact hp'

/-- **Threads keep what each step of one of them keeps**, whatever the schedule. -/
theorem keeps_run (crew : Crew) {m : Memory} {now : History} (hp : ∀ p ∈ crew.threads, P p)
    (h : I crew.handed m now) (schedule : List Nat) :
    ∃ crew' records m' now', ((crew.run r host schedule).run m).run now = ((crew', m'), now') ∧
      crew'.handed = crew.handed ++ records ∧ I crew'.handed m' now' := by
  induction schedule generalizing crew m now with
  | nil => exact ⟨crew, [], m, now, rfl, (List.append_nil _).symm, h⟩
  | cons i schedule ih =>
    obtain ⟨crew₁, records₁, m₁, now₁, hstep, hhanded₁, hp₁, h₁⟩ := crew.keeps_step hkeeps hp h i
    obtain ⟨crew₂, records₂, m₂, now₂, hrun, hhanded₂, h₂⟩ := ih crew₁ hp₁ h₁
    refine ⟨crew₂, records₁ ++ records₂, m₂, now₂, ?_, ?_, h₂⟩
    · unfold run
      rw [List.foldlM_cons, Session.run_bind_of_run hstep]
      exact hrun
    · rw [hhanded₂, hhanded₁, List.append_assoc]

end

end Crew

/-! ## The invariant -/

/-- The transports among the records handed out, in the order of their first touches. -/
def touched (handed : List (Transport × Capability)) : List Transport :=
  (handed.map (·.1)).eraseDups

/-- A resolver has reached a state, and the records that it handed out match it. -/
structure Resolver.Tracks (r : Resolver) (past : History) (handed : List (Transport × Capability))
    (touches : List FirstTouch) (m : Memory) (now : History) : Prop where
  reached : r.Reached past touches m now
  touched_eq : touches.map (·.transport) = touched handed
  known : ∀ p ∈ handed, m.record? p.1 = some p.2

section
variable {r : Resolver} {past now : History} {handed : List (Transport × Capability)}
  {touches : List FirstTouch} {m : Memory}

theorem mem_touched {t : Transport} : t ∈ touched handed ↔ ∃ c, (t, c) ∈ handed := by
  simp [touched]

theorem touched_append_singleton (t : Transport) (c : Capability) :
    touched (handed ++ [(t, c)]) =
      touched handed ++ if t ∈ touched handed then [] else [t] := by
  unfold touched
  rw [List.map_append, List.eraseDups_append, List.map_singleton]
  congr 1
  by_cases ht : t ∈ handed.map (·.1)
  · simp [List.cons_removeAll, ht]
  · simp [List.cons_removeAll, ht, List.eraseDups_cons]

theorem Resolver.Tracks.get (h : r.Tracks past handed touches m now) (t : Transport) :
    ∃ c more m' now', ((r.get t).run m).run now = ((c, m'), now') ∧
      r.Tracks past (handed ++ [(t, c)]) (touches ++ more) m' now' := by
  obtain ⟨c, more, m', now', hrun, h', hc, hmore, -⟩ := reached_get h.reached t
  refine ⟨c, more, m', now', hrun, h', ?_, fun p hp => ?_⟩
  · rw [List.map_append, hmore, touched_append_singleton, h.touched_eq]
  · rcases List.mem_append.1 hp with hp | hp
    · exact h.reached.record?_of_append h' (h.known p hp)
    · cases List.mem_singleton.1 hp
      exact hc

/-- **One step of a thread** keeps the invariant. -/
theorem Procedure.tracks_step {α : Type} (host : Host) (p : Procedure α)
    (h : r.Tracks past handed touches m now) :
    ∃ p' records more m' now', ((p.step r host).run m).run now = (((p', records), m'), now') ∧
      r.Tracks past (handed ++ records) (touches ++ more) m' now' := by
  cases p with
  | done a =>
    refine ⟨.done a, [], [], m, now, rfl, ?_⟩
    rwa [List.append_nil, List.append_nil]
  | touch t next =>
    obtain ⟨c, more, m', now', hrun, h'⟩ := h.get t
    exact ⟨next c, [(t, c)], more, m', now', run_step_touch hrun, h'⟩
  | tell e next =>
    refine ⟨next, [], [], m, now ++ [.told e], rfl, ?_⟩
    rw [List.append_nil, List.append_nil]
    exact ⟨Resolver.reached_tell h.reached e, h.touched_eq, h.known⟩
  | construct make n factory next =>
    obtain ⟨g, now', hrun, h'⟩ := Resolver.reached_construct h.reached make host n factory
    refine ⟨next g, [], [], m, now', run_step_construct hrun, ?_⟩
    rw [List.append_nil, List.append_nil]
    exact ⟨h', h.touched_eq, h.known⟩

namespace Crew

/-- **Any number of steps** keeps the invariant, whatever the schedule. -/
theorem tracks_run (host : Host) (crew : Crew) (h : r.Tracks past crew.handed touches m now)
    (schedule : List Nat) :
    ∃ crew' records more m' now', ((crew.run r host schedule).run m).run now = ((crew', m'), now') ∧
      crew'.handed = crew.handed ++ records ∧
      r.Tracks past crew'.handed (touches ++ more) m' now' := by
  obtain ⟨crew', records, m', now', hrun, hhanded, more, h'⟩ :=
    crew.keeps_run (P := fun _ => True)
      (I := fun handed m now => ∃ more, r.Tracks past handed (touches ++ more) m now)
      (fun p handed m now _ ⟨more, h⟩ => by
        obtain ⟨p', records, more', m', now', hrun, h'⟩ := p.tracks_step host h
        exact ⟨p', records, m', now', hrun, trivial, more ++ more', by rwa [← List.append_assoc]⟩)
      (fun _ _ => trivial) ⟨[], by rwa [List.append_nil]⟩ schedule
  exact ⟨crew', records, more, m', now', hrun, hhanded, h'⟩

/-- Whatever threads have asked for so far, the invariant holds. -/
theorem tracks_ofRequests (r : Resolver) (host : Host) (programs : List (List Request))
    (schedule : List Nat) (past : History) :
    ∃ crew touches m now,
      (((ofRequests r.settings programs).run r host schedule).run {}).run past =
        ((crew, m), now) ∧ r.Tracks past crew.handed touches m now := by
  have hstart : r.Tracks past (ofRequests r.settings programs).handed [] {} past :=
    ⟨.start, rfl, fun _ hp => by cases hp⟩
  obtain ⟨crew, _, touches, m, now, hrun, -, h⟩ :=
    (ofRequests r.settings programs).tracks_run host hstart schedule
  exact ⟨crew, touches, m, now, hrun, h⟩

end Crew

end

/-! ## What the invariant says -/

/-- Each transport that was touched was searched for once. -/
structure ProbedOnce (r : Resolver) (past : History) (handed : List (Transport × Capability))
    (m : Memory) (now : History) : Prop where
  /-- A record was computed for each transport touched. -/
  computed_eq : m.computed = (touched handed).length
  computed_le : m.computed ≤ 4
  /-- All questions and all calls of accessors are those of one computation for each transport
  touched, in the order of the first touches; its record is the one that was handed out. -/
  searches : ∃ touches : List FirstTouch, touches.map (·.transport) = touched handed ∧
    (∀ f ∈ touches, past <+: f.before ∧ f.before ++ r.trace f.transport f.before <+: now ∧
      ∀ c, (f.transport, c) ∈ handed → c = r.recordAt f.transport f.before) ∧
    now.probes = past.probes ++
      touches.flatMap (fun f => (r.trace f.transport f.before).probes) ∧
    now.questions = past.questions ++
      touches.flatMap fun f => (r.trace f.transport f.before).questions
  /-- Whoever asks again is handed what was kept. -/
  kept : ∀ t c, (t, c) ∈ handed → m.record? t = some c

section
variable {r : Resolver} {past now : History} {handed : List (Transport × Capability)}
  {touches : List FirstTouch} {m : Memory}

theorem Resolver.Tracks.probedOnce (h : r.Tracks past handed touches m now) :
    ProbedOnce r past handed m now where
  computed_eq := by rw [h.reached.computed_eq, ← h.touched_eq, List.length_map]
  computed_le := h.reached.computed_le
  searches := by
    refine ⟨touches, h.touched_eq, fun f hf => ?_, h.reached.probes_eq, ?_⟩
    · obtain ⟨hpast, hnow⟩ := h.reached.trace_prefix f hf
      refine ⟨hpast, hnow, fun c hc => ?_⟩
      have hf' : m.record? f.transport = some (r.recordAt f.transport f.before) :=
        h.reached.record?_eq_some_iff.2 ⟨f.before, hf, rfl⟩
      exact Option.some.inj ((h.known _ hc).symm.trans hf')
    · rw [← History.questions_probes, h.reached.probes_eq, History.questions_append,
        History.questions_probes, History.questions_flatMap]
      simp only [History.questions_probes]
  kept _ _ hc := h.known _ hc

/-- If nothing is touched that was not touched before, nothing is searched for, and only records
that were handed out before are handed out. -/
theorem Resolver.Tracks.settled {records : List (Transport × Capability)} {more : List FirstTouch}
    {m' : Memory} {now' : History} (h : r.Tracks past handed touches m now)
    (h' : r.Tracks past (handed ++ records) (touches ++ more) m' now')
    (hold : ∀ p ∈ records, p.1 ∈ touched handed) :
    records ⊆ handed ∧ m' = m ∧ now'.probes = now.probes := by
  have hnone : more = [] := by
    -- first touches are of different transports, and all of them are old
    have hlen : ((touches ++ more).map (·.transport)).length ≤
        (touches.map (·.transport)).length := by
      refine h'.reached.nodup.length_le_of_subset fun t ht => ?_
      rw [h'.touched_eq, mem_touched] at ht
      obtain ⟨c, hc⟩ := ht
      rw [h.touched_eq]
      rcases List.mem_append.1 hc with hc | hc
      · exact mem_touched.2 ⟨c, hc⟩
      · exact hold _ hc
    rw [List.length_map, List.length_map, List.length_append] at hlen
    exact List.eq_nil_of_length_eq_zero (by omega)
  subst hnone
  rw [List.append_nil] at h'
  have hm : m' = m := h'.reached.memory_unique h.reached
  refine ⟨fun p hp => ?_, hm, ?_⟩
  · obtain ⟨c, hc⟩ := mem_touched.1 (hold p hp)
    have hp' := h'.known p (List.mem_append_right _ hp)
    rw [hm, h.known _ hc] at hp'
    cases hp'
    exact hc
  · rw [h'.reached.probes_eq, h.reached.probes_eq]

end

/-- **Each transport is searched for at most once.** Whatever threads ask of a resolver in whatever
order, what they do up to any moment amounts to one computation for each transport touched, in the
order of the first touches, and that of the fallback asks nobody. From there on, whatever else is
asked, nothing is searched for as long as no other transport is touched, and a name that names no
transport changes nothing. Building a resolver touches nothing. -/
theorem probed_at_most_once (r : Resolver) (host : Host) (programs : List (List Request))
    (schedule : List Nat) (past : History) :
    (∃ crew m now,
      (((Crew.ofRequests r.settings programs).run r host schedule).run {}).run past =
        ((crew, m), now) ∧
      ProbedOnce r past crew.handed m now ∧
      (∀ before, r.trace .nio before = []) ∧
      (∀ (threads : List (Procedure (List Answer))) (more : List Nat), ∃ crew' records m' now',
        ((Crew.run r host ⟨threads, crew.handed⟩ more).run m).run now = ((crew', m'), now') ∧
        crew'.handed = crew.handed ++ records ∧ ProbedOnce r past crew'.handed m' now' ∧
        ((∀ p ∈ records, p.1 ∈ touched crew.handed) →
          records ⊆ crew.handed ∧ m' = m ∧ now'.probes = now.probes)) ∧
      ∀ name u, Transport.ofText name = .error u →
        ((r.getByName? name).run m).run now = ((none, m), now)) ∧
    (∀ s : Setup, Act.OnlyTells (s.build host)) ∧
    (∀ requests, (Procedure.ofRequests r.settings requests).run r host = r.serve host requests) ∧
    ∀ p : Procedure (List Answer), p.run r host = p.step r host >>= fun x => x.1.run r host := by
  have hstart : r.Tracks past (Crew.ofRequests r.settings programs).handed [] {} past :=
    ⟨.start, rfl, fun _ hp => by cases hp⟩
  obtain ⟨crew, records, touches, m, now, hrun, -, h⟩ :=
    (Crew.ofRequests r.settings programs).tracks_run host hstart schedule
  refine ⟨⟨crew, m, now, hrun, h.probedOnce, r.trace_nio, fun threads more => ?_, ?_⟩,
    fun s => s.onlyTells_build host, Procedure.run_ofRequests r host, Procedure.run_step r host⟩
  · obtain ⟨crew', records, touches', m', now', hrun', hhanded, h'⟩ :=
      Crew.tracks_run host ⟨threads, crew.handed⟩ h more
    refine ⟨crew', records, m', now', hrun', hhanded, h'.probedOnce, fun hold => ?_⟩
    rw [hhanded] at h'
    exact h.settled h' hold
  · intro name u hu
    simp only [Resolver.getByName?, hu]
    rfl

end Transports
