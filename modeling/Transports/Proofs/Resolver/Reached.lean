import Transports.Proofs.Detection.Isolation
import Transports.Proofs.Resolver.Procedure
/-!
# The states that a resolver reaches

Whatever is asked of a resolver, in whatever order, a state that it reaches comes about in two ways
only (`Resolver.Reached`): a record that is not known yet is computed and kept, or something happens
that is no part of a computation. `reached_get` and `reached_run` show this of one request for a
record and of whole procedures; every invariant is then an induction over two cases.
-/

namespace Transports

/-- Whether an effect is part of the search for backends: a question to a collaborator, or the call
of an accessor. -/
def Effect.isProbe : Effect → Bool
  | .soughtNamespace _ => true
  | .asked _ _ => true
  | .consulted _ => true
  | .constructed _ _ => false
  | .told _ => false

/-- The questions and the calls of accessors, oldest first. -/
def History.probes (h : History) : History :=
  h.filter (·.isProbe)

namespace History

@[simp] theorem probes_append (h k : History) : (h ++ k).probes = h.probes ++ k.probes :=
  List.filter_append ..

theorem probes_eq_nil {h : History} (hq : ∀ e ∈ h, e.isProbe = false) : h.probes = [] := by
  refine List.filter_eq_nil_iff.2 fun e he => ?_
  rw [hq e he]
  exact Bool.false_ne_true

theorem questions_probes (h : History) : h.probes.questions = h.questions := by
  unfold probes questions
  rw [List.filterMap_filter]
  congr 1
  funext e
  cases e <;> rfl

theorem questions_flatMap {α : Type} (l : List α) (f : α → History) :
    questions (l.flatMap f) = l.flatMap fun a => (f a).questions :=
  List.filterMap_flatMap ..

theorem consultations_eq_zero {h : History} (hq : ∀ e ∈ h, e.isProbe = false) (id : Handle.Id) :
    h.consultations id = 0 := by
  refine List.countP_eq_zero.2 fun e he heq => ?_
  cases beq_iff_eq.1 heq
  cases hq _ he

end History

/-! ## One computation -/

namespace Resolver

section
variable (r : Resolver) (t : Transport) (past : History)

/-- The record of a transport if it is computed after a history. -/
def recordAt : Capability :=
  ((r.compute t).run past).1

/-- Everything that the computation of a record does after a history. -/
def trace : History :=
  ((r.compute t).run past).2.drop past.length

theorem run_compute : (r.compute t).run past = (r.recordAt t past, past ++ r.trace t past) := by
  have happend : ∃ effects, ((r.compute t).run past).2 = past ++ effects := by
    unfold compute
    cases hd : Declaration.of? t with
    | none => exact ⟨[], (List.append_nil _).symm⟩
    | some d =>
      obtain ⟨c, effects, -, hrun⟩ := detects_detect d r.settings r.surroundings past
      exact ⟨effects, by simp only [hrun]⟩
  obtain ⟨effects, he⟩ := happend
  refine Prod.ext rfl ?_
  unfold trace
  rw [he, List.drop_left]

/-- The computation of a native record is a detection. -/
theorem detects_compute {d : Declaration} (hd : Declaration.of? t = some d) :
    Detects d r.settings r.surroundings past (r.recordAt t past) (r.trace t past) := by
  obtain ⟨c, effects, h, hrun⟩ := detects_detect d r.settings r.surroundings past
  have hc := r.run_compute t past
  simp only [compute, hd, hrun] at hc
  obtain ⟨hc, he⟩ := Prod.mk.inj hc
  rw [← hc, ← List.append_cancel_left he]
  exact h

/-- The fallback asks nobody. -/
theorem trace_nio : r.trace .nio past = [] :=
  List.drop_length

theorem name_recordAt : (r.recordAt t past).name = t.name := by
  cases hd : Declaration.of? t with
  | none =>
    obtain rfl := Declaration.of?_eq_none_iff.1 hd
    rfl
  | some d =>
    rw [← Declaration.name_of? hd, (r.detects_compute t past hd).name_eq]

variable {r t past}

/-- A computation makes no group. -/
theorem not_constructed_of_mem_trace {e : Effect} (he : e ∈ r.trace t past) (id : Handle.Id)
    (threads : Nat) : e ≠ .constructed id threads := by
  rintro rfl
  cases hd : Declaration.of? t with
  | none =>
    obtain rfl := Declaration.of?_eq_none_iff.1 hd
    rw [trace_nio] at he
    cases he
  | some d =>
    rcases (r.detects_compute t past hd).mem_effects he with h | ⟨_, h⟩ | ⟨_, _, _, h⟩
    · cases h
    · cases h
    · rcases h with ⟨_, _, h⟩ | ⟨_, _, h⟩ <;> cases h

theorem constructions_trace (id : Handle.Id) : (r.trace t past).constructions id = 0 := by
  refine List.countP_eq_zero.2 fun e he => ?_
  have := not_constructed_of_mem_trace he
  cases e <;> simp_all

end

end Resolver

/-- The making of a group depends on how often groups of its type were made before, and on nothing
else that happened; it searches for nothing. -/
theorem BoundConstructor.run_construct (make : BoundConstructor) (host : Host) (n : Nat)
    (factory : ThreadFactory) (k : Nat) :
    ∃ answer effects, (∀ e ∈ effects, e.isProbe = false) ∧
      ∀ past : History, past.constructions make.groupType.id = k →
        (make.construct host n factory).run past = (answer, past ++ effects) := by
  cases ha : make.make.attempt k with
  | error e =>
    refine ⟨_, _, ?_, fun past hk => run_construct_of_refused (hk ▸ ha)⟩
    simp [Effect.isProbe]
  | ok openAt =>
    cases ho : LoopGroup.ofOpening make.make.transport factory
        (Opening.run openAt (effectiveThreads host n)) with
    | error e =>
      refine ⟨_, _, ?_, fun past hk => (run_construct_of_agreed (hk ▸ ha)).trans (by rw [ho])⟩
      simp [Effect.isProbe]
    | ok g =>
      refine ⟨_, _, ?_, fun past hk => (run_construct_of_agreed (hk ▸ ha)).trans (by rw [ho])⟩
      simp [Effect.isProbe]

/-! ## Many requests -/

/-- The first touch of a transport, and everything that happened before it. -/
structure FirstTouch where
  transport : Transport
  before : History

namespace Resolver

/-- The states that a resolver reaches from a history, with the first touches in order: it knows no
record at the start, computes those that are not known, and keeps them. -/
inductive Reached (r : Resolver) (past : History) : List FirstTouch → Memory → History → Prop where
  | start : Reached r past [] {} past
  | first {touches : List FirstTouch} {m : Memory} {now : History} {t : Transport} :
      Reached r past touches m now → m.record? t = none →
      Reached r past (touches ++ [⟨t, now⟩]) (m.store t (r.recordAt t now)) (now ++ r.trace t now)
  | quiet {touches : List FirstTouch} {m : Memory} {now effects : History} :
      Reached r past touches m now → (∀ e ∈ effects, e.isProbe = false) →
      Reached r past touches m (now ++ effects)

namespace Reached

section
variable {r : Resolver} {past now : History} {touches : List FirstTouch} {m : Memory}

/-- The memory holds the records of the first touches. -/
theorem record?_eq_some_iff (h : Reached r past touches m now) {t : Transport} {c : Capability} :
    m.record? t = some c ↔ ∃ before, ⟨t, before⟩ ∈ touches ∧ r.recordAt t before = c := by
  induction h generalizing c with
  | start => simp
  | quiet _ _ ih => exact ih
  | @first touches m now u _ hu ih =>
    rw [Memory.record?_store]
    simp only [List.mem_append, List.mem_singleton, FirstTouch.mk.injEq]
    by_cases htu : t = u
    · subst htu
      -- `t` was not known, so the new touch is its only one
      have hnone : ∀ before, ⟨t, before⟩ ∉ touches := by
        intro before hb
        rw [ih.2 ⟨before, hb, rfl⟩] at hu
        cases hu
      simp [hnone]
    · simp [htu, ih]

theorem record?_eq_none_iff (h : Reached r past touches m now) {t : Transport} :
    m.record? t = none ↔ t ∉ touches.map (·.transport) := by
  rw [Option.eq_none_iff_forall_ne_some]
  simp only [ne_eq, h.record?_eq_some_iff, List.mem_map, not_exists, not_and]
  constructor
  · rintro hn ⟨_, before⟩ hf rfl
    exact hn _ before hf rfl
  · intro hn c before hf _
    exact hn ⟨t, before⟩ hf rfl

theorem computed_eq (h : Reached r past touches m now) : m.computed = touches.length := by
  induction h with
  | start => rfl
  | quiet _ _ ih => exact ih
  | first _ _ ih => rw [Memory.computed_store, ih, List.length_append, List.length_singleton]

/-- No transport is touched first twice. -/
theorem nodup (h : Reached r past touches m now) : (touches.map (·.transport)).Nodup := by
  induction h with
  | start => exact List.nodup_nil
  | quiet _ _ ih => exact ih
  | first h hu ih =>
    rw [List.map_append, List.map_singleton, List.nodup_append]
    refine ⟨ih, List.pairwise_singleton _ _, ?_⟩
    rintro t ht u hu' rfl
    cases List.mem_singleton.1 hu'
    exact h.record?_eq_none_iff.1 hu ht

theorem computed_le (h : Reached r past touches m now) : m.computed ≤ Transport.all.length := by
  rw [h.computed_eq, ← List.length_map (·.transport)]
  exact h.nodup.length_le_of_subset fun t _ => Transport.mem_all t

/-- **One search for each first touch**: the questions and calls of a run are those of the
computations, one after the other. -/
theorem probes_eq (h : Reached r past touches m now) :
    now.probes = past.probes ++ touches.flatMap fun f => (r.trace f.transport f.before).probes := by
  induction h with
  | start => rw [List.flatMap_nil, List.append_nil]
  | quiet _ hq ih => rw [History.probes_append, History.probes_eq_nil hq, List.append_nil, ih]
  | first _ _ ih =>
    rw [History.probes_append, ih, List.flatMap_append, List.flatMap_singleton, List.append_assoc]

/-- The effects of a computation stand in the history where it was carried out. -/
theorem trace_prefix (h : Reached r past touches m now) :
    ∀ f ∈ touches, past <+: f.before ∧ f.before ++ r.trace f.transport f.before <+: now := by
  suffices past <+: now ∧ ∀ f ∈ touches, past <+: f.before ∧
      f.before ++ r.trace f.transport f.before <+: now from this.2
  induction h with
  | start => exact ⟨List.prefix_refl _, fun _ hf => by cases hf⟩
  | quiet _ _ ih =>
    refine ⟨ih.1.trans (List.prefix_append _ _), fun f hf => ?_⟩
    exact ⟨(ih.2 f hf).1, (ih.2 f hf).2.trans (List.prefix_append _ _)⟩
  | first _ _ ih =>
    refine ⟨ih.1.trans (List.prefix_append _ _), fun f hf => ?_⟩
    rcases List.mem_append.1 hf with hf | hf
    · exact ⟨(ih.2 f hf).1, (ih.2 f hf).2.trans (List.prefix_append _ _)⟩
    · cases List.mem_singleton.1 hf
      exact ⟨ih.1, List.prefix_refl _⟩

/-- A property of everything that is no probe, and of everything that a computation does, is one of
everything that happens. -/
theorem exists_added (h : Reached r past touches m now) {p : Effect → Prop}
    (hquiet : ∀ e : Effect, e.isProbe = false → p e)
    (htrace : ∀ t before, ∀ e ∈ r.trace t before, p e) :
    ∃ added, now = past ++ added ∧ ∀ e ∈ added, p e := by
  induction h with
  | start => exact ⟨[], (List.append_nil _).symm, fun _ he => by cases he⟩
  | quiet _ hq ih =>
    obtain ⟨added, rfl, hadded⟩ := ih
    refine ⟨_, List.append_assoc .., fun e he => ?_⟩
    rcases List.mem_append.1 he with he | he
    · exact hadded e he
    · exact hquiet e (hq e he)
  | first _ _ ih =>
    obtain ⟨added, rfl, hadded⟩ := ih
    refine ⟨_, List.append_assoc .., fun e he => ?_⟩
    rcases List.mem_append.1 he with he | he
    · exact hadded e he
    · exact htrace _ _ e he

/-- The first touches decide the memory. -/
theorem memory_unique {m' : Memory} {now' : History} (h : Reached r past touches m now)
    (h' : Reached r past touches m' now') : m = m' := by
  have hrecord : m.record? = m'.record? := by
    funext t
    refine Option.ext fun c => ?_
    rw [h.record?_eq_some_iff, h'.record?_eq_some_iff]
  have hcomputed : m.computed = m'.computed := by rw [h.computed_eq, h'.computed_eq]
  cases m
  cases m'
  cases hrecord
  cases hcomputed
  rfl

/-- A known record stays. -/
theorem record?_of_append {m' : Memory} {now' : History} {more : List FirstTouch}
    (h : Reached r past touches m now) (h' : Reached r past (touches ++ more) m' now')
    {t : Transport} {c : Capability} (hc : m.record? t = some c) : m'.record? t = some c := by
  obtain ⟨before, hb, rfl⟩ := h.record?_eq_some_iff.1 hc
  exact h'.record?_eq_some_iff.2 ⟨before, List.mem_append_left _ hb, rfl⟩

end

end Reached

section
variable {r : Resolver} {past now : History} {touches : List FirstTouch} {m : Memory}

/-- **A touch**: a known record is handed out and nothing happens; one that is not known is computed
and kept. No group is made. -/
theorem reached_get (h : Reached r past touches m now) (t : Transport) :
    ∃ c more m' now', ((r.get t).run m).run now = ((c, m'), now') ∧
      Reached r past (touches ++ more) m' now' ∧ m'.record? t = some c ∧
      more.map (·.transport) = (if t ∈ touches.map (·.transport) then [] else [t]) ∧
      ∀ id, now'.constructions id = now.constructions id := by
  cases hc : m.record? t with
  | some c =>
    have ht : t ∈ touches.map (·.transport) := by
      refine Decidable.of_not_not fun hn => ?_
      rw [h.record?_eq_none_iff.2 hn] at hc
      cases hc
    refine ⟨c, [], m, now, run_get_of_known hc, ?_, hc, ?_, fun _ => rfl⟩
    · rwa [List.append_nil]
    · rw [if_pos ht, List.map_nil]
  | none =>
    have ht := h.record?_eq_none_iff.1 hc
    have hrun : ((r.get t).run m).run now = _ := run_get_of_unknown hc
    rw [r.run_compute] at hrun
    refine ⟨_, [⟨t, now⟩], _, _, hrun, h.first hc, ?_, ?_, fun id => ?_⟩
    · rw [Memory.record?_store, if_pos rfl]
    · rw [if_neg ht, List.map_singleton]
    · rw [History.constructions_append, constructions_trace, Nat.add_zero]

theorem reached_tell (h : Reached r past touches m now) (e : Event) :
    Reached r past touches m (now ++ [.told e]) := by
  refine h.quiet fun e' he => ?_
  cases List.mem_singleton.1 he
  rfl

/-- The making of a group reaches no further record. -/
theorem reached_construct (h : Reached r past touches m now) (make : BoundConstructor) (host : Host)
    (n : Nat) (factory : ThreadFactory) :
    ∃ answer now', (make.construct host n factory).run now = (answer, now') ∧
      Reached r past touches m now' := by
  obtain ⟨answer, effects, hq, hrun⟩ :=
    make.run_construct host n factory (now.constructions make.groupType.id)
  exact ⟨answer, _, hrun now rfl, h.quiet hq⟩

end

end Resolver

section
variable {r : Resolver} {past now : History} {touches : List FirstTouch} {m : Memory}

/-- **A procedure** leads from a state that is reached to one that is reached. -/
theorem Procedure.reached_run {α : Type} (host : Host) (p : Procedure α)
    (h : r.Reached past touches m now) :
    ∃ answer more m' now', ((p.run r host).run m).run now = ((answer, m'), now') ∧
      r.Reached past (touches ++ more) m' now' := by
  induction p generalizing touches m now with
  | done a => exact ⟨a, [], m, now, rfl, by rwa [List.append_nil]⟩
  | touch t next ih =>
    obtain ⟨c, more, m₁, now₁, hrun, h₁, -, -, -⟩ := Resolver.reached_get h t
    obtain ⟨answer, more', m₂, now₂, hrun₂, h₂⟩ := ih c h₁
    refine ⟨answer, more ++ more', m₂, now₂, ?_, ?_⟩
    · rw [run, Session.run_bind_of_run hrun, hrun₂]
    · rwa [← List.append_assoc]
  | tell e next ih => exact ih (Resolver.reached_tell h e)
  | construct make n factory next ih =>
    obtain ⟨g, now₁, hrun, h₁⟩ := Resolver.reached_construct h make host n factory
    obtain ⟨answer, more, m₂, now₂, hrun₂, h₂⟩ := ih g h₁
    refine ⟨answer, more, m₂, now₂, ?_, h₂⟩
    rw [run, Session.run_bind_of_run (Session.run_lift hrun), hrun₂]

/-- **Whatever is asked of a resolver**, it is in a state that it reaches. -/
theorem Resolver.reached_serve (r : Resolver) (host : Host) (past : History)
    (requests : List Request) :
    ∃ touches, r.Reached past touches (((r.serve host requests).run {}).run past).1.2
      (((r.serve host requests).run {}).run past).2 := by
  have hstart : r.Reached past [] {} past := .start
  obtain ⟨_, touches, _, _, hrun, h⟩ :=
    (Procedure.ofRequests r.settings requests).reached_run host hstart
  rw [Procedure.run_ofRequests] at hrun
  rw [hrun]
  exact ⟨touches, h⟩

end

end Transports
