import Mathlib.Data.List.Forall2
import Transports.Proofs.Resolver.AtMostOnce
/-!
# What a procedure asks for

Known records never change, so a procedure can be read off the records that are known at the end:
`Procedure.Visits` lists the transports that it asks for and gives its answer, from a memory that
knows their records. A procedure that is carried out without a break visits transports by the memory
it leads to, and computes just those among them that were not known (`Procedure.visits_run`); and so
does a thread whose steps alternate with those of others (`Crew.visits_run`).
-/

namespace Transports

/-! ## What is computed between two states -/

/-- From one state to another, the records of some transports were computed, each once, and nothing
else was asked. -/
structure Resolver.Computes (r : Resolver) (touches : List FirstTouch) (m : Memory) (now : History)
    (m' : Memory) (now' : History) : Prop where
  nodup : (touches.map (·.transport)).Nodup
  record?_eq_some_iff : ∀ t c, m'.record? t = some c ↔
    m.record? t = some c ∨ ∃ before, ⟨t, before⟩ ∈ touches ∧ r.recordAt t before = c
  computed_eq : m'.computed = m.computed + touches.length
  probes_eq : now'.probes =
    now.probes ++ touches.flatMap fun f => (r.trace f.transport f.before).probes

/-- What one memory knows, the other knows as well. -/
def Memory.Within (m m' : Memory) : Prop :=
  ∀ t c, m.record? t = some c → m'.record? t = some c

namespace Resolver

section
variable {r : Resolver} {past now now' : History} {touches more : List FirstTouch} {m m' : Memory}

theorem Reached.computes (h : r.Reached past touches m now)
    (h' : r.Reached past (touches ++ more) m' now') : r.Computes more m now m' now' where
  nodup := by
    have := h'.nodup
    rw [List.map_append] at this
    exact (List.nodup_append.1 this).2.1
  record?_eq_some_iff t c := by
    simp only [h.record?_eq_some_iff, h'.record?_eq_some_iff, List.mem_append, or_and_right,
      exists_or]
  computed_eq := by rw [h'.computed_eq, h.computed_eq, List.length_append]
  probes_eq := by
    rw [h'.probes_eq, h.probes_eq, List.flatMap_append, List.append_assoc]

/-- What was computed in between is what is known now and was not known before. -/
theorem Reached.mem_map_transport_iff (h : r.Reached past touches m now)
    (h' : r.Reached past (touches ++ more) m' now') {t : Transport} :
    t ∈ more.map (·.transport) ↔ m.record? t = none ∧ m'.record? t ≠ none := by
  have hnodup := h'.nodup
  rw [List.map_append, List.nodup_append] at hnodup
  rw [ne_eq, h.record?_eq_none_iff, h'.record?_eq_none_iff, List.map_append, List.mem_append,
    Decidable.not_not]
  constructor
  · exact fun ht => ⟨fun hn => hnodup.2.2 t hn t ht rfl, .inr ht⟩
  · rintro ⟨hn, ht | ht⟩
    · exact absurd ht hn
    · exact ht

theorem Reached.within (h : r.Reached past touches m now)
    (h' : r.Reached past (touches ++ more) m' now') : m.Within m' :=
  fun _ _ hc => h.record?_of_append h' hc

/-- Every record that is known bears the name of its transport. -/
theorem Reached.name_eq (h : r.Reached past touches m now) {t : Transport} {c : Capability}
    (hc : m.record? t = some c) : c.name = t.name := by
  obtain ⟨before, -, rfl⟩ := h.record?_eq_some_iff.1 hc
  exact r.name_recordAt t before

end

end Resolver

/-! ## Procedures by the records that are known -/

/-- By the records that a memory knows, a procedure asks for the transports of a list, one after the
other, and gives an answer. -/
def Procedure.Visits {α : Type} (m : Memory) : Procedure α → List Transport → α → Prop
  | done b, l, a => l = [] ∧ a = b
  | touch t next, l, a =>
    ∃ c rest, m.record? t = some c ∧ l = t :: rest ∧ (next c).Visits m rest a
  | tell _ next, l, a => next.Visits m l a
  | construct _ _ _ next, l, a => ∃ g, (next g).Visits m l a

namespace Procedure

section
variable {α β : Type} {m : Memory}

/-- One procedure after another visits what the one visits, and then what the other does. -/
theorem visits_bind_iff {p : Procedure α} {k : α → Procedure β} {l : List Transport} {b : β} :
    (p >>= k).Visits m l b ↔
      ∃ l₁ l₂ a, l = l₁ ++ l₂ ∧ p.Visits m l₁ a ∧ (k a).Visits m l₂ b := by
  show (p.bind k).Visits m l b ↔ _
  induction p generalizing l with
  | done a =>
    constructor
    · exact fun h => ⟨[], l, a, rfl, ⟨rfl, rfl⟩, h⟩
    · rintro ⟨_, _, _, rfl, ⟨rfl, rfl⟩, h⟩
      exact h
  | touch t next ih =>
    simp only [bind, Visits, ih]
    constructor
    · rintro ⟨c, _, hc, rfl, l₁, l₂, a, rfl, h₁, h₂⟩
      exact ⟨t :: l₁, l₂, a, rfl, ⟨c, l₁, hc, rfl, h₁⟩, h₂⟩
    · rintro ⟨_, l₂, a, rfl, ⟨c, l₁, hc, rfl, h₁⟩, h₂⟩
      exact ⟨c, l₁ ++ l₂, hc, rfl, l₁, l₂, a, rfl, h₁, h₂⟩
  | tell e next ih => exact ih
  | construct make n factory next ih =>
    simp only [bind, Visits, ih]
    constructor
    · rintro ⟨g, l₁, l₂, a, rfl, h₁, h₂⟩
      exact ⟨l₁, l₂, a, rfl, ⟨g, h₁⟩, h₂⟩
    · rintro ⟨l₁, l₂, a, rfl, ⟨g, h₁⟩, h₂⟩
      exact ⟨g, l₁, l₂, a, rfl, h₁, h₂⟩

end

/-- The answers to requests are those of their procedures. -/
theorem forall₂_of_visits_ofRequests {m : Memory} {settings : Settings} {requests : List Request}
    {l : List Transport} {answers : List Answer}
    (h : (ofRequests settings requests).Visits m l answers) :
    List.Forall₂ (fun q a => ∃ l, (q.procedure settings).Visits m l a) requests answers := by
  induction requests generalizing l answers with
  | nil =>
    obtain ⟨-, rfl⟩ := h
    exact .nil
  | cons q requests ih =>
    obtain ⟨l₁, l₂, a, -, hq, h⟩ := visits_bind_iff.1 h
    obtain ⟨l₃, l₄, rest, -, hrest, -, rfl⟩ := visits_bind_iff.1 h
    exact .cons ⟨l₁, hq⟩ (ih hrest)

section
variable {α : Type} {r : Resolver} {past now : History} {touches : List FirstTouch} {m : Memory}

/-- **A procedure carried out without a break** visits transports by the memory that it leads to,
which knows their records beside those that were known. -/
theorem visits_run (host : Host) (p : Procedure α) (h : r.Reached past touches m now) :
    ∃ answer visited more m' now', ((p.run r host).run m).run now = ((answer, m'), now') ∧
      r.Reached past (touches ++ more) m' now' ∧ p.Visits m' visited answer ∧
      ∀ t, m'.record? t = none ↔ m.record? t = none ∧ t ∉ visited := by
  induction p generalizing touches m now with
  | done a =>
    refine ⟨a, [], [], m, now, rfl, ?_, ⟨rfl, rfl⟩, by simp⟩
    rwa [List.append_nil]
  | touch t next ih =>
    obtain ⟨c, first, m₁, now₁, hrun, h₁, hc, hfirst, -⟩ := Resolver.reached_get h t
    obtain ⟨answer, visited, more, m₂, now₂, hrun₂, h₂, hvisits, hnone⟩ := ih c h₁
    have hnone₁ : ∀ u, m₁.record? u = none ↔ m.record? u = none ∧ u ≠ t := by
      intro u
      rw [h₁.record?_eq_none_iff, h.record?_eq_none_iff, List.map_append, hfirst]
      by_cases ht : t ∈ touches.map (·.transport)
      · rw [if_pos ht, List.append_nil]
        exact ⟨fun hu => ⟨hu, fun e => hu (e ▸ ht)⟩, And.left⟩
      · rw [if_neg ht, List.mem_append, List.mem_singleton, not_or]
    refine ⟨answer, t :: visited, first ++ more, m₂, now₂, ?_, ?_,
      ⟨c, visited, h₁.within h₂ t c hc, rfl, hvisits⟩, fun u => ?_⟩
    · rw [run, Session.run_bind_of_run hrun, hrun₂]
    · rwa [← List.append_assoc]
    · rw [hnone, hnone₁, List.mem_cons, not_or, and_assoc]
  | tell e next ih => exact ih (Resolver.reached_tell h e)
  | construct make n factory next ih =>
    obtain ⟨g, now₁, hrun, h₁⟩ := Resolver.reached_construct h make host n factory
    obtain ⟨answer, visited, more, m₂, now₂, hrun₂, h₂, hvisits, hnone⟩ := ih g h₁
    refine ⟨answer, visited, more, m₂, now₂, ?_, h₂, ⟨g, hvisits⟩, hnone⟩
    rw [run, Session.run_bind_of_run (Session.run_lift hrun), hrun₂]

end

end Procedure

/-! ## Threads whose steps alternate -/

section
variable {r : Resolver} {host : Host} {past now now' : History} {touches : List FirstTouch}
  {m m' : Memory}

/-- A step back: what is left of a procedure after a step leads the way that the procedure does. -/
theorem Procedure.visits_of_step {α : Type} {p p' : Procedure α}
    {records : List (Transport × Capability)} {known : Memory} {l : List Transport} {a : α}
    (hrun : ((p.step r host).run m).run now = (((p', records), m'), now'))
    (hknown : ∀ x ∈ records, known.record? x.1 = some x.2) (h : p'.Visits known l a) :
    ∃ l, p.Visits known l a := by
  cases p with
  | done b =>
    cases hrun
    exact ⟨l, h⟩
  | touch t next =>
    have hget : ((r.get t).run m).run now = ((_, _), _) := rfl
    cases (run_step_touch hget).symm.trans hrun
    exact ⟨t :: l, _, l, hknown (t, _) List.mem_cons_self, rfl, h⟩
  | tell e next =>
    cases hrun
    exact ⟨l, h⟩
  | construct make n factory next =>
    have hmake : (make.construct host n factory).run now = (_, _) := rfl
    cases (run_step_construct hmake).symm.trans hrun
    exact ⟨l, _, h⟩

namespace Crew

/-- By the records of a memory, each thread of the one crew leads where it leads in the other. -/
def LeadsTo (known : Memory) (crew crew' : Crew) : Prop :=
  ∀ (j : Nat) (p' : Procedure (List Answer)) (l : List Transport) (a : List Answer),
    crew'.threads[j]? = some p' → p'.Visits known l a →
      ∃ (p : Procedure (List Answer)) (l : List Transport),
        crew.threads[j]? = some p ∧ p.Visits known l a

theorem LeadsTo.refl (known : Memory) (crew : Crew) : LeadsTo known crew crew :=
  fun _ p' l _ hj h => ⟨p', l, hj, h⟩

theorem LeadsTo.trans {known : Memory} {crew crew₁ crew₂ : Crew} (h₁ : LeadsTo known crew crew₁)
    (h₂ : LeadsTo known crew₁ crew₂) : LeadsTo known crew crew₂ := by
  intro j p' l a hj h
  obtain ⟨p₁, l₁, hj₁, h'⟩ := h₂ j p' l a hj h
  exact h₁ j p₁ l₁ a hj₁ h'

theorem leadsTo_step {crew crew' : Crew} {i : Nat} {known : Memory}
    (hrun : ((crew.step r host i).run m).run now = ((crew', m'), now')) :
    crew.handed <+: crew'.handed ∧
      ((∀ x ∈ crew'.handed, known.record? x.1 = some x.2) → LeadsTo known crew crew') := by
  unfold step at hrun
  cases hp : crew.threads[i]? with
  | none =>
    rw [hp] at hrun
    cases hrun
    exact ⟨List.prefix_refl _, fun _ => .refl known crew⟩
  | some p =>
    rw [hp] at hrun
    obtain ⟨⟨⟨q, records⟩, m₁⟩, now₁, hstep⟩ :
        ∃ x now₁, ((p.step r host).run m).run now = (x, now₁) := ⟨_, _, rfl⟩
    change ((p.step r host >>= _).run m).run now = _ at hrun
    rw [Session.run_bind_of_run hstep] at hrun
    cases hrun
    refine ⟨List.prefix_append _ _, fun hknown j p' l a hj h => ?_⟩
    by_cases hij : i = j
    · subst hij
      have hi := (List.getElem?_eq_some_iff.1 hp).1
      rw [List.getElem?_set_self hi] at hj
      cases hj
      obtain ⟨l', h'⟩ := Procedure.visits_of_step hstep
        (fun x hx => hknown x (List.mem_append_right _ hx)) h
      exact ⟨p, l', hp, h'⟩
    · rw [List.getElem?_set_ne hij] at hj
      exact ⟨p', l, hj, h⟩

/-- **Threads whose steps alternate** lead where they would lead one by one, by any memory that
knows the records handed out. -/
theorem leadsTo_run {crew crew' : Crew} {schedule : List Nat} {known : Memory}
    (hrun : ((crew.run r host schedule).run m).run now = ((crew', m'), now')) :
    crew.handed <+: crew'.handed ∧
      ((∀ x ∈ crew'.handed, known.record? x.1 = some x.2) → LeadsTo known crew crew') := by
  induction schedule generalizing crew m now with
  | nil =>
    cases hrun
    exact ⟨List.prefix_refl _, fun _ => .refl known _⟩
  | cons i schedule ih =>
    obtain ⟨⟨crew₁, m₁⟩, now₁, hstep⟩ :
        ∃ x now₁, ((crew.step r host i).run m).run now = (x, now₁) := ⟨_, _, rfl⟩
    unfold run at hrun
    rw [List.foldlM_cons, Session.run_bind_of_run hstep] at hrun
    obtain ⟨hhanded, hlater⟩ := ih hrun
    obtain ⟨hhanded₁, hfirst⟩ : crew.handed <+: crew₁.handed ∧
        ((∀ x ∈ crew₁.handed, known.record? x.1 = some x.2) → LeadsTo known crew crew₁) :=
      leadsTo_step hstep
    exact ⟨hhanded₁.trans hhanded, fun hknown =>
      (hfirst fun x hx => hknown x (hhanded.subset hx)).trans (hlater hknown)⟩

end Crew

end

/-! ## Whatever threads do, the state is one that is reached -/

section
variable {r : Resolver} {past now : History} {touches : List FirstTouch} {m : Memory}

theorem Procedure.reached_step {α : Type} (host : Host) (p : Procedure α)
    (h : r.Reached past touches m now) :
    ∃ x more m' now', ((p.step r host).run m).run now = ((x, m'), now') ∧
      r.Reached past (touches ++ more) m' now' := by
  cases p with
  | done a => exact ⟨(.done a, []), [], m, now, rfl, by rwa [List.append_nil]⟩
  | touch t next =>
    obtain ⟨c, more, m', now', hrun, h', -, -, -⟩ := Resolver.reached_get h t
    exact ⟨(next c, [(t, c)]), more, m', now', run_step_touch hrun, h'⟩
  | tell e next =>
    refine ⟨(next, []), [], m, now ++ [.told e], rfl, ?_⟩
    rw [List.append_nil]
    exact Resolver.reached_tell h e
  | construct make n factory next =>
    obtain ⟨g, now', hrun, h'⟩ := Resolver.reached_construct h make host n factory
    exact ⟨(next g, []), [], m, now', run_step_construct hrun, by rwa [List.append_nil]⟩

/-- **Whatever threads do next**, in whatever order, they lead from a state that is reached to one
that is reached. -/
theorem Crew.reached_run (host : Host) (crew : Crew) (schedule : List Nat)
    (h : r.Reached past touches m now) :
    ∃ crew' more m' now', ((crew.run r host schedule).run m).run now = ((crew', m'), now') ∧
      r.Reached past (touches ++ more) m' now' := by
  obtain ⟨crew', _, m', now', hrun, -, more, h'⟩ :=
    crew.keeps_run (P := fun _ => True)
      (I := fun _ m now => ∃ more, r.Reached past (touches ++ more) m now)
      (fun p _ m now _ ⟨more, h⟩ => by
        obtain ⟨x, more', m', now', hrun, h'⟩ := p.reached_step host h
        exact ⟨x.1, x.2, m', now', hrun, trivial, more ++ more', by rwa [← List.append_assoc]⟩)
      (fun _ _ => trivial) ⟨[], by rwa [List.append_nil]⟩ schedule
  exact ⟨crew', more, m', now', hrun, h'⟩

end

end Transports
