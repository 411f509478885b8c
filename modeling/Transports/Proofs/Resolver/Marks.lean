import Transports.Proofs.Detection.Event
import Transports.Proofs.LoopGroup.Opened
import Transports.Proofs.Resolver.Visits
/-!
# The marks of procedures

What a procedure does that may show in the log is a row of marks: touches of transports, events
told, groups made. What each of them tells can be read off the records that are known in the end
(`Memory.log`): the first touch of a native transport tells the event of its record, and every other
touch tells nothing. `Procedure.logs_run` says this of a procedure carried out without a break, and
`Crew.logs_run` of threads under any schedule.
-/

namespace Transports

/-! ## Marks and what they tell -/

/-- Something that a procedure does and that may show in the log. -/
inductive Mark where
  /-- The touch of a transport. -/
  | touch (t : Transport)
  | tell (e : Event)
  /-- The making of a group, and what became of it. -/
  | group (g : Except Refusal (LoopGroup Resource))

/-- The transports that are touched, the latest first. -/
def Mark.touched : List Mark → List Transport
  | [] => []
  | .touch t :: l => touched l ++ [t]
  | .tell _ :: l => touched l
  | .group _ :: l => touched l

theorem Mark.touched_append (l l' : List Mark) : touched (l ++ l') = touched l' ++ touched l := by
  induction l with
  | nil => exact (List.append_nil _).symm
  | cons mark l ih => cases mark <;> simp [touched, ih]

def LoopGroup.openingNews : Except Refusal (LoopGroup Resource) → List Event
  | .ok g => [.groupOpened g.transport g.threadCount]
  | .error _ => []

namespace Memory

def known (m : Memory) : List Transport :=
  Transport.all.filter fun t => (m.record? t).isSome

/-- What the touch of a transport tells: the event of its record if it is native and not known
yet. -/
def touchNews (m : Memory) (known : List Transport) (t : Transport) : List Event :=
  if t = .nio ∨ t ∈ known then [] else (m.record? t).toList.map Capability.event

def log (m : Memory) : List Transport → List Mark → List Event
  | _, [] => []
  | known, .touch t :: l => m.touchNews known t ++ m.log (t :: known) l
  | known, .tell e :: l => e :: m.log known l
  | known, .group g :: l => LoopGroup.openingNews g ++ m.log known l

theorem mem_known_iff {m : Memory} {t : Transport} : t ∈ m.known ↔ m.record? t ≠ none := by
  simp [known, Option.isSome_iff_ne_none]

section
variable {m : Memory} {known known' : List Transport}

/-- Which transports are known matters, and not in which order they became so. -/
theorem log_congr (h : ∀ t, t ∈ known ↔ t ∈ known') (l : List Mark) :
    m.log known l = m.log known' l := by
  induction l generalizing known known' with
  | nil => rfl
  | cons mark l ih =>
    cases mark with
    | touch t =>
      have hcons : ∀ u, u ∈ t :: known ↔ u ∈ t :: known' := fun u => by
        rw [List.mem_cons, List.mem_cons, h u]
      simp only [log, touchNews, h t, ih hcons]
    | tell e => simp only [log, ih h]
    | group g => simp only [log, ih h]

theorem log_append (l l' : List Mark) :
    m.log known (l ++ l') = m.log known l ++ m.log (Mark.touched l ++ known) l' := by
  induction l generalizing known with
  | nil => rfl
  | cons mark l ih =>
    cases mark with
    | touch t => simp [log, Mark.touched, ih]
    | tell e => simp [log, Mark.touched, ih]
    | group g => simp [log, Mark.touched, ih]

end

end Memory

/-! ## From one state to another -/

/-- From one state to another a resolver does what marks say, and tells what they tell by the
records of any memory that comes after. -/
structure Resolver.Logs (m : Memory) (now : History) (marks : List Mark) (m' : Memory)
    (now' : History) : Prop where
  within : m.Within m'
  mem_known_iff : ∀ t, t ∈ m'.known ↔ t ∈ Mark.touched marks ++ m.known
  events_eq : ∀ later : Memory, m'.Within later →
    now'.events = now.events ++ later.log m.known marks

theorem Memory.Within.refl (m : Memory) : m.Within m :=
  fun _ _ hc => hc

theorem Memory.Within.trans {m m' m'' : Memory} (h : m.Within m') (h' : m'.Within m'') :
    m.Within m'' :=
  fun t c hc => h' t c (h t c hc)

namespace Resolver

section
variable {r : Resolver} {m m' m'' : Memory} {now now' now'' : History} {marks marks' : List Mark}

theorem Logs.refl (m : Memory) (now : History) : Logs m now [] m now where
  within := .refl m
  mem_known_iff _ := Iff.rfl
  events_eq _ _ := (List.append_nil _).symm

theorem Logs.trans (h : Logs m now marks m' now') (h' : Logs m' now' marks' m'' now'') :
    Logs m now (marks ++ marks') m'' now'' where
  within := h.within.trans h'.within
  mem_known_iff t := by
    rw [h'.mem_known_iff, Mark.touched_append, List.append_assoc, List.mem_append, List.mem_append,
      h.mem_known_iff]
  events_eq later hlater := by
    rw [h'.events_eq later hlater, h.events_eq later (h'.within.trans hlater), Memory.log_append,
      Memory.log_congr h.mem_known_iff, List.append_assoc]

/-- Every memory that comes after knows what is known now. -/
theorem Logs.record?_later (h : Logs m now marks m' now') {later : Memory} (hl : m'.Within later)
    {t : Transport} {c : Capability} (hc : m.record? t = some c) : later.record? t = some c :=
  hl t c (h.within t c hc)

/-- A search tells the event of the record that it leads to, and the fallback tells nothing. -/
theorem events_trace (r : Resolver) (t : Transport) (past : History) :
    (r.trace t past).events = if t = .nio then [] else [(r.recordAt t past).event] := by
  cases hd : Declaration.of? t with
  | none =>
    obtain rfl := Declaration.of?_eq_none_iff.1 hd
    rw [trace_nio, if_pos rfl]
    rfl
  | some d =>
    rw [(r.detects_compute t past hd).events_eq, if_neg fun ht => ?_]
    rw [Declaration.of?_eq_none_iff.2 ht] at hd
    cases hd

/-- **A touch** tells the event of a record that was not known, and hands the record out. -/
theorem logs_get (r : Resolver) (t : Transport) (m : Memory) (now : History) :
    ∃ c m' now', ((r.get t).run m).run now = ((c, m'), now') ∧ m'.record? t = some c ∧
      Logs m now [.touch t] m' now' := by
  cases hc : m.record? t with
  | some c =>
    have hknown : t ∈ m.known := Memory.mem_known_iff.2 (by rw [hc]; exact Option.some_ne_none c)
    refine ⟨c, m, now, run_get_of_known hc, hc, .refl m, fun u => ?_, fun later _ => ?_⟩
    · rw [Mark.touched, Mark.touched, List.nil_append, List.mem_append, List.mem_singleton]
      exact ⟨.inr, fun hu => hu.elim (fun e => e ▸ hknown) id⟩
    · simp [Memory.log, Memory.touchNews, hknown]
  | none =>
    have hrun : ((r.get t).run m).run now = _ := run_get_of_unknown hc
    rw [r.run_compute] at hrun
    have hstored : (m.store t (r.recordAt t now)).record? t = some (r.recordAt t now) := by simp
    have hunknown : t ∉ m.known := fun ht => Memory.mem_known_iff.1 ht hc
    refine ⟨_, _, _, hrun, hstored, fun u c hu => ?_, fun u => ?_, fun later hlater => ?_⟩
    · rw [Memory.record?_store, if_neg, hu]
      rintro rfl
      cases hc.symm.trans hu
    · rw [Mark.touched, Mark.touched, List.nil_append, List.mem_append, List.mem_singleton,
        Memory.mem_known_iff, Memory.mem_known_iff, Memory.record?_store]
      by_cases hu : u = t <;> simp [hu]
    · simp [Memory.log, Memory.touchNews, hunknown, events_trace, hlater t _ hstored]

theorem logs_tell (e : Event) (m : Memory) (now : History) :
    Logs m now [.tell e] m (now ++ [.told e]) where
  within := .refl m
  mem_known_iff _ := Iff.rfl
  events_eq _ _ := History.events_append ..

/-- **The making of a group** tells that it was opened, if it was. -/
theorem logs_construct (make : BoundConstructor) (host : Host) (n : Nat) (factory : ThreadFactory)
    (m : Memory) (now : History) :
    ∃ g now', (make.construct host n factory).run now = (g, now') ∧
      Logs m now [.group g] m now' := by
  have hlogs : ∀ {g : Except Refusal (LoopGroup Resource)} {now' : History},
      now'.events = now.events ++ LoopGroup.openingNews g → Logs m now [.group g] m now' :=
    fun he => ⟨.refl m, fun _ => Iff.rfl, fun _ _ => by
      rw [he, Memory.log, Memory.log, List.append_nil]⟩
  cases ha : make.make.attempt (now.constructions make.groupType.id) with
  | error e =>
    refine ⟨_, _, BoundConstructor.run_construct_of_refused ha, hlogs ?_⟩
    rw [History.events_append]
    rfl
  | ok openAt =>
    have hrun : (make.construct host n factory).run now = _ :=
      BoundConstructor.run_construct_of_agreed ha
    split at hrun
    · refine ⟨_, _, hrun, hlogs ?_⟩
      rw [History.events_append]
      rfl
    · next g hg =>
      refine ⟨_, _, hrun, hlogs ?_⟩
      obtain ⟨-, htransport, -⟩ := LoopGroup.eq_of_ofOpening hg
      rw [History.events_append, LoopGroup.openingNews, htransport]
      rfl

end

end Resolver

/-! ## The marks of procedures -/

/-- By the records that a memory knows, a procedure leaves marks and gives an answer. -/
def Procedure.Leaves {α : Type} (m : Memory) : Procedure α → List Mark → α → Prop
  | done b, l, a => l = [] ∧ a = b
  | touch t next, l, a =>
    ∃ c rest, m.record? t = some c ∧ l = .touch t :: rest ∧ (next c).Leaves m rest a
  | tell e next, l, a => ∃ rest, l = .tell e :: rest ∧ next.Leaves m rest a
  | construct _ _ _ next, l, a => ∃ g rest, l = .group g :: rest ∧ (next g).Leaves m rest a

namespace Procedure

section
variable {α β : Type} {m m' : Memory}

theorem leaves_bind_iff {p : Procedure α} {k : α → Procedure β} {l : List Mark} {b : β} :
    (p >>= k).Leaves m l b ↔
      ∃ l₁ l₂ a, l = l₁ ++ l₂ ∧ p.Leaves m l₁ a ∧ (k a).Leaves m l₂ b := by
  show (p.bind k).Leaves m l b ↔ _
  induction p generalizing l with
  | done a =>
    constructor
    · exact fun h => ⟨[], l, a, rfl, ⟨rfl, rfl⟩, h⟩
    · rintro ⟨_, _, _, rfl, ⟨rfl, rfl⟩, h⟩
      exact h
  | touch t next ih =>
    simp only [bind, Leaves, ih]
    constructor
    · rintro ⟨c, _, hc, rfl, l₁, l₂, a, rfl, h₁, h₂⟩
      exact ⟨_ :: l₁, l₂, a, rfl, ⟨c, l₁, hc, rfl, h₁⟩, h₂⟩
    · rintro ⟨_, l₂, a, rfl, ⟨c, l₁, hc, rfl, h₁⟩, h₂⟩
      exact ⟨c, l₁ ++ l₂, hc, rfl, l₁, l₂, a, rfl, h₁, h₂⟩
  | tell e next ih =>
    simp only [bind, Leaves, ih]
    constructor
    · rintro ⟨_, rfl, l₁, l₂, a, rfl, h₁, h₂⟩
      exact ⟨_ :: l₁, l₂, a, rfl, ⟨l₁, rfl, h₁⟩, h₂⟩
    · rintro ⟨_, l₂, a, rfl, ⟨l₁, rfl, h₁⟩, h₂⟩
      exact ⟨l₁ ++ l₂, rfl, l₁, l₂, a, rfl, h₁, h₂⟩
  | construct make n factory next ih =>
    simp only [bind, Leaves, ih]
    constructor
    · rintro ⟨g, _, rfl, l₁, l₂, a, rfl, h₁, h₂⟩
      exact ⟨_ :: l₁, l₂, a, rfl, ⟨g, l₁, rfl, h₁⟩, h₂⟩
    · rintro ⟨_, l₂, a, rfl, ⟨g, l₁, rfl, h₁⟩, h₂⟩
      exact ⟨g, l₁ ++ l₂, rfl, l₁, l₂, a, rfl, h₁, h₂⟩

variable (r : Resolver) (host : Host)

/-- **A procedure carried out without a break** leaves marks by the memory that it leads to, and
tells what they tell. -/
theorem logs_run (p : Procedure α) (m : Memory) (now : History) :
    ∃ answer marks m' now', ((p.run r host).run m).run now = ((answer, m'), now') ∧
      Resolver.Logs m now marks m' now' ∧
      ∀ later : Memory, m'.Within later → p.Leaves later marks answer := by
  induction p generalizing m now with
  | done a => exact ⟨a, [], m, now, rfl, .refl m now, fun _ _ => ⟨rfl, rfl⟩⟩
  | touch t next ih =>
    obtain ⟨c, m₁, now₁, hrun₁, hc, h₁⟩ := r.logs_get t m now
    obtain ⟨answer, marks, m₂, now₂, hrun₂, h₂, hleaves⟩ := ih c m₁ now₁
    refine ⟨answer, .touch t :: marks, m₂, now₂, ?_, h₁.trans h₂, fun later hlater =>
      ⟨c, marks, h₂.record?_later hlater hc, rfl, hleaves later hlater⟩⟩
    rw [run, Session.run_bind_of_run hrun₁, hrun₂]
  | tell e next ih =>
    obtain ⟨answer, marks, m₂, now₂, hrun₂, h₂, hleaves⟩ := ih m (now ++ [.told e])
    exact ⟨answer, .tell e :: marks, m₂, now₂, hrun₂, (Resolver.logs_tell e m now).trans h₂,
      fun later hlater => ⟨marks, rfl, hleaves later hlater⟩⟩
  | construct make n factory next ih =>
    obtain ⟨g, now₁, hrun₁, h₁⟩ := Resolver.logs_construct make host n factory m now
    obtain ⟨answer, marks, m₂, now₂, hrun₂, h₂, hleaves⟩ := ih g m now₁
    refine ⟨answer, .group g :: marks, m₂, now₂, ?_, h₁.trans h₂, fun later hlater =>
      ⟨g, marks, rfl, hleaves later hlater⟩⟩
    rw [run, Session.run_bind_of_run (Session.run_lift hrun₁), hrun₂]

/-- **One step of a procedure** leaves its first mark, and tells what that one tells. -/
theorem logs_step (p : Procedure α) (m : Memory) (now : History) :
    ∃ p' records marks m' now', ((p.step r host).run m).run now = (((p', records), m'), now') ∧
      Resolver.Logs m now marks m' now' ∧
      ∀ later : Memory, m'.Within later → ∀ l a, p'.Leaves later l a →
        p.Leaves later (marks ++ l) a := by
  cases p with
  | done a => exact ⟨.done a, [], [], m, now, rfl, .refl m now, fun _ _ _ _ h => h⟩
  | touch t next =>
    obtain ⟨c, m', now', hrun, hc, h⟩ := r.logs_get t m now
    exact ⟨next c, [(t, c)], [.touch t], m', now', run_step_touch hrun, h,
      fun later hlater l a hl => ⟨c, l, hlater t c hc, rfl, hl⟩⟩
  | tell e next =>
    exact ⟨next, [], [.tell e], m, _, rfl, Resolver.logs_tell e m now,
      fun _ _ l a hl => ⟨l, rfl, hl⟩⟩
  | construct make n factory next =>
    obtain ⟨g, now', hrun, h⟩ := Resolver.logs_construct make host n factory m now
    exact ⟨next g, [], [.group g], m, now', run_step_construct hrun, h,
      fun _ _ l a hl => ⟨g, l, rfl, hl⟩⟩

end

end Procedure

/-! ## The marks of threads -/

namespace Mark

def own (i : Nat) (marks : List (Nat × Mark)) : List Mark :=
  (marks.filter (·.1 == i)).map (·.2)

theorem own_append (i : Nat) (marks marks' : List (Nat × Mark)) :
    own i (marks ++ marks') = own i marks ++ own i marks' := by
  simp [own]

theorem own_map (i j : Nat) (l : List Mark) :
    own j (l.map (i, ·)) = if i = j then l else [] := by
  by_cases hij : i = j
  · simp [own, hij, List.filter_map, Function.comp_def]
  · simp [own, hij, List.filter_map, Function.comp_def]

end Mark

namespace Crew

/-- By the records of a memory, each thread of the one crew leaves its own marks and goes on as in
the other. -/
def Leaves (later : Memory) (crew : Crew) (marks : List (Nat × Mark)) (crew' : Crew) : Prop :=
  ∀ (j : Nat) (p' : Procedure (List Answer)) (l : List Mark) (a : List Answer),
    crew'.threads[j]? = some p' → p'.Leaves later l a →
      ∃ p : Procedure (List Answer), crew.threads[j]? = some p ∧
        p.Leaves later (Mark.own j marks ++ l) a

theorem Leaves.refl (later : Memory) (crew : Crew) : crew.Leaves later [] crew :=
  fun _ p' _ _ hj h => ⟨p', hj, h⟩

theorem Leaves.trans {later : Memory} {crew crew₁ crew₂ : Crew} {marks marks' : List (Nat × Mark)}
    (h : crew.Leaves later marks crew₁) (h' : crew₁.Leaves later marks' crew₂) :
    crew.Leaves later (marks ++ marks') crew₂ := by
  intro j p₂ l a hj hl
  obtain ⟨p₁, hj₁, hl₁⟩ := h' j p₂ l a hj hl
  obtain ⟨p, hj, hl⟩ := h j p₁ _ a hj₁ hl₁
  refine ⟨p, hj, ?_⟩
  rwa [Mark.own_append, List.append_assoc]

section
variable (r : Resolver) (host : Host) (crew : Crew)

theorem logs_step (i : Nat) (m : Memory) (now : History) :
    ∃ crew' marks m' now', ((crew.step r host i).run m).run now = ((crew', m'), now') ∧
      Resolver.Logs m now (marks.map (·.2)) m' now' ∧
      ∀ later : Memory, m'.Within later → crew.Leaves later marks crew' := by
  unfold step
  cases hi : crew.threads[i]? with
  | none => exact ⟨crew, [], m, now, rfl, .refl m now, fun later _ => .refl later crew⟩
  | some p =>
    obtain ⟨p', records, marks, m', now', hrun, h, hleaves⟩ := p.logs_step r host m now
    refine ⟨⟨crew.threads.set i p', crew.handed ++ records⟩, marks.map (i, ·), m', now', ?_, ?_,
      fun later hlater j q l a hj hl => ?_⟩
    · show ((p.step r host >>= _).run m).run now = _
      rw [Session.run_bind_of_run hrun]
      rfl
    · rw [List.map_map]
      exact (List.map_id marks).symm ▸ h
    · rw [Mark.own_map]
      by_cases hij : i = j
      · subst hij
        rw [List.getElem?_set_self (List.getElem?_eq_some_iff.1 hi).1] at hj
        cases hj
        rw [if_pos rfl]
        exact ⟨p, hi, hleaves later hlater l a hl⟩
      · rw [List.getElem?_set_ne hij] at hj
        rw [if_neg hij]
        exact ⟨q, hj, hl⟩

/-- **Threads tell what their marks tell**, whatever the schedule, and each leaves its own marks in
the order in which it would leave them alone. -/
theorem logs_run (schedule : List Nat) (m : Memory) (now : History) :
    ∃ crew' marks m' now', ((crew.run r host schedule).run m).run now = ((crew', m'), now') ∧
      Resolver.Logs m now (marks.map (·.2)) m' now' ∧
      ∀ later : Memory, m'.Within later → crew.Leaves later marks crew' := by
  unfold run
  induction schedule generalizing crew m now with
  | nil => exact ⟨crew, [], m, now, rfl, .refl m now, fun later _ => .refl later crew⟩
  | cons i schedule ih =>
    obtain ⟨crew₁, marks₁, m₁, now₁, hstep, h₁, hleaves₁⟩ := crew.logs_step r host i m now
    obtain ⟨crew₂, marks₂, m₂, now₂, hrun, h₂, hleaves₂⟩ := ih crew₁ m₁ now₁
    refine ⟨crew₂, marks₁ ++ marks₂, m₂, now₂, ?_, ?_, fun later hlater =>
      (hleaves₁ later (h₂.within.trans hlater)).trans (hleaves₂ later hlater)⟩
    · rw [List.foldlM_cons, Session.run_bind_of_run hstep, hrun]
    · rw [List.map_append]
      exact h₁.trans h₂

end

end Crew

end Transports
