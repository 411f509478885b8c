import Transports.Proofs.LoopGroup.Opened
/-!
# All loops of a group, or none

The handles of a group are asked for one place after the other, and the first call that fails
(`Plan.FailsAt`) ends it: the calls made are those up to this place
(`Plan.FailsAt.asked_opening`), and what they gave is given back (`Plan.FailsAt.released_opening`).
If no call fails, all places were asked for and nothing is given back. `construct_all_or_nothing`
says what a bound constructor makes of either.
-/

namespace Transports

/-! ## The calls of an opening -/

namespace Opening

section
variable {η : Type} {openAt : Nat → Except IoFailure η} {m n : Nat} {o : Opening η}

/-- As long as no call fails, an opening can be taken up where it was left. -/
theorem extend_add (hok : (extend openAt m o).failure? = none) :
    extend openAt (m + n) o = extend openAt n (extend openAt m o) := by
  induction m generalizing o with
  | zero => rw [Nat.zero_add, extend]
  | succ m ih =>
    rw [Nat.add_right_comm]
    cases hcall : openAt o.handles.size with
    | error e =>
      simp only [extend, hcall] at hok
      cases hok
    | ok h =>
      simp only [extend, hcall] at hok ⊢
      exact ih hok

/-- As long as no call fails, the places asked for follow each other, and what the calls give is
kept. -/
theorem calls_extend (hok : (extend openAt n o).failure? = none) :
    (extend openAt n o).asked.toList = o.asked.toList ++ List.range' o.handles.size n ∧
      (extend openAt n o).handles.toList = o.handles.toList ++
        (List.range' o.handles.size n).filterMap fun i => (openAt i).toOption := by
  induction n generalizing o with
  | zero => exact ⟨(List.append_nil _).symm, (List.append_nil _).symm⟩
  | succ n ih =>
    unfold extend at hok ⊢
    cases hcall : openAt o.handles.size with
    | error e =>
      simp only [hcall] at hok
      cases hok
    | ok h =>
      simp only [hcall] at hok ⊢
      obtain ⟨hasked, hhandles⟩ := ih hok
      rw [hasked, hhandles, List.range'_succ, List.filterMap_cons, hcall]
      simp [Except.toOption]

/-- An opening that no failure ended asked for every place, and has what the calls gave. -/
theorem calls_run (hok : (run openAt n).failure? = none) :
    (run openAt n).asked.toList = List.range n ∧
      (run openAt n).handles.toList = (List.range n).filterMap fun i => (openAt i).toOption := by
  rw [List.range_eq_range']
  exact calls_extend hok

end

end Opening

/-! ## The first call that fails -/

namespace Plan

variable {η : Type}

def opening (p : Plan η) : Opening η :=
  Opening.run p.openAt p.count

def AllOpen (p : Plan η) : Prop :=
  ∀ i < p.count, ∃ h, p.openAt i = .ok h

/-- The call for a place fails, and it is the first that does. -/
structure FailsAt (p : Plan η) (i : Nat) (e : IoFailure) : Prop where
  lt : i < p.count
  openAt_eq : p.openAt i = .error e
  before : ∀ j < i, ∃ h, p.openAt j = .ok h

/-- Every call succeeds, or there is a first one that fails. -/
theorem allOpen_or_failsAt (p : Plan η) : p.AllOpen ∨ ∃ i e, p.FailsAt i e := by
  -- as far as `n`, no call failed yet or the first failure was met
  have hupto : ∀ n ≤ p.count, (∀ i < n, ∃ h, p.openAt i = .ok h) ∨ ∃ i e, p.FailsAt i e := by
    intro n hn
    induction n with
    | zero => exact .inl fun i hi => absurd hi (Nat.not_lt_zero i)
    | succ n ih =>
      rcases ih (Nat.le_of_succ_le hn) with hbefore | hfails
      · cases hcall : p.openAt n with
        | error e => exact .inr ⟨n, e, hn, hcall, hbefore⟩
        | ok h =>
          refine .inl fun i hi => ?_
          rcases Nat.lt_succ_iff_lt_or_eq.1 hi with hi | rfl
          · exact hbefore i hi
          · exact ⟨h, hcall⟩
      · exact .inr hfails
  exact hupto p.count (Nat.le_refl _)

section
variable {p : Plan η}

theorem AllOpen.failure?_opening (h : p.AllOpen) : p.opening.failure? = none :=
  Opening.failure?_extend rfl fun i hi => h i (by simpa using hi)

namespace FailsAt

variable {i : Nat} {e : IoFailure}

/-- Before the call that fails, nothing ends the opening. -/
theorem failure?_run (h : p.FailsAt i e) : (Opening.run p.openAt i).failure? = none :=
  Opening.failure?_extend rfl fun j hj => h.before j (by simpa using hj)

/-- The opening goes on to the call that fails, and ends there. -/
theorem opening_eq (h : p.FailsAt i e) :
    p.opening = { Opening.run p.openAt i with
      asked := (Opening.run p.openAt i).asked.push i, failure? := some e } := by
  obtain ⟨k, hk⟩ := Nat.exists_eq_add_of_lt h.lt
  have hsize : (Opening.run p.openAt i).handles.size = i := (Opening.holds_run h.failure?_run).1
  have hrest : p.opening = Opening.extend p.openAt (k + 1) (Opening.run p.openAt i) := by
    rw [opening, hk, Nat.add_assoc]
    exact Opening.extend_add h.failure?_run
  rw [hrest, Opening.extend, hsize]
  simp only [h.openAt_eq]

theorem failure?_opening (h : p.FailsAt i e) : p.opening.failure? = some e := by
  rw [h.opening_eq]

/-- The places asked for are those up to the one at which the call fails. -/
theorem asked_opening (h : p.FailsAt i e) : p.opening.asked.toList = List.range (i + 1) := by
  rw [h.opening_eq, Array.toList_push, (Opening.calls_run h.failure?_run).1, List.range_succ]

/-- What the calls before gave is given back. -/
theorem released_opening (h : p.FailsAt i e) :
    p.opening.released = (List.range i).filterMap p.handleAt := by
  rw [Opening.released, h.failure?_opening, h.opening_eq]
  exact (Opening.calls_run h.failure?_run).2

theorem ofOpening_eq (h : p.FailsAt i e) :
    LoopGroup.ofOpening p.transport p.factory p.opening = .error e := by
  unfold LoopGroup.ofOpening
  rw [h.failure?_opening]

end FailsAt

theorem Opened.threadCount_eq {g : LoopGroup η} (h : p.Opened g) : g.threadCount = p.count := by
  rw [LoopGroup.threadCount, ← Array.length_toList, h.loops_eq, List.length_map, List.length_range]

/-- The loop at a place owns what the call for the place gave. -/
theorem Opened.loop?_eq {g : LoopGroup η} (h : p.Opened g) {i : Nat} (hi : i < p.count) :
    ∃ k, p.openAt i = .ok k ∧ g.loop? i = some ⟨p.transport, i, some k⟩ := by
  obtain ⟨k, hk⟩ := h.exists_openAt_eq hi
  refine ⟨k, hk, ?_⟩
  rw [LoopGroup.loop?, ← Array.getElem?_toList, h.loops_eq, List.getElem?_map,
    List.getElem?_range hi, Option.map_some, handleAt, hk]
  rfl

/-- **If every call succeeds** the group is there, every place was asked for, and nothing is given
back. -/
theorem AllOpen.exists_ofOpening (h : p.AllOpen) (hpos : 0 < p.count) :
    ∃ g, LoopGroup.ofOpening p.transport p.factory p.opening = .ok g ∧ p.Opened g ∧
      p.opening.asked.toList = List.range p.count ∧ p.opening.released = [] := by
  obtain ⟨g, hg⟩ := exists_group? hpos h
  refine ⟨g, group?_eq_some_iff.1 hg, opened_of_group? hg, ?_, ?_⟩
  · exact (Opening.calls_run h.failure?_opening).1
  · rw [Opening.released, h.failure?_opening]
    rfl

end

end Plan

/-- Nothing to open is refused: no place is asked for, and nothing is told. -/
theorem LoopGroup.run_launch_zero {η : Type} (transport : String) (factory : ThreadFactory)
    (openAt : Nat → Except IoFailure η) (past : History) :
    (LoopGroup.launch transport factory (Opening.run openAt 0)).run past =
      (.error .noThreads, past) :=
  rfl

/-! ## What a constructor makes of it -/

/-- **All loops of a group, or none.** A constructor that agrees opens as many loops as asked for,
or two for each processor if none are asked for, which must be one at least. It makes a group
exactly if every call for a handle succeeds. The group then has all loops, each open and owning what
the call for its place gave, its first turn, and the factory as it came, and one event tells of it.
Otherwise there is a first call that fails: the calls are those up to this one, what they gave is
given back, nothing is told, and the refusal holds the failure as it is. An opening itself refuses
to open no loops. -/
theorem construct_all_or_nothing {c : BoundConstructor} {host : Host} {n : Nat}
    {factory : ThreadFactory} {past : History} {openAt : Nat → Except IoFailure Resource}
    (hagree : c.make.attempt (past.constructions c.groupType.id) = .ok openAt)
    (hcount : 0 < BoundConstructor.effectiveThreads host n) :
    let p : Plan Resource :=
      ⟨c.make.transport, factory, openAt, BoundConstructor.effectiveThreads host n⟩
    let outcome := (c.construct host n factory).run past
    let call : Effect := .constructed c.groupType.id p.count
    let event : Event := .groupOpened c.make.transport p.count
    (p.count = if n = 0 then 2 * host.parallelism else n) ∧
    ((∃ g, outcome.1 = .ok g) ↔ p.AllOpen) ∧
    (p.AllOpen → ∃ g, outcome = (.ok g, past ++ [call, .told event]) ∧
      g.threadCount = p.count ∧ g.transport = c.make.transport ∧ g.factory = factory ∧
      g.position = 0 ∧
      (∀ i < p.count, ∃ h, openAt i = .ok h ∧ g.loop? i = some ⟨c.make.transport, i, some h⟩) ∧
      p.opening.asked.toList = List.range p.count ∧ p.opening.released = []) ∧
    (event.message = "event loop group opened" ∧
      event.fields = [("transport", .text c.make.transport), ("n_threads", .number p.count)]) ∧
    (∀ i e, p.FailsAt i e →
      outcome = (.error (.groupConstruction c.transport (.io e)), past ++ [call]) ∧
      p.opening.asked.toList = List.range (i + 1) ∧
      p.opening.released = (List.range i).filterMap p.handleAt) ∧
    (p.AllOpen ∨ ∃ i e, p.FailsAt i e) ∧
    ∀ {η : Type} (openAt : Nat → Except IoFailure η),
      (LoopGroup.launch c.make.transport factory (Opening.run openAt 0)).run past =
        (.error .noThreads, past) ∧
      IoFailure.noThreads.kind = .invalidInput ∧ (Opening.run openAt 0).asked = #[] := by
  intro p outcome call event
  have hrun : outcome = _ := BoundConstructor.run_construct_of_agreed hagree
  have hall : p.AllOpen → ∃ g, outcome = (.ok g, past ++ [call, .told event]) ∧ p.Opened g ∧
      p.opening.asked.toList = List.range p.count ∧ p.opening.released = [] := by
    intro h
    obtain ⟨g, hg, hopened, hcalls⟩ := h.exists_ofOpening hcount
    refine ⟨g, hrun.trans ?_, hopened, hcalls⟩
    have hg' : LoopGroup.ofOpening c.make.transport factory (Opening.run openAt
      (BoundConstructor.effectiveThreads host n)) = .ok g := hg
    rw [hg']
    simp only [hopened.threadCount_eq]
    rfl
  have hfails : ∀ i e, p.FailsAt i e →
      outcome = (.error (.groupConstruction c.transport (.io e)), past ++ [call]) := by
    intro i e h
    have he : LoopGroup.ofOpening c.make.transport factory (Opening.run openAt
      (BoundConstructor.effectiveThreads host n)) = .error e := h.ofOpening_eq
    refine hrun.trans ?_
    rw [he]
    simp only [Failure.strip_of_not_isWrapper (e := .io e) rfl]
    rfl
  refine ⟨?_, ⟨fun ⟨g, hg⟩ => ?_, fun h => ?_⟩, fun h => ?_, ⟨rfl, rfl⟩, fun i e h => ?_,
    p.allOpen_or_failsAt, fun openAt => ⟨LoopGroup.run_launch_zero _ _ openAt _, rfl, rfl⟩⟩
  · show BoundConstructor.effectiveThreads host n = _
    rw [BoundConstructor.effectiveThreads, Host.defaultThreads, Nat.mul_comm]
  · rcases p.allOpen_or_failsAt with h | ⟨i, e, h⟩
    · exact h
    · rw [hfails i e h] at hg
      cases hg
  · obtain ⟨g, hg, -⟩ := hall h
    exact ⟨g, congrArg Prod.fst hg⟩
  · obtain ⟨g, hg, hopened, hcalls⟩ := hall h
    exact ⟨g, hg, hopened.threadCount_eq, hopened.transport_eq, hopened.factory_eq,
      hopened.position_eq, fun i hi => hopened.loop?_eq hi, hcalls⟩
  · exact ⟨hfails i e h, h.asked_opening, h.released_opening⟩

/-- Of the four loops on a machine with two processors, the third cannot be opened. The failure has
a wrapper inside, which stays there. -/
theorem third_call_fails :
    let e : IoFailure := .wrapped .outOfMemory (.lookup (.invocation (.plain "no ring")))
    let openAt : Nat → Except IoFailure Resource := fun i =>
      if i = 2 then .error e else .ok (.descriptor i)
    let make : Constructor := { transport := "EPOLL", attempt _ := .ok openAt }
    let c : BoundConstructor := ⟨"EPOLL", .groupType none "epoll.Group" make, make⟩
    let factory : ThreadFactory := { stem := "loop" }
    let p : Plan Resource := ⟨"EPOLL", factory, openAt, 4⟩
    make.attempt 0 = .ok openAt ∧ 0 < BoundConstructor.effectiveThreads (.linux 2) 0 ∧
      p.FailsAt 2 e ∧
      (c.construct (.linux 2) 0 factory).run [] =
        (.error (.groupConstruction "EPOLL" (.io e)), [.constructed c.groupType.id 4]) ∧
      p.opening.asked.toList = [0, 1, 2] ∧
      p.opening.released = [.descriptor 0, .descriptor 1] := by
  intro e openAt make c factory p
  have hfails : p.FailsAt 2 e := ⟨by decide, rfl, fun j hj => by
    rw [show p.openAt j = .ok (.descriptor j) from if_neg (Nat.ne_of_lt hj)]
    exact ⟨_, rfl⟩⟩
  have hcount : 0 < BoundConstructor.effectiveThreads (.linux 2) 0 := by decide
  obtain ⟨-, -, -, -, houtcome, -⟩ :=
    @construct_all_or_nothing c (.linux 2) 0 factory [] openAt rfl hcount
  obtain ⟨hrun, hasked, hreleased⟩ := houtcome 2 e hfails
  exact ⟨rfl, hcount, hfails, hrun, hasked, hreleased⟩

end Transports
