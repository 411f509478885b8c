import Transports.Capability.Basic
/-!
# Groups that were opened

A group comes out of an opening that did not fail, and a `Plan` says of which one. What comes out
has the loops that were asked for, and the loop at a place owns what the call at that place gave; no
turn was taken yet (`Plan.opened_of_group?`). Constructors and records make their groups in no other
way (`Launch.fst_run_make`).
-/

namespace Transports

section
variable {η : Type} {openAt : Nat → Except IoFailure η}

namespace Opening

/-- An opening holds what the calls gave at the places asked for so far. -/
def Holds (openAt : Nat → Except IoFailure η) (o : Opening η) : Prop :=
  ∀ i < o.handles.size, ∃ h, openAt i = .ok h ∧ o.handles[i]? = some h

theorem Holds.push {o : Opening η} (ho : o.Holds openAt) {h : η}
    (hcall : openAt o.handles.size = .ok h) :
    Holds openAt { o with asked := o.asked.push o.handles.size, handles := o.handles.push h } := by
  intro i hi
  rw [Array.size_push] at hi
  rcases Nat.lt_succ_iff_lt_or_eq.1 hi with hi | rfl
  · obtain ⟨k, hk, hget⟩ := ho i hi
    exact ⟨k, hk, by rw [Array.getElem?_push_lt hi, ← hget, Array.getElem?_eq_getElem hi]⟩
  · exact ⟨h, hcall, Array.getElem?_push_size⟩

theorem holds_extend {n : Nat} {o : Opening η} (ho : o.Holds openAt)
    (hok : (extend openAt n o).failure? = none) :
    (extend openAt n o).handles.size = o.handles.size + n ∧ (extend openAt n o).Holds openAt := by
  induction n generalizing o with
  | zero => exact ⟨rfl, ho⟩
  | succ n ih =>
    unfold extend at hok ⊢
    cases hcall : openAt o.handles.size with
    | error e =>
      simp only [hcall] at hok
      cases hok
    | ok h =>
      simp only [hcall] at hok ⊢
      obtain ⟨hsize, hholds⟩ := ih (ho.push hcall) hok
      refine ⟨?_, hholds⟩
      rw [hsize, Array.size_push]
      omega

/-- **An opening that was not ended by a failure** holds what the calls at all places gave. -/
theorem holds_run {n : Nat} (hok : (run openAt n).failure? = none) :
    (run openAt n).handles.size = n ∧ (run openAt n).Holds openAt := by
  have hempty : Holds openAt ({} : Opening η) := fun i hi => absurd hi (Nat.not_lt_zero i)
  obtain ⟨hsize, hholds⟩ := holds_extend hempty hok
  exact ⟨hsize.trans (Nat.zero_add n), hholds⟩

/-- If the calls at all places succeed, nothing ends an opening early. -/
theorem failure?_extend {n : Nat} {o : Opening η} (ho : o.failure? = none)
    (hcalls : ∀ i < o.handles.size + n, ∃ h, openAt i = .ok h) :
    (extend openAt n o).failure? = none := by
  induction n generalizing o with
  | zero => exact ho
  | succ n ih =>
    obtain ⟨h, hcall⟩ := hcalls o.handles.size (by omega)
    unfold extend
    simp only [hcall]
    refine ih ho fun i hi => hcalls i ?_
    rw [Array.size_push] at hi
    omega

end Opening

end

theorem LoopGroup.eq_of_ofOpening {η : Type} {transport : String} {factory : ThreadFactory}
    {o : Opening η} {g : LoopGroup η} (h : ofOpening transport factory o = .ok g) :
    o.failure? = none ∧ g.transport = transport ∧ g.factory = factory ∧ g.position = 0 ∧
      g.loops = o.handles.mapIdx fun i handle => ⟨transport, i, some handle⟩ := by
  unfold ofOpening at h
  split at h
  · cases h
  · next hfailure =>
    split at h
    · cases h
      exact ⟨hfailure, rfl, rfl, rfl, rfl⟩
    · cases h

/-! ## What a group is opened by -/

/-- What a group is opened by. -/
structure Plan (η : Type) where
  transport : String
  factory : ThreadFactory
  /-- The calls for the handles, by place. -/
  openAt : Nat → Except IoFailure η
  /-- How many loops there are to be. -/
  count : Nat

namespace Plan

variable {η : Type}

/-- The group that is opened, unless a call fails or there is nothing to open. -/
def group? (p : Plan η) : Option (LoopGroup η) :=
  (LoopGroup.ofOpening p.transport p.factory (Opening.run p.openAt p.count)).toOption

def handleAt (p : Plan η) (i : Nat) : Option η :=
  (p.openAt i).toOption

/-- A group is as it comes out of its opening. -/
structure Opened (p : Plan η) (g : LoopGroup η) : Prop where
  pos : 0 < p.count
  transport_eq : g.transport = p.transport
  factory_eq : g.factory = p.factory
  position_eq : g.position = 0
  isSome_handleAt : ∀ i < p.count, (p.handleAt i).isSome = true
  loops_eq : g.loops.toList = (List.range p.count).map fun i => ⟨p.transport, i, p.handleAt i⟩

theorem group?_eq_some_iff {p : Plan η} {g : LoopGroup η} :
    p.group? = some g ↔
      LoopGroup.ofOpening p.transport p.factory (Opening.run p.openAt p.count) = .ok g := by
  unfold group?
  cases LoopGroup.ofOpening p.transport p.factory (Opening.run p.openAt p.count) <;>
    simp [Except.toOption]

/-- **A group comes out of an opening** if there is a loop to open and every call succeeds. -/
theorem exists_group? {p : Plan η} (hpos : 0 < p.count)
    (hcalls : ∀ i < p.count, ∃ h, p.openAt i = .ok h) : ∃ g, p.group? = some g := by
  have hfailure : (Opening.run p.openAt p.count).failure? = none :=
    Opening.failure?_extend rfl (by simpa using hcalls)
  obtain ⟨hsize, -⟩ := Opening.holds_run hfailure
  have hsize_pos : 0 < (Opening.run p.openAt p.count).handles.size := hsize.symm ▸ hpos
  unfold group? LoopGroup.ofOpening
  rw [hfailure]
  simp only [dif_pos hsize_pos]
  exact ⟨_, rfl⟩

/-- **What comes out of an opening** has all loops, and each owns what its call gave. -/
theorem opened_of_group? {p : Plan η} {g : LoopGroup η} (h : p.group? = some g) : p.Opened g := by
  obtain ⟨hfailure, htransport, hfactory, hposition, hloops⟩ :=
    LoopGroup.eq_of_ofOpening (group?_eq_some_iff.1 h)
  obtain ⟨hsize, hholds⟩ := Opening.holds_run hfailure
  refine ⟨?_, htransport, hfactory, hposition, fun i hi => ?_, List.ext_getElem? fun i => ?_⟩
  · have hpos := g.size_pos
    rwa [hloops, Array.size_mapIdx, hsize] at hpos
  · obtain ⟨k, hk, -⟩ := hholds i (hsize.symm ▸ hi)
    rw [handleAt, hk]
    rfl
  · rw [hloops, Array.getElem?_toList, Array.getElem?_mapIdx, List.getElem?_map]
    by_cases hi : i < p.count
    · obtain ⟨k, hk, hget⟩ := hholds i (hsize.symm ▸ hi)
      rw [hget, List.getElem?_range hi, Option.map_some, Option.map_some, handleAt, hk]
      rfl
    · rw [Array.getElem?_eq_none (by omega), List.getElem?_eq_none (by simpa using hi)]
      rfl

theorem Opened.exists_openAt_eq {p : Plan η} {g : LoopGroup η} (h : p.Opened g) {i : Nat}
    (hi : i < p.count) : ∃ k, p.openAt i = .ok k := by
  have hsome := h.isSome_handleAt i hi
  cases hcall : p.openAt i with
  | error e => simp [handleAt, hcall, Except.toOption] at hsome
  | ok k => exact ⟨k, rfl⟩

end Plan

/-! ## Ways to a group -/

section
variable {host : Host} {n : Nat} {factory : ThreadFactory} {past : History}

/-- What a constructor opens groups by, if it agrees to. -/
def BoundConstructor.plan? (c : BoundConstructor) (host : Host) (past : History) (n : Nat)
    (factory : ThreadFactory) : Option (Plan Resource) :=
  (c.make.attempt (past.constructions c.groupType.id)).toOption.map fun openAt =>
    { transport := c.make.transport, factory, openAt, count := effectiveThreads host n }

theorem BoundConstructor.toOption_run_construct (c : BoundConstructor) :
    ((c.construct host n factory).run past).1.toOption =
      (c.plan? host past n factory).bind Plan.group? := by
  unfold plan?
  cases ha : c.make.attempt (past.constructions c.groupType.id) with
  | error e =>
    rw [run_construct_of_refused ha]
    rfl
  | ok openAt =>
    rw [run_construct_of_agreed ha]
    show _ = Plan.group? _
    unfold Plan.group?
    split
    · next he => rw [he]; rfl
    · next hg => rw [hg]; rfl

/-- What a record opens groups by: its constructor decides. -/
def Capability.plan? (c : Capability) (host : Host) (past : History) (n : Nat)
    (factory : ThreadFactory) : Option (Plan Resource) :=
  c.constructor.toOption.bind fun make => make.plan? host past n factory

theorem Capability.toOption_run_newGroup (c : Capability) :
    ((c.newGroup host n factory).run past).1.toOption =
      (c.plan? host past n factory).bind Plan.group? := by
  unfold newGroup plan?
  cases c.constructor with
  | error e => rfl
  | ok make => exact make.toOption_run_construct

/-- A record makes a group if its constructor agrees to and every call for a handle succeeds. -/
theorem Capability.exists_newGroup {c : Capability} {make : BoundConstructor}
    {openAt : Nat → Except IoFailure Resource} (hmake : c.constructor = .ok make)
    (hagree : make.make.attempt (past.constructions make.groupType.id) = .ok openAt)
    (hpos : 0 < BoundConstructor.effectiveThreads host n)
    (hcalls : ∀ i < BoundConstructor.effectiveThreads host n, ∃ h, openAt i = .ok h) :
    ∃ g, ((c.newGroup host n factory).run past).1 = .ok g ∧
      Plan.Opened ⟨make.make.transport, factory, openAt, BoundConstructor.effectiveThreads host n⟩
        g := by
  have hplan : c.plan? host past n factory = some
      ⟨make.make.transport, factory, openAt, BoundConstructor.effectiveThreads host n⟩ := by
    rw [plan?, hmake]
    show make.plan? host past n factory = _
    rw [BoundConstructor.plan?, hagree]
    rfl
  obtain ⟨g, hg⟩ := Plan.exists_group?
    (p := ⟨make.make.transport, factory, openAt, BoundConstructor.effectiveThreads host n⟩)
    hpos hcalls
  have hrun : ((c.newGroup host n factory).run past).1.toOption =
      (c.plan? host past n factory).bind Plan.group? := c.toOption_run_newGroup
  rw [hplan, Option.bind_some, hg] at hrun
  refine ⟨g, ?_, Plan.opened_of_group? hg⟩
  cases hanswer : ((c.newGroup host n factory).run past).1 with
  | error e =>
    rw [hanswer] at hrun
    cases hrun
  | ok g' =>
    rw [hanswer] at hrun
    rw [Option.some.inj hrun]

end

/-- A way to a group: an opening of one's own, a constructor, or a record. -/
inductive Launch : Type → Type 1 where
  | opening {η : Type} (p : Plan η) : Launch η
  | bound (c : BoundConstructor) (n : Nat) (factory : ThreadFactory) : Launch Resource
  | record (c : Capability) (n : Nat) (factory : ThreadFactory) : Launch Resource

namespace Launch

variable {η : Type}

def make (host : Host) : Launch η → Act (Option (LoopGroup η))
  | opening p =>
    Except.toOption <$> LoopGroup.launch p.transport p.factory (Opening.run p.openAt p.count)
  | bound c n factory => Except.toOption <$> c.construct host n factory
  | record c n factory => Except.toOption <$> c.newGroup host n factory

def plan? (host : Host) (past : History) : Launch η → Option (Plan η)
  | opening p => some p
  | bound c n factory => c.plan? host past n factory
  | record c n factory => c.plan? host past n factory

/-- **All ways to a group open it**, and by nothing but the plan. -/
theorem fst_run_make (host : Host) (past : History) (l : Launch η) :
    ((l.make host).run past).1 = (l.plan? host past).bind Plan.group? := by
  cases l with
  | opening p =>
    show ((LoopGroup.launch p.transport p.factory _).run past).1.toOption = p.group?
    unfold LoopGroup.launch Plan.group?
    cases LoopGroup.ofOpening p.transport p.factory (Opening.run p.openAt p.count) <;> rfl
  | bound c n factory => exact c.toOption_run_construct
  | record c n factory => exact c.toOption_run_newGroup

end Launch

end Transports
