import Mathlib.Data.List.Induction
import Transports.Handle.Pool
import Transports.Proofs.LoopGroup.Opened
/-!
# Families of handles

Every handle of a pool goes back to one step that created it, itself or through clones
(`Pool.GoesBack`), and it is as that creation made it (`Pool.GoesBack.exists_creation`). Creations
have numbers of their own, so two handles are the same exactly if they go back to one creation
(`Pool.same_iff_goesBack`), and they are equal exactly if role and name agree. Since a creation
gives a member only to a handle of the role that calls for it, a constructor can be bound from group
types only. `handles_as_created` has it all.
-/

namespace Transports

/-! ## What a creation makes -/

namespace Handle

/-- A handle carries no member but the one that its role calls for. -/
structure MembersFit (h : Handle) : Prop where
  accessor : ∀ answer, h.accessor = .ok answer → h.role = .entryPoint
  constructor : ∀ make, h.constructor = .ok make → h.role = .eventLoopGroup

theorem Creation.membersFit (serial : Nat) (c : Creation) : (c.handle serial).MembersFit := by
  refine ⟨fun answer h => ?_, fun make h => ?_⟩
  · cases c with
    | plain | groupType => cases h
    | entryPoint => rfl
  · cases c with
    | plain | entryPoint => cases h
    | groupType => rfl

/-- A constructor can be taken from what was created with one. -/
theorem Creation.constructor_eq_ok_iff {serial : Nat} {c : Creation} {make : Constructor} :
    (c.handle serial).constructor = .ok make ↔ ∃ name, c = .groupType name make := by
  rw [Handle.constructor_eq_ok_iff]
  cases c with
  | plain name role => simp [Creation.handle, Handle.plain]
  | entryPoint name answer => simp [Creation.handle, Handle.entryPoint]
  | groupType name make' => simp [Creation.handle, Handle.groupType]

theorem equivalence_same : Equivalence fun h k : Handle => h.same k = true where
  refl _ := same_iff.2 rfl
  symm hsame := same_iff.2 (same_iff.1 hsame).symm
  trans hsame hsame' := same_iff.2 ((same_iff.1 hsame).trans (same_iff.1 hsame'))

end Handle

namespace Pool

/-! ## How a pool is filled -/

section
variable {steps : List Step} {i m : Nat} {h : Handle}

theorem ofSteps_concat (steps : List Step) (s : Step) :
    ofSteps (steps ++ [s]) = (ofSteps steps).add s := by
  simp [ofSteps]

def Step.handle? (p : Pool) : Step → Option Handle
  | create c => some (c.handle p.nextSerial)
  | clone place => p.handles[place]?

theorem toList_handles_add (p : Pool) (s : Step) :
    (p.add s).handles.toList = p.handles.toList ++ (s.handle? p).toList := by
  cases s with
  | create c => exact Array.toList_push
  | clone place =>
    unfold add Step.handle?
    cases hplace : p.handles[place]? with
    | none => simp [hplace]
    | some h => simp [hplace]

/-- A step leaves the handles that are there. -/
theorem getElem?_add {p : Pool} (s : Step) (hi : p.handles[i]? = some h) :
    (p.add s).handles[i]? = some h := by
  rw [← Array.getElem?_toList] at hi ⊢
  obtain ⟨hlt, -⟩ := List.getElem?_eq_some_iff.1 hi
  rw [toList_handles_add, List.getElem?_append_left hlt, hi]

/-- What a step adds stands at the first free place. -/
theorem getElem?_add_size {p : Pool} {s : Step} (hs : s.handle? p = some h) :
    (p.add s).handles[p.handles.size]? = some h := by
  rw [← Array.getElem?_toList, toList_handles_add, hs]
  simp

theorem getElem?_ofSteps_append (hi : (ofSteps steps).handles[i]? = some h) (more : List Step) :
    (ofSteps (steps ++ more)).handles[i]? = some h := by
  induction more using List.reverseRecOn with
  | nil => rwa [List.append_nil]
  | append_singleton more s ih =>
    rw [← List.append_assoc, ofSteps_concat]
    exact getElem?_add s ih

/-- The place that a step fills, if it fills one: the first free one. -/
def filled (steps : List Step) (m : Nat) : Nat :=
  (ofSteps (steps.take m)).handles.size

/-- The number that a step gives to the handle that it creates, if it creates one. -/
def serialAt (steps : List Step) (k : Nat) : Nat :=
  (ofSteps (steps.take k)).nextSerial

theorem ofSteps_take_succ {s : Step} (hstep : steps[m]? = some s) :
    ofSteps (steps.take (m + 1)) = (ofSteps (steps.take m)).add s := by
  rw [List.take_add_one, hstep]
  exact ofSteps_concat ..

theorem getElem?_ofSteps_of_take (hi : (ofSteps (steps.take m)).handles[i]? = some h) :
    (ofSteps steps).handles[i]? = some h := by
  have hall := getElem?_ofSteps_append hi (steps.drop m)
  rwa [List.take_append_drop] at hall

/-- What a step added when it was its turn is found at the place that it filled. -/
theorem getElem?_filled {s : Step} (hstep : steps[m]? = some s)
    (hs : s.handle? (ofSteps (steps.take m)) = some h) :
    (ofSteps steps).handles[filled steps m]? = some h := by
  refine getElem?_ofSteps_of_take (m := m + 1) ?_
  rw [ofSteps_take_succ hstep]
  exact getElem?_add_size hs

end

/-! ## Origins -/

/-- The handle at a place goes back to a step: the step created it, or it is a clone of a handle
that goes back to the step. -/
inductive GoesBack (steps : List Step) : (place k : Nat) → Prop where
  | created {k : Nat} {c : Handle.Creation} (hstep : steps[k]? = some (.create c)) :
      GoesBack steps (filled steps k) k
  | cloned {m place k : Nat} (hstep : steps[m]? = some (.clone place))
      (hplace : place < filled steps m) (hback : GoesBack steps place k) :
      GoesBack steps (filled steps m) k

section
variable {steps : List Step} {i j k k' : Nat} {c : Handle.Creation} {h h' : Handle}

/-- **A handle is as its creation made it**, however often it was cloned. -/
theorem GoesBack.exists_creation (hback : GoesBack steps i k) :
    ∃ c, steps[k]? = some (.create c) ∧
      (ofSteps steps).handles[i]? = some (c.handle (serialAt steps k)) := by
  induction hback with
  | created hstep => exact ⟨_, hstep, getElem?_filled hstep rfl⟩
  | cloned hstep hplace _ ih =>
    obtain ⟨c, hcreate, hhandle⟩ := ih
    refine ⟨c, hcreate, ?_⟩
    -- the clone was made of what still stands at that place
    have hsource := Array.getElem?_eq_getElem hplace
    have hsame := getElem?_ofSteps_of_take hsource
    rw [hhandle] at hsame
    exact getElem?_filled hstep (hsource.trans hsame.symm)

theorem GoesBack.eq_handle (hback : GoesBack steps i k)
    (hi : (ofSteps steps).handles[i]? = some h) :
    ∃ c, steps[k]? = some (.create c) ∧ h = c.handle (serialAt steps k) := by
  obtain ⟨c, hcreate, hhandle⟩ := hback.exists_creation
  exact ⟨c, hcreate, Option.some.inj (hi.symm.trans hhandle)⟩

/-- Steps that follow do not change where a handle comes from. -/
theorem GoesBack.append (hback : GoesBack steps i k) (more : List Step) :
    GoesBack (steps ++ more) i k := by
  have hkeep : ∀ {m : Nat} {s : Step}, steps[m]? = some s →
      (steps ++ more)[m]? = some s ∧ filled (steps ++ more) m = filled steps m := by
    intro m s hstep
    obtain ⟨hlt, -⟩ := List.getElem?_eq_some_iff.1 hstep
    refine ⟨by rw [List.getElem?_append_left hlt, hstep], ?_⟩
    rw [filled, filled, List.take_append_of_le_length (Nat.le_of_lt hlt)]
  induction hback with
  | created hstep =>
    obtain ⟨hstep', hfilled⟩ := hkeep hstep
    rw [← hfilled]
    exact .created hstep'
  | cloned hstep hplace _ ih =>
    obtain ⟨hstep', hfilled⟩ := hkeep hstep
    rw [← hfilled] at hplace ⊢
    exact .cloned hstep' hplace ih

/-- A place that was not filled before is filled by the last step. -/
theorem getElem?_concat_of_not_lt {s : Step} (hnot : ¬i < (ofSteps steps).handles.size)
    (hi : (ofSteps (steps ++ [s])).handles[i]? = some h) :
    i = (ofSteps steps).handles.size ∧ s.handle? (ofSteps steps) = some h := by
  rw [← Array.getElem?_toList, ofSteps_concat, toList_handles_add,
    List.getElem?_append_right (by simpa using hnot), Array.length_toList] at hi
  cases hs : s.handle? (ofSteps steps) with
  | none =>
    rw [hs] at hi
    cases hi
  | some h' =>
    rw [hs, Option.toList_some, List.getElem?_singleton] at hi
    split at hi
    · next hzero => exact ⟨by omega, hi⟩
    · cases hi

/-- **Every handle goes back to a creation.** -/
theorem exists_goesBack (hi : (ofSteps steps).handles[i]? = some h) : ∃ k, GoesBack steps i k := by
  induction steps using List.reverseRecOn generalizing i h with
  | nil => cases hi
  | append_singleton steps s ih =>
    by_cases hold : i < (ofSteps steps).handles.size
    · obtain ⟨k, hback⟩ := ih (Array.getElem?_eq_getElem hold)
      exact ⟨k, hback.append [s]⟩
    · -- the last step filled the place
      obtain ⟨hplace, hlast⟩ := getElem?_concat_of_not_lt hold hi
      have hstep : (steps ++ [s])[steps.length]? = some s := List.getElem?_concat_length
      have hfilled : filled (steps ++ [s]) steps.length = (ofSteps steps).handles.size := by
        rw [filled, List.take_left' rfl]
      rw [hplace, ← hfilled]
      cases s with
      | create c => exact ⟨_, .created hstep⟩
      | clone j =>
        obtain ⟨k, hback⟩ := ih hlast
        obtain ⟨hj, -⟩ := Array.getElem?_eq_some_iff.1 hlast
        rw [← hfilled] at hj
        exact ⟨k, .cloned hstep hj (hback.append _)⟩

/-! ## Numbers of creations -/

theorem nextSerial_le_add (p : Pool) (s : Step) : p.nextSerial ≤ (p.add s).nextSerial := by
  cases s with
  | create c => exact Nat.le_succ _
  | clone place =>
    cases hplace : p.handles[place]? with
    | none => simp [add, hplace]
    | some h => simp [add, hplace]

theorem serialAt_le_succ (steps : List Step) (m : Nat) :
    serialAt steps m ≤ serialAt steps (m + 1) := by
  cases hstep : steps[m]? with
  | none =>
    refine Nat.le_of_eq ?_
    rw [serialAt, serialAt, List.take_add_one, hstep, Option.toList_none, List.append_nil]
  | some s =>
    rw [serialAt, serialAt, ofSteps_take_succ hstep]
    exact nextSerial_le_add _ s

theorem serialAt_le (hle : k ≤ k') : serialAt steps k ≤ serialAt steps k' := by
  induction hle with
  | refl => exact Nat.le_refl _
  | step _ ih => exact Nat.le_trans ih (serialAt_le_succ ..)

/-- Later creations have larger numbers. -/
theorem serialAt_lt (hstep : steps[k]? = some (.create c)) (hlt : k < k') :
    serialAt steps k < serialAt steps k' := by
  have hnext : serialAt steps (k + 1) = serialAt steps k + 1 := by
    rw [serialAt, serialAt, ofSteps_take_succ hstep]
    rfl
  have hle : serialAt steps (k + 1) ≤ serialAt steps k' := serialAt_le hlt
  omega

/-- No two creations have the same number. -/
theorem eq_of_serialAt_eq {c' : Handle.Creation} (hstep : steps[k]? = some (.create c))
    (hstep' : steps[k']? = some (.create c')) (h : serialAt steps k = serialAt steps k') :
    k = k' := by
  rcases Nat.lt_trichotomy k k' with hlt | heq | hgt
  · have := serialAt_lt hstep hlt
    omega
  · exact heq
  · have := serialAt_lt hstep' hgt
    omega

/-! ## Families -/

/-- Handles that are the same go back to one creation. -/
theorem GoesBack.eq_of_same (hback : GoesBack steps i k) (hback' : GoesBack steps j k')
    (hi : (ofSteps steps).handles[i]? = some h) (hj : (ofSteps steps).handles[j]? = some h')
    (hsame : h.same h' = true) : k = k' := by
  obtain ⟨c, hcreate, rfl⟩ := hback.eq_handle hi
  obtain ⟨c', hcreate', rfl⟩ := hback'.eq_handle hj
  have hserial := congrArg Handle.Id.serial? (Handle.same_iff.1 hsame)
  simp only [Handle.id, Handle.Creation.serial?_handle, Option.some.injEq] at hserial
  exact eq_of_serialAt_eq hcreate hcreate' hserial

/-- A handle goes back to one creation only. -/
theorem GoesBack.unique (hback : GoesBack steps i k) (hback' : GoesBack steps i k') : k = k' := by
  obtain ⟨c, -, hi⟩ := hback.exists_creation
  exact hback.eq_of_same hback' hi hi (Handle.equivalence_same.refl _)

/-- **Two handles are the same** exactly if they go back to one creation. -/
theorem same_iff_goesBack (hi : (ofSteps steps).handles[i]? = some h)
    (hj : (ofSteps steps).handles[j]? = some h') :
    h.same h' = true ↔ ∃ k, GoesBack steps i k ∧ GoesBack steps j k := by
  constructor
  · intro hsame
    obtain ⟨k, hback⟩ := exists_goesBack hi
    obtain ⟨k', hback'⟩ := exists_goesBack hj
    obtain rfl := hback.eq_of_same hback' hi hj hsame
    exact ⟨k, hback, hback'⟩
  · rintro ⟨k, hback, hback'⟩
    obtain ⟨c, hcreate, rfl⟩ := hback.eq_handle hi
    obtain ⟨c', hcreate', rfl⟩ := hback'.eq_handle hj
    cases hcreate.symm.trans hcreate'
    exact Handle.equivalence_same.refl _

theorem mem_handles_iff : h ∈ (ofSteps steps).handles ↔
    ∃ i k, (ofSteps steps).handles[i]? = some h ∧ GoesBack steps i k := by
  rw [Array.mem_iff_getElem?]
  constructor
  · rintro ⟨i, hi⟩
    obtain ⟨k, hback⟩ := exists_goesBack hi
    exact ⟨i, k, hi, hback⟩
  · rintro ⟨i, -, hi, -⟩
    exact ⟨i, hi⟩

/-- Handles of a pool that are the same do not differ in anything. -/
theorem eq_of_same (hh : h ∈ (ofSteps steps).handles) (hh' : h' ∈ (ofSteps steps).handles)
    (hsame : h.same h' = true) : h = h' := by
  obtain ⟨i, k, hi, hback⟩ := mem_handles_iff.1 hh
  obtain ⟨j, k', hj, hback'⟩ := mem_handles_iff.1 hh'
  obtain rfl := hback.eq_of_same hback' hi hj hsame
  obtain ⟨c, hcreate, rfl⟩ := hback.eq_handle hi
  obtain ⟨c', hcreate', rfl⟩ := hback'.eq_handle hj
  cases hcreate.symm.trans hcreate'
  rfl

/-- **Two handles are equal** exactly if role and name agree. -/
theorem beq_iff (hh : h ∈ (ofSteps steps).handles) (hh' : h' ∈ (ofSteps steps).handles) :
    (h == h') = true ↔ h.role = h'.role ∧ h.name = h'.name := by
  show (h.same h' || (h.role == h'.role && h.name == h'.name)) = true ↔ _
  rw [Bool.or_eq_true, Bool.and_eq_true, beq_iff_eq, beq_iff_eq]
  constructor
  · rintro (hsame | hagree)
    · rw [eq_of_same hh hh' hsame]
      exact ⟨rfl, rfl⟩
    · exact hagree
  · exact .inr

theorem membersFit_of_mem (hh : h ∈ (ofSteps steps).handles) : h.MembersFit := by
  obtain ⟨i, k, hi, hback⟩ := mem_handles_iff.1 hh
  obtain ⟨c, -, rfl⟩ := hback.eq_handle hi
  exact c.membersFit _

/-- **A constructor can be bound** from what goes back to a group type, and from nothing else. -/
theorem bind_eq_ok_iff_goesBack (hi : (ofSteps steps).handles[i]? = some h) {transport : String}
    {b : BoundConstructor} :
    BoundConstructor.bind transport h = .ok b ↔
      ∃ k name make, GoesBack steps i k ∧ steps[k]? = some (.create (.groupType name make)) ∧
        b = ⟨transport, h, make⟩ := by
  obtain ⟨k, hback⟩ := exists_goesBack hi
  obtain ⟨c, hcreate, rfl⟩ := hback.eq_handle hi
  have hbind : BoundConstructor.bind transport (c.handle (serialAt steps k)) = .ok b ↔
      ∃ make, (c.handle (serialAt steps k)).constructor = .ok make ∧
        b = ⟨transport, c.handle (serialAt steps k), make⟩ := by
    unfold BoundConstructor.bind
    cases (c.handle (serialAt steps k)).constructor with
    | error e => simp [Except.map]
    | ok make => simp [Except.map, eq_comm]
  rw [hbind]
  constructor
  · rintro ⟨make, hmake, rfl⟩
    obtain ⟨name, rfl⟩ := Handle.Creation.constructor_eq_ok_iff.1 hmake
    exact ⟨k, name, make, hback, hcreate, rfl⟩
  · rintro ⟨k', name, make, hback', hcreate', rfl⟩
    obtain rfl := hback.unique hback'
    cases hcreate.symm.trans hcreate'
    exact ⟨make, rfl, rfl⟩

/-- Equality of the handles of a pool is an equivalence. -/
theorem equivalence_beq (steps : List Step) :
    Equivalence fun h h' : { h // h ∈ (ofSteps steps).handles } => (h.1 == h'.1) = true where
  refl h := (beq_iff h.2 h.2).2 ⟨rfl, rfl⟩
  symm {h h'} hbeq := by
    obtain ⟨hrole, hname⟩ := (beq_iff h.2 h'.2).1 hbeq
    exact (beq_iff h'.2 h.2).2 ⟨hrole.symm, hname.symm⟩
  trans {h h' h''} hbeq hbeq' := by
    obtain ⟨hrole, hname⟩ := (beq_iff h.2 h'.2).1 hbeq
    obtain ⟨hrole', hname'⟩ := (beq_iff h'.2 h''.2).1 hbeq'
    exact (beq_iff h.2 h''.2).2 ⟨hrole.trans hrole', hname.trans hname'⟩

end

end Pool

/-! ## What a bound constructor runs -/

/-- Making a group calls the constructor of the group type, before anything else. -/
theorem BoundConstructor.constructed_prefix (b : BoundConstructor) (host : Host) (n : Nat)
    (factory : ThreadFactory) (past : History) :
    past ++ [.constructed b.groupType.id (effectiveThreads host n)] <+:
      ((b.construct host n factory).run past).2 := by
  cases hattempt : b.make.attempt (past.constructions b.groupType.id) with
  | error e =>
    have hpast : ((b.construct host n factory).run past).2 =
        past ++ [.constructed b.groupType.id (effectiveThreads host n)] := by
      rw [run_construct_of_refused hattempt]
    exact hpast ▸ List.prefix_rfl
  | ok openAt =>
    rw [run_construct_of_agreed hattempt]
    split
    · exact List.prefix_rfl
    · exact ⟨[_], List.append_assoc ..⟩

/-- A bound constructor runs the constructor that its group type was created with. -/
structure BoundConstructor.RunsConstructorOf (b : BoundConstructor) (h : Handle) : Prop where
  groupType_eq : b.groupType = h
  role_eq : b.groupType.role = .eventLoopGroup
  constructor_eq : h.constructor = .ok b.make
  /-- Making a group calls it. -/
  calls : ∀ host n factory past, past ++ [.constructed h.id (effectiveThreads host n)] <+:
    ((b.construct host n factory).run past).2
  /-- Its answer decides on the group. -/
  decides : ∀ host n factory past, ((b.construct host n factory).run past).1.toOption =
    ((b.make.attempt (past.constructions h.id)).toOption.bind fun openAt =>
      Plan.group? ⟨b.make.transport, factory, openAt, effectiveThreads host n⟩)

theorem BoundConstructor.runsConstructorOf_of_bind {h : Handle} {transport : String}
    {b : BoundConstructor} (hfit : h.MembersFit) (hbind : bind transport h = .ok b) :
    b.RunsConstructorOf h := by
  obtain ⟨-, rfl, hmember⟩ := bind_eq_ok_iff.1 hbind
  have hmake : b.groupType.constructor = .ok b.make := Handle.constructor_eq_ok_iff.2 hmember
  refine ⟨rfl, hfit.constructor _ hmake, hmake, b.constructed_prefix, fun host n factory past => ?_⟩
  rw [toOption_run_construct, plan?, Option.bind_map]
  rfl

open Pool

/-- **Handles stay as they were created.** In a pool that is filled in any way by creating handles
and cloning them, a handle has an accessor only if it is an entry point, and a constructor only if
it is a group type; a constructor can be bound exactly from what goes back to a group type created
with one, and that one it runs. Every handle goes back to one creation, two handles are the same
exactly if that is one and the same creation, and they are equal exactly if role and name agree. A
handle expected to play a role is handed on itself, or refused with its name and both roles. -/
theorem handles_as_created (steps : List Step) :
    (∀ h ∈ (ofSteps steps).handles,
      (∀ answer, h.accessor = .ok answer → h.role = .entryPoint) ∧
      ∀ make, h.constructor = .ok make → h.role = .eventLoopGroup) ∧
    (∀ i h, (ofSteps steps).handles[i]? = some h →
      (∃! k, GoesBack steps i k) ∧
      (∀ k, GoesBack steps i k →
        ∃ c serial, steps[k]? = some (.create c) ∧ h = c.handle serial) ∧
      ∀ transport b,
        (BoundConstructor.bind transport h = .ok b ↔
          ∃ k name make, GoesBack steps i k ∧
            steps[k]? = some (.create (.groupType name make)) ∧ b = ⟨transport, h, make⟩) ∧
        (BoundConstructor.bind transport h = .ok b → b.RunsConstructorOf h)) ∧
    (Equivalence fun h h' : Handle => h.same h' = true) ∧
    (∀ i j h h', (ofSteps steps).handles[i]? = some h → (ofSteps steps).handles[j]? = some h' →
      (h.same h' = true ↔ ∃ k, GoesBack steps i k ∧ GoesBack steps j k)) ∧
    (∀ h ∈ (ofSteps steps).handles, ∀ h' ∈ (ofSteps steps).handles,
      ((h == h') = true ↔ h.role = h'.role ∧ h.name = h'.name) ∧
      (h.same h' = true → (h == h') = true)) ∧
    (Equivalence fun h h' : { h // h ∈ (ofSteps steps).handles } => (h.1 == h'.1) = true) ∧
    ∀ h ∈ (ofSteps steps).handles, ∀ role,
      (∀ k, h.expect role = .ok k ↔ h.role = role ∧ h = k) ∧
      ∀ e, h.expect role = .error e ↔ h.role ≠ role ∧ e = .roleMismatch h.name role h.role := by
  refine ⟨fun h hh => ?_, fun i h hi => ?_, Handle.equivalence_same,
    fun i j h h' => same_iff_goesBack, fun h hh h' hh' => ?_, equivalence_beq steps,
    fun h _ role => ?_⟩
  · have hfit := membersFit_of_mem hh
    exact ⟨hfit.accessor, hfit.constructor⟩
  · have hmem : h ∈ (ofSteps steps).handles := Array.mem_iff_getElem?.2 ⟨i, hi⟩
    obtain ⟨k, hback⟩ := exists_goesBack hi
    refine ⟨⟨k, hback, fun k' hback' => hback'.unique hback⟩, fun k' hback' => ?_,
      fun transport b => ⟨bind_eq_ok_iff_goesBack hi,
        BoundConstructor.runsConstructorOf_of_bind (membersFit_of_mem hmem)⟩⟩
    obtain ⟨c, hcreate, hh⟩ := hback'.eq_handle hi
    exact ⟨c, _, hcreate, hh⟩
  · refine ⟨beq_iff hh hh', fun hsame => (beq_iff hh hh').2 ?_⟩
    rw [eq_of_same hh hh' hsame]
    exact ⟨rfl, rfl⟩
  · exact ⟨fun k => Handle.expect_eq_ok_iff, fun e => Handle.expect_eq_error_iff⟩

end Transports
