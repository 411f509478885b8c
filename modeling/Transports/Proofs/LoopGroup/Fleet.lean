import Mathlib.Data.List.Induction
import Transports.Proofs.LoopGroup.Operations
/-!
# Many groups

Groups are made one after the other, in whatever way, and operations on them come in any order
(`Fleet`). A group is moved by the operations addressed to it and by nothing else
(`Fleet.alone_run`), so what it answers is told by how it was opened and by these operations
(`loopGroups_faithful`).
-/

namespace Transports

open LoopGroup

inductive Command (η α : Type) where
  | launch (l : Launch η)
  /-- An operation on the group at a place. -/
  | use (k : Nat) (op : Operation η α)

/-- Groups in the order in which they were made, and what they answered. -/
structure Fleet (η α : Type) where
  groups : List (LoopGroup η) := []
  /-- Each response with the place of the group that gave it, oldest first. -/
  log : List (Nat × Response η α) := []

namespace Fleet

variable {η α : Type} {host : Host} {past : History}

def operationsOn (k : Nat) (commands : List (Command η α)) : List (Operation η α) :=
  commands.filterMap fun
    | .launch _ => none
    | .use j op => if j = k then some op else none

def responses (f : Fleet η α) (k : Nat) : List (Response η α) :=
  f.log.filterMap fun (j, r) => if j = k then some r else none

/-- Carries out a command. A failed launch makes no group, and an operation needs one. -/
def step (host : Host) (f : Fleet η α) : Command η α → Act (Fleet η α)
  | .launch l => do
    match ← l.make host with
    | some g => return { f with groups := f.groups ++ [g] }
    | none => return f
  | .use k op =>
    match f.groups[k]? with
    | some g =>
      return { groups := f.groups.set k (g.act op).2, log := f.log ++ [(k, (g.act op).1)] }
    | none => return f

def run (host : Host) (f : Fleet η α) (commands : List (Command η α)) : Act (Fleet η α) :=
  commands.foldlM (step host) f

/-! ## A group among others -/

theorem operationsOn_append (k : Nat) (commands commands' : List (Command η α)) :
    operationsOn k (commands ++ commands') = operationsOn k commands ++ operationsOn k commands' :=
  List.filterMap_append

theorem operationsOn_use_of_ne {j k : Nat} (hjk : j ≠ k) (op : Operation η α) :
    operationsOn k [.use j op] = [] := by
  simp [operationsOn, hjk]

theorem operationsOn_use_self (k : Nat) (op : Operation η α) :
    operationsOn k [.use k op] = [op] := by
  simp [operationsOn]

/-- A launch adds its group, if there is one. -/
theorem run_step_launch (f : Fleet η α) (l : Launch η) :
    (f.step host (.launch l)).run past =
      ({ f with groups := f.groups ++ ((l.make host).run past).1.toList },
        ((l.make host).run past).2) := by
  rcases hmade : (l.make host).run past with ⟨g?, now⟩
  rw [step, Act.run_bind_of_run hmade]
  cases g? with
  | some g => rfl
  | none => exact Prod.ext (congrArg (Fleet.mk · f.log) (List.append_nil _).symm) rfl

/-- An operation moves the group that it is addressed to. -/
theorem run_step_use {f : Fleet η α} {k : Nat} {g : LoopGroup η} (hk : f.groups[k]? = some g)
    (op : Operation η α) :
    (f.step host (.use k op)).run past =
      ({ groups := f.groups.set k (g.act op).2, log := f.log ++ [(k, (g.act op).1)] }, past) := by
  rw [step, hk]
  rfl

/-- An operation that is addressed to no group does nothing. -/
theorem run_step_use_of_none {f : Fleet η α} {k : Nat} (hk : f.groups[k]? = none)
    (op : Operation η α) : (f.step host (.use k op)).run past = (f, past) := by
  rw [step, hk]
  rfl

theorem responses_append (f : Fleet η α) (groups : List (LoopGroup η)) (j k : Nat)
    (r : Response η α) :
    responses { groups, log := f.log ++ [(j, r)] } k =
      f.responses k ++ if j = k then [r] else [] := by
  rw [responses, List.filterMap_append, responses]
  by_cases hjk : j = k <;> simp [hjk]

/-- One command moves a group if it is an operation on it, and only then. -/
theorem alone_step (host : Host) (past : History) {f : Fleet η α} {k : Nat} {g : LoopGroup η}
    (hk : f.groups[k]? = some g) (c : Command η α) :
    ((f.step host c).run past).1.groups[k]? = some (g.run (operationsOn k [c])).2 ∧
      ((f.step host c).run past).1.responses k =
        f.responses k ++ (g.run (operationsOn k [c])).1 := by
  obtain ⟨hlt, -⟩ := List.getElem?_eq_some_iff.1 hk
  cases c with
  | launch l =>
    rw [run_step_launch]
    exact ⟨(List.getElem?_append_left hlt).trans hk, (List.append_nil _).symm⟩
  | use j op =>
    by_cases hjk : j = k
    · subst hjk
      rw [run_step_use hk, operationsOn_use_self, responses_append, if_pos rfl]
      exact ⟨List.getElem?_set_self hlt, rfl⟩
    · rw [operationsOn_use_of_ne hjk]
      cases hj : f.groups[j]? with
      | none =>
        rw [run_step_use_of_none hj]
        exact ⟨hk, (List.append_nil _).symm⟩
      | some g' =>
        rw [run_step_use hj, responses_append, if_neg hjk]
        exact ⟨(List.getElem?_set_ne hjk).trans hk, rfl⟩

/-- **A group behaves as if it were alone**: of all commands that follow, those count that are
operations on it. -/
theorem alone_run (host : Host) (past : History) {f : Fleet η α} {k : Nat} {g : LoopGroup η}
    (hk : f.groups[k]? = some g) (commands : List (Command η α)) :
    ((f.run host commands).run past).1.groups[k]? = some (g.run (operationsOn k commands)).2 ∧
      ((f.run host commands).run past).1.responses k =
        f.responses k ++ (g.run (operationsOn k commands)).1 := by
  induction commands generalizing f g past with
  | nil => exact ⟨hk, (List.append_nil _).symm⟩
  | cons c commands ih =>
    rcases hstep : (f.step host c).run past with ⟨f', now⟩
    have hrun : (f.run host (c :: commands)).run past = (f'.run host commands).run now := by
      rw [run, List.foldlM_cons]
      exact Act.run_bind_of_run hstep
    obtain ⟨hgroup, hresponses⟩ := alone_step host past hk c
    rw [hstep] at hgroup hresponses
    obtain ⟨hgroup', hresponses'⟩ := ih now hgroup
    have hops : operationsOn k (c :: commands) = operationsOn k [c] ++ operationsOn k commands :=
      operationsOn_append k [c] commands
    rw [hrun, hops, LoopGroup.run_append, hgroup', hresponses', hresponses, List.append_assoc]
    exact ⟨rfl, rfl⟩

/-! ## How groups come into a fleet -/

/-- A fleet has answers of the groups in it only. -/
def Sound (f : Fleet η α) : Prop :=
  ∀ k, f.groups.length ≤ k → f.responses k = []

theorem Sound.step {f : Fleet η α} (hf : f.Sound) (c : Command η α) :
    ((f.step host c).run past).1.Sound := by
  intro k hk
  cases c with
  | launch l =>
    rw [run_step_launch] at hk ⊢
    rw [List.length_append] at hk
    exact hf k (Nat.le_of_add_right_le hk)
  | use j op =>
    cases hj : f.groups[j]? with
    | none =>
      rw [run_step_use_of_none hj] at hk ⊢
      exact hf k hk
    | some g =>
      rw [run_step_use hj] at hk ⊢
      rw [List.length_set] at hk
      obtain ⟨hlt, -⟩ := List.getElem?_eq_some_iff.1 hj
      rw [responses_append, hf k hk, if_neg (by omega)]
      rfl

/-- A command that brings a new group into a fleet is a launch, and the group is the last one. -/
theorem eq_launch_of_new {f : Fleet η α} {c : Command η α} {k : Nat}
    (hold : ¬k < f.groups.length) (hk : k < ((f.step host c).run past).1.groups.length) :
    ∃ l g, c = .launch l ∧ k = f.groups.length ∧ ((l.make host).run past).1 = some g := by
  cases c with
  | launch l =>
    rw [run_step_launch, List.length_append] at hk
    cases hmade : ((l.make host).run past).1 with
    | none =>
      rw [hmade] at hk
      exact absurd hk hold
    | some g =>
      rw [hmade] at hk
      exact ⟨l, g, rfl, Nat.eq_of_lt_succ_of_not_lt hk hold, hmade⟩
  | use j op =>
    cases hj : f.groups[j]? with
    | none =>
      rw [run_step_use_of_none hj] at hk
      exact absurd hk hold
    | some g =>
      rw [run_step_use hj, List.length_set] at hk
      exact absurd hk hold

def after (host : Host) (past : History) (commands : List (Command η α)) : Fleet η α × History :=
  (({} : Fleet η α).run host commands).run past

theorem after_append (commands commands' : List (Command η α)) :
    after host past (commands ++ commands') =
      ((after host past commands).1.run host commands').run (after host past commands).2 := by
  rw [after, run, List.foldlM_append]
  exact Act.run_bind_of_run rfl

theorem after_concat (commands : List (Command η α)) (c : Command η α) :
    after host past (commands ++ [c]) =
      ((after host past commands).1.step host c).run (after host past commands).2 := by
  rw [after_append, run, List.foldlM_cons]
  exact Act.run_bind_of_run rfl

theorem sound_after (commands : List (Command η α)) : (after host past commands).1.Sound := by
  induction commands using List.reverseRecOn with
  | nil => exact fun _ _ => rfl
  | append_singleton commands c ih =>
    rw [after_concat]
    exact ih.step c

/-- A group that was just launched takes the next place, and answered nothing yet. -/
theorem launched_last (commands : List (Command η α)) {l : Launch η} {g : LoopGroup η}
    (hmade : ((l.make host).run (after host past commands).2).1 = some g) :
    (after host past (commands ++ [.launch l])).1.groups[
        (after host past commands).1.groups.length]? = some g ∧
      (after host past (commands ++ [.launch l])).1.responses
        (after host past commands).1.groups.length = [] := by
  rw [after_concat, run_step_launch, hmade]
  exact ⟨List.getElem?_concat_length, sound_after commands _ (Nat.le_refl _)⟩

/-- After some commands, the group at a place goes back to a launch: it was opened by a plan as `g`,
and some operations on it followed. -/
inductive Launched (host : Host) (past : History) :
    List (Command η α) → Nat → Plan η → LoopGroup η → List (Operation η α) → Prop where
  | intro {before rest : List (Command η α)} {l : Launch η} {p : Plan η} {g : LoopGroup η}
      (hplan : l.plan? host (after host past before).2 = some p) (hgroup : p.group? = some g) :
      Launched host past (before ++ .launch l :: rest) (after host past before).1.groups.length p g
        (operationsOn (after host past before).1.groups.length rest)

/-- What was launched is in the fleet, and is as if it were alone. -/
theorem Launched.alone {commands : List (Command η α)} {k : Nat} {p : Plan η} {g : LoopGroup η}
    {ops : List (Operation η α)} (h : Launched host past commands k p g ops) :
    (after host past commands).1.groups[k]? = some (g.run ops).2 ∧
      (after host past commands).1.responses k = (g.run ops).1 := by
  obtain ⟨hplan, hgroup⟩ := h
  next before rest l =>
  have hmade : ((l.make host).run (after host past before).2).1 = some g := by
    rw [Launch.fst_run_make, hplan]
    exact hgroup
  obtain ⟨hk, hnone⟩ := launched_last before hmade
  have halone := alone_run host (after host past (before ++ [.launch l])).2 hk rest
  rw [hnone, List.nil_append, ← after_append, List.append_assoc] at halone
  exact halone

/-- Commands that follow add their operations. -/
theorem Launched.concat {commands : List (Command η α)} {k : Nat} {p : Plan η} {g : LoopGroup η}
    {ops : List (Operation η α)} (h : Launched host past commands k p g ops) (c : Command η α) :
    Launched host past (commands ++ [c]) k p g (ops ++ operationsOn k [c]) := by
  obtain ⟨hplan, hgroup⟩ := h
  rw [List.append_assoc, List.cons_append, ← operationsOn_append]
  exact .intro hplan hgroup

/-- **Every group of a fleet was launched.** -/
theorem exists_launched (commands : List (Command η α)) :
    ∀ k < (after host past commands).1.groups.length,
      ∃ p g ops, Launched host past commands k p g ops := by
  induction commands using List.reverseRecOn with
  | nil => exact fun k hk => absurd hk (Nat.not_lt_zero k)
  | append_singleton commands c ih =>
    intro k hk
    by_cases hold : k < (after host past commands).1.groups.length
    · obtain ⟨p, g, ops, h⟩ := ih k hold
      exact ⟨p, g, _, h.concat c⟩
    · rw [after_concat] at hk
      obtain ⟨l, g, rfl, rfl, hmade⟩ := eq_launch_of_new hold hk
      rw [Launch.fst_run_make, Option.bind_eq_some_iff] at hmade
      obtain ⟨p, hplan, hgroup⟩ := hmade
      exact ⟨p, g, _, .intro hplan hgroup⟩

end Fleet

/-- **Groups of loops are faithful.** Whatever groups are made in whatever way, and whatever is done
with them in whatever order, every group goes back to a launch, answers the operations on it as if
it were alone, and is faithful to what it was opened by. Closing the same again changes nothing. -/
theorem loopGroups_faithful {η α : Type} (host : Host) (past : History)
    (commands : List (Command η α)) :
    (∀ k < (Fleet.after host past commands).1.groups.length,
      ∃ p g ops, Fleet.Launched host past commands k p g ops) ∧
    (∀ k p g ops, Fleet.Launched host past commands k p g ops →
      (Fleet.after host past commands).1.groups[k]? = some (g.run ops).2 ∧
      (Fleet.after host past commands).1.responses k = (g.run ops).1 ∧
      p.Faithful ops (g.run ops).1 (g.run ops).2) ∧
    ∀ (g : LoopGroup η) (op : Operation η α) (i : Nat), op.reaches i = true →
      (g.act op).2.act op = ({ reply := .nothing }, (g.act op).2) := by
  refine ⟨Fleet.exists_launched commands, fun k p g ops h => ?_, fun g op i => act_act_of_reaches g⟩
  obtain ⟨hgroup, hresponses⟩ := h.alone
  refine ⟨hgroup, hresponses, ?_⟩
  obtain ⟨-, hopened⟩ := h
  exact Plan.faithful_run hopened _

/-- A shutdown gives up what closing one loop left; another group has no part in it. -/
example (host : Host) :
    let p : Plan Nat :=
      { transport := "TEST", factory := { stem := "loop" }, openAt i := .ok (10 * i), count := 3 }
    let fleet : Fleet Nat Unit := (Fleet.after host [] [.launch (.opening p), .launch (.opening p),
      .use 0 (.close 1), .use 1 .shutdown, .use 0 .shutdown]).1
    (fleet.responses 0).map (·.released) = [[10], [0, 20]] := rfl

end Transports
