import Mathlib.Algebra.Group.Nat.Defs
import Mathlib.Data.List.Induction
import Mathlib.Logic.Function.Basic
import Transports.Proofs.LoopGroup.Opened
/-!
# The names of threads

A name is a stem, a dash and a number, and the number has no dash; so stem and number are read off
at the last dash, whatever the stem looks like (`ThreadFactory.readName_nameOf`). Factories may be
shared: threads are started with them and groups are made with them in any order (`Workshop`). A
factory counts its own starts and nothing else (`Workshop.Stands`), so no two starts ask for the
same name as long as no counter wraps around (`thread_names_distinct`).
-/

namespace Transports

namespace ThreadFactory

/-! ## Reading a name -/

/-- The stem and the number that a name was put together from, divided by its last dash. -/
def readName (name : String) : String × Nat :=
  let back := name.toList.reverse
  (String.ofList ((back.dropWhile (· ≠ '-')).drop 1).reverse,
    Nat.ofDigitChars 10 (back.takeWhile (· ≠ '-')).reverse 0)

theorem ne_dash_of_mem_toDigits {n : Nat} {c : Char} (hc : c ∈ (Nat.toDigits 10 n).reverse) :
    decide (c ≠ '-') = true := by
  have hdigit : c.isDigit = true :=
    Nat.isDigit_of_mem_toDigits (by decide) (by decide) (List.mem_reverse.1 hc)
  rw [decide_eq_true_iff]
  rintro rfl
  cases hdigit

theorem reverse_toList_nameOf (stem : String) (n : Nat) :
    (nameOf stem n).toList.reverse =
      (Nat.toDigits 10 n).reverse ++ '-' :: stem.toList.reverse := by
  simp [nameOf, Nat.repr_eq_ofList_toDigits]

/-- **Stem and number can be read off a name**, whatever dashes and digits the stem has. -/
theorem readName_nameOf (stem : String) (n : Nat) : readName (nameOf stem n) = (stem, n) := by
  have hdigits : ∀ c ∈ (Nat.toDigits 10 n).reverse, decide (c ≠ '-') = true :=
    fun c => ne_dash_of_mem_toDigits
  unfold readName
  rw [reverse_toList_nameOf]
  have hdash : (fun c : Char => decide (c ≠ '-')) '-' = false := by decide
  refine Prod.ext ?_ ?_
  · simp only [List.dropWhile_append_of_pos hdigits, List.dropWhile_cons, hdash]
    simp
  · simp only [List.takeWhile_append_of_pos hdigits, List.takeWhile_cons, hdash]
    simp

example : readName "pool-1-12" = ("pool-1", 12) := by decide

theorem nameOf_inj {stem stem' : String} {n n' : Nat} (h : nameOf stem n = nameOf stem' n') :
    stem = stem' ∧ n = n' := by
  have hread : readName (nameOf stem n) = readName (nameOf stem' n') := congrArg readName h
  rw [readName_nameOf, readName_nameOf, Prod.mk.injEq] at hread
  exact hread

end ThreadFactory

/-! ## Factories that are shared -/

/-- The same way to a group with another factory. -/
def Launch.withFactory {η : Type} (factory : ThreadFactory) : Launch η → Launch η
  | opening p => opening { p with factory }
  | bound c n _ => bound c n factory
  | record c n _ => record c n factory

/-- **A group keeps the factory that it was made with** as it is. -/
theorem Launch.factory_of_make {η : Type} {host : Host} {past : History} {l : Launch η}
    {factory : ThreadFactory} {g : LoopGroup η}
    (hg : (((l.withFactory factory).make host).run past).1 = some g) : g.factory = factory := by
  rw [fst_run_make, Option.bind_eq_some_iff] at hg
  obtain ⟨p, hplan, hgroup⟩ := hg
  have hp : p.factory = factory := by
    cases l with
    | opening q =>
      cases hplan
      rfl
    | bound c n _ =>
      obtain ⟨openAt, -, rfl⟩ := Option.map_eq_some_iff.1 hplan
      rfl
    | record c n _ =>
      obtain ⟨make, -, hmake⟩ := Option.bind_eq_some_iff.1 hplan
      obtain ⟨openAt, -, rfl⟩ := Option.map_eq_some_iff.1 hmake
      rfl
  rw [(Plan.opened_of_group? hgroup).factory_eq, hp]

inductive Order (ι η α : Type) : Type 1 where
  /-- A factory starts a thread; `spawn` is what becomes of the start. -/
  | start (i : ι) (spawn : String → α)
  /-- A group is made with a factory, which the group shares from then on. -/
  | launch (i : ι) (l : Launch η)

/-- The name that a factory asked for, and what became of the start. -/
structure Started (ι α : Type) where
  factory : ι
  name : String
  outcome : α

/-- Factories, and the starts so far, oldest first. -/
structure Workshop (ι α : Type) where
  factories : ι → ThreadFactory
  log : List (Started ι α) := []

namespace Order

variable {ι η α : Type}

def isStart : Order ι η α → Bool
  | start .. => true
  | launch .. => false

def startsWith [DecidableEq ι] (i : ι) : Order ι η α → Bool
  | start j _ => j = i
  | launch .. => false

end Order

namespace Workshop

variable {ι η α : Type} [DecidableEq ι] {host : Host} {past : History} {stem : ι → String}

def starts (i : ι) (orders : List (Order ι η α)) : Nat :=
  orders.countP (·.startsWith i)

/-- The workshop in which one more thread was started with a factory. -/
def started (w : Workshop ι α) (i : ι) (spawn : String → α) : Workshop ι α :=
  let ((name, outcome), f) := (w.factories i).newThread fun name => (name, spawn name)
  { factories := Function.update w.factories i f
    log := w.log ++ [{ factory := i, name, outcome }] }

/-- Carries out an order. What the group leaves of its factory is what its other users find. -/
def step (host : Host) (w : Workshop ι α) : Order ι η α → Act (Workshop ι α)
  | .start i spawn => return w.started i spawn
  | .launch i l => do
    match ← (l.withFactory (w.factories i)).make host with
    | some g => return { w with factories := Function.update w.factories i g.factory }
    | none => return w

def run (host : Host) (w : Workshop ι α) (orders : List (Order ι η α)) : Act (Workshop ι α) :=
  orders.foldlM (step host) w

def after (host : Host) (past : History) (stem : ι → String) (orders : List (Order ι η α)) :
    Workshop ι α × History :=
  (run host { factories := fun i => { stem := stem i } } orders).run past

theorem starts_append (i : ι) (orders orders' : List (Order ι η α)) :
    starts i (orders ++ orders') = starts i orders + starts i orders' :=
  List.countP_append

theorem starts_cons_start (i j : ι) (spawn : String → α) (orders : List (Order ι η α)) :
    starts i (.start j spawn :: orders) = starts i orders + if j = i then 1 else 0 := by
  simp [starts, Order.startsWith, List.countP_cons]

theorem starts_cons_launch (i j : ι) (l : Launch η) (orders : List (Order ι η α)) :
    starts i (.launch j l :: orders) = starts i orders := by
  simp [starts, Order.startsWith]

theorem starts_concat_start (i j : ι) (spawn : String → α) (orders : List (Order ι η α)) :
    starts i (orders ++ [.start j spawn]) = starts i orders + if j = i then 1 else 0 := by
  rw [starts_append, starts_cons_start]
  exact congrArg _ (Nat.zero_add _)

/-- Starting a thread moves the factory that is used on, and no other. -/
theorem factories_started (w : Workshop ι α) (i j : ι) (spawn : String → α) :
    (w.started i spawn).factories j =
      if i = j then { w.factories j with next := (w.factories j).next + 1 } else w.factories j := by
  by_cases hij : i = j
  · subst hij
    rw [if_pos rfl]
    exact Function.update_self ..
  · rw [if_neg hij]
    exact Function.update_of_ne (Ne.symm hij) ..

theorem log_started (w : Workshop ι α) (i : ι) (spawn : String → α) :
    (w.started i spawn).log = w.log ++
      [⟨i, ThreadFactory.nameOf (w.factories i).stem (w.factories i).next.toNat,
        spawn (ThreadFactory.nameOf (w.factories i).stem (w.factories i).next.toNat)⟩] := rfl

/-- **Making a group leaves the factories as they are**, and starts no thread. -/
theorem fst_run_step_launch (host : Host) (past : History) (w : Workshop ι α) (i : ι)
    (l : Launch η) : ((w.step host (.launch i l)).run past).1 = w := by
  rcases hmade : ((l.withFactory (w.factories i)).make host).run past with ⟨g?, now⟩
  rw [step, Act.run_bind_of_run hmade]
  cases g? with
  | none => rfl
  | some g =>
    have hfactory : g.factory = w.factories i := Launch.factory_of_make (congrArg Prod.fst hmade)
    show { w with factories := Function.update w.factories i g.factory } = w
    rw [hfactory, Function.update_eq_self]

theorem run_cons {w w' : Workshop ι α} {o : Order ι η α} {orders : List (Order ι η α)}
    {now : History} (hstep : (w.step host o).run past = (w', now)) :
    (w.run host (o :: orders)).run past = (w'.run host orders).run now := by
  rw [run, List.foldlM_cons]
  exact Act.run_bind_of_run hstep

theorem after_append (orders orders' : List (Order ι η α)) :
    after host past stem (orders ++ orders') =
      ((after host past stem orders).1.run host orders').run (after host past stem orders).2 := by
  rw [after, run, List.foldlM_append]
  exact Act.run_bind_of_run rfl

theorem after_concat (orders : List (Order ι η α)) (o : Order ι η α) :
    after host past stem (orders ++ [o]) =
      ((after host past stem orders).1.step host o).run (after host past stem orders).2 := by
  rw [after_append]
  exact run_cons rfl

/-- What was started stays in the log. -/
theorem log_prefix_run (host : Host) (past : History) (w : Workshop ι α)
    (orders : List (Order ι η α)) : w.log <+: ((w.run host orders).run past).1.log := by
  induction orders generalizing w past with
  | nil => exact List.prefix_rfl
  | cons o orders ih =>
    rcases hstep : (w.step host o).run past with ⟨w', now⟩
    rw [run_cons hstep]
    refine List.IsPrefix.trans ?_ (ih now w')
    cases o with
    | start i spawn =>
      cases hstep
      exact List.prefix_append ..
    | launch i l =>
      have hsame := fst_run_step_launch host past w i l
      rw [hstep] at hsame
      obtain rfl : w' = w := hsame
      exact List.prefix_rfl

/-! ## What the starts ask for -/

/-- A workshop is as its orders have it: every factory has counted its own starts, every name in the
log has the stem of its factory and a number that the factory has used up, and no two names are the
same. -/
structure Stands (stem : ι → String) (orders : List (Order ι η α)) (w : Workshop ι α) : Prop where
  factories_eq : ∀ i, w.factories i =
    { stem := stem i, next := UInt64.ofNat (starts i orders + 1) }
  length_log : w.log.length = orders.countP (·.isStart)
  named : ∀ s ∈ w.log, ∃ n, 0 < n ∧ n ≤ starts s.factory orders ∧
    s.name = ThreadFactory.nameOf (stem s.factory) n
  nodup : (w.log.map (·.name)).Nodup

section
variable {orders : List (Order ι η α)} {w : Workshop ι α}

/-- The name that comes next is told by the number of starts so far. -/
theorem Stands.log_started (h : w.Stands stem orders) {i : ι}
    (hfew : starts i orders + 1 < 2 ^ 64) (spawn : String → α) :
    (w.started i spawn).log = w.log ++
      [⟨i, ThreadFactory.nameOf (stem i) (starts i orders + 1),
        spawn (ThreadFactory.nameOf (stem i) (starts i orders + 1))⟩] := by
  have hnumber : (UInt64.ofNat (starts i orders + 1)).toNat = starts i orders + 1 := by
    rw [UInt64.toNat_ofNat']
    exact Nat.mod_eq_of_lt hfew
  rw [Workshop.log_started, h.factories_eq i, hnumber]

theorem Stands.started (h : w.Stands stem orders) (hstem : Function.Injective stem) {i : ι}
    (hfew : starts i orders + 1 < 2 ^ 64) (spawn : String → α) :
    (w.started i spawn).Stands stem (orders ++ [.start i spawn]) := by
  have hlog := h.log_started hfew spawn
  refine ⟨fun j => ?_, ?_, fun s hs => ?_, ?_⟩
  · have hnext : UInt64.ofNat (starts j orders + 1 + 1) = UInt64.ofNat (starts j orders + 1) + 1 :=
      UInt64.ofNat_add ..
    rw [factories_started, starts_concat_start, h.factories_eq j]
    by_cases hij : i = j
    · rw [if_pos hij, if_pos hij, hnext]
    · rw [if_neg hij, if_neg hij, Nat.add_zero]
  · rw [hlog, List.length_append, h.length_log, List.countP_append]
    rfl
  · rw [hlog] at hs
    rw [starts_concat_start]
    rcases List.mem_append.1 hs with hold | hnew
    · obtain ⟨n, hpos, hle, hname⟩ := h.named s hold
      exact ⟨n, hpos, by omega, hname⟩
    · cases List.mem_singleton.1 hnew
      exact ⟨starts i orders + 1, by omega, by simp, rfl⟩
  · rw [hlog, List.map_append, List.nodup_append]
    refine ⟨h.nodup, List.pairwise_singleton _ _, ?_⟩
    rintro name hold name' hnew rfl
    -- the new number is beyond all that the factory has used, and no other factory has its stem
    obtain ⟨s, hs, rfl⟩ := List.mem_map.1 hold
    obtain ⟨n, -, hle, hname⟩ := h.named s hs
    rw [List.map_singleton, List.mem_singleton, hname] at hnew
    obtain ⟨hsame, hn⟩ := ThreadFactory.nameOf_inj hnew
    rw [hstem hsame] at hle
    omega

theorem Stands.launched (h : w.Stands stem orders) (i : ι) (l : Launch η) :
    w.Stands stem (orders ++ [.launch i l]) := by
  have hstarts : ∀ j, starts j (orders ++ [(.launch i l : Order ι η α)]) = starts j orders := by
    intro j
    rw [starts_append, starts_cons_launch]
    rfl
  refine ⟨fun j => ?_, ?_, fun s hs => ?_, h.nodup⟩
  · rw [hstarts, h.factories_eq j]
  · rw [h.length_log, List.countP_append]
    rfl
  · rw [hstarts]
    exact h.named s hs

end

/-- **A workshop stands as its orders have it**, if no factory is used up. -/
theorem stands_after (host : Host) (past : History) (hstem : Function.Injective stem)
    {orders : List (Order ι η α)} (hfew : ∀ i, starts i orders < 2 ^ 64) :
    (after host past stem orders).1.Stands stem orders := by
  induction orders using List.reverseRecOn with
  | nil => exact ⟨fun _ => rfl, rfl, nofun, List.nodup_nil⟩
  | append_singleton orders o ih =>
    have hbefore : ∀ i, starts i orders < 2 ^ 64 := by
      intro i
      have := hfew i
      rw [starts_append] at this
      omega
    rw [after_concat]
    cases o with
    | start i spawn =>
      have hnext := hfew i
      rw [starts_concat_start, if_pos rfl] at hnext
      exact (ih hbefore).started hstem hnext spawn
    | launch i l =>
      rw [fst_run_step_launch]
      exact (ih hbefore).launched i l

/-- **A start asks for the next number of its factory**, and what comes after does not matter. -/
theorem getElem?_log_after (hstem : Function.Injective stem) {before rest : List (Order ι η α)}
    {i : ι} {spawn : String → α}
    (hfew : ∀ j, starts j (before ++ .start i spawn :: rest) < 2 ^ 64) :
    (after host past stem (before ++ .start i spawn :: rest)).1.log[before.countP (·.isStart)]? =
      some ⟨i, ThreadFactory.nameOf (stem i) (starts i before + 1),
        spawn (ThreadFactory.nameOf (stem i) (starts i before + 1))⟩ := by
  have hcount : ∀ j, starts j before < 2 ^ 64 := by
    intro j
    have := hfew j
    rw [starts_append] at this
    omega
  have hnext : starts i before + 1 < 2 ^ 64 := by
    have := hfew i
    rw [starts_append, starts_cons_start, if_pos rfl] at this
    omega
  have hstands := stands_after host past hstem hcount
  have hprefix := log_prefix_run host (after host past stem before).2
    ((after host past stem before).1.started i spawn) rest
  have hafter : after host past stem (before ++ .start i spawn :: rest) =
      (((after host past stem before).1.started i spawn).run host rest).run
        (after host past stem before).2 := by
    rw [after_append]
    exact run_cons rfl
  rw [hafter]
  obtain ⟨more, hmore⟩ := hprefix
  rw [← hmore, hstands.log_started hnext, List.append_assoc, ← hstands.length_log]
  rw [List.getElem?_append_right (Nat.le_refl _), Nat.sub_self]
  rfl

end Workshop

open Workshop

/-- **No two threads are given the same name.** Factories have different stems, whatever these look
like, and none is used `2 ^ 64` times; threads are started and groups are made with them in any
order. Then start `j` of a factory, counted from 1, asks for the stem of the factory, a dash and `j`
in decimal, whatever becomes of it and of the starts before; no two starts ask for the same name,
and both parts can be read off it. A factory has counted its own starts and nothing else, so making
a group does not advance it. -/
theorem thread_names_distinct {ι η α : Type} [DecidableEq ι] {stem : ι → String}
    (hstem : Function.Injective stem) (host : Host) (past : History)
    (orders : List (Order ι η α)) (hfew : ∀ i, starts i orders < 2 ^ 64) :
    (∀ before i spawn rest, orders = before ++ .start i spawn :: rest →
      (after host past stem orders).1.log[before.countP (·.isStart)]? =
        some ⟨i, stem i ++ "-" ++ Nat.repr (starts i before + 1),
          spawn (stem i ++ "-" ++ Nat.repr (starts i before + 1))⟩ ∧
      ThreadFactory.readName (stem i ++ "-" ++ Nat.repr (starts i before + 1)) =
        (stem i, starts i before + 1)) ∧
    (after host past stem orders).1.log.length = orders.countP (·.isStart) ∧
    ((after host past stem orders).1.log.map (·.name)).Nodup ∧
    (∀ i, (after host past stem orders).1.factories i =
      { stem := stem i, next := UInt64.ofNat (starts i orders + 1) }) ∧
    ∀ i l, (after host past stem (orders ++ [.launch i l])).1 =
      (after host past stem orders).1 := by
  have hstands := stands_after host past hstem hfew
  refine ⟨?_, hstands.length_log, hstands.nodup, hstands.factories_eq, fun i l => ?_⟩
  · rintro before i spawn rest rfl
    exact ⟨getElem?_log_after hstem hfew, ThreadFactory.readName_nameOf _ _⟩
  · rw [after_concat, fst_run_step_launch]

/-- One stem looks like a name of the other factory, and yet the names differ. The start that was
refused has used its number up, and making a group has not. -/
theorem names_of_alike_stems :
    let stem : Bool → String := fun b => if b then "pool-1" else "pool"
    let refused : String → Except IoFailure Unit := fun _ => .error (.bare .wouldBlock)
    let granted : String → Except IoFailure Unit := fun _ => .ok ()
    let plan : Plan Nat :=
      { transport := "TEST", factory := { stem := "" }, openAt := .ok, count := 2 }
    let orders : List (Order Bool Nat (Except IoFailure Unit)) :=
      [.start false refused, .start true granted, .launch false (.opening plan),
        .start false granted]
    Function.Injective stem ∧ (∀ i, starts i orders < 2 ^ 64) ∧
      let log := (after (Host.linux 4) [] stem orders).1.log
      log[0]? = some ⟨false, "pool-1", refused "pool-1"⟩ ∧
      log[1]? = some ⟨true, "pool-1-1", .ok ()⟩ ∧
      log[2]? = some ⟨false, "pool-2", .ok ()⟩ ∧
      (log.map (·.name)).Nodup := by
  intro stem refused granted plan orders
  have hstem : ∀ a b, stem a = stem b → a = b := by decide
  have hfew : ∀ i, starts i orders < 2 ^ 64 := by
    intro i
    cases i <;> decide
  obtain ⟨hnames, -, hnodup, -⟩ := thread_names_distinct hstem (Host.linux 4) [] orders hfew
  have hfirst := (hnames [] false refused _ rfl).1
  have hsecond := (hnames [.start false refused] true granted _ rfl).1
  have hthird := (hnames [.start false refused, .start true granted, .launch false (.opening plan)]
    false granted [] rfl).1
  have hname : stem false ++ "-" ++ Nat.repr 1 = "pool-1" := by decide
  have hname' : stem true ++ "-" ++ Nat.repr 1 = "pool-1-1" := by decide
  have hname'' : stem false ++ "-" ++ Nat.repr 2 = "pool-2" := by decide
  refine ⟨hstem, hfew, ?_, ?_, ?_, hnodup⟩
  · rw [← hname]
    exact hfirst
  · rw [← hname']
    exact hsecond
  · rw [← hname'']
    exact hthird

end Transports
