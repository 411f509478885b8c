import Transports.Proofs.LoopGroup.Opened
/-!
# What a group answers

The answers of a group depend on how it was opened and on the operations before, and they can be
told without the group: a loop owns its handle until an operation first reaches it
(`LoopGroup.reached`), and turns are counted. `Plan.Stands` says that a group is as its history has
it; `Plan.Stands.act` shows this of one operation, and `Plan.Stands.run` of any number of them.
-/

namespace Transports

namespace LoopGroup

variable {η α : Type}

/-! ## Operations -/

inductive Operation (η α : Type) where
  /-- Takes the loop whose turn it is. -/
  | next
  | close (i : Nat)
  /-- Applies a function to the handle of a loop. -/
  | withHandle (i : Nat) (f : η → α)
  | shutdown
  | isShutdown
  | isOpen (i : Nat)
  | threadCount

inductive Reply (η α : Type) where
  | nothing
  | loop (l : EventLoop η)
  | result (a? : Option α)
  | flag (b : Bool)
  /-- A flag of one loop, if there is such a loop. -/
  | flag? (b? : Option Bool)
  | count (n : Nat)

/-- A reply, and the handles that were given up. -/
structure Response (η α : Type) where
  reply : Reply η α
  released : List η := []

def act (g : LoopGroup η) : Operation η α → Response η α × LoopGroup η
  | .next => ({ reply := .loop g.next.1 }, g.next.2)
  | .close i => ({ reply := .nothing, released := (g.close i).1.toList }, (g.close i).2)
  | .withHandle i f => ({ reply := .result (g.withHandle i f) }, g)
  | .shutdown => ({ reply := .nothing, released := g.shutdown.1 }, g.shutdown.2)
  | .isShutdown => ({ reply := .flag g.isShutdown }, g)
  | .isOpen i => ({ reply := .flag? ((g.loop? i).map (·.isOpen)) }, g)
  | .threadCount => ({ reply := .count g.threadCount }, g)

def run (g : LoopGroup η) : List (Operation η α) → List (Response η α) × LoopGroup η
  | [] => ([], g)
  | op :: ops => ((g.act op).1 :: ((g.act op).2.run ops).1, ((g.act op).2.run ops).2)

theorem run_append (g : LoopGroup η) (ops ops' : List (Operation η α)) :
    g.run (ops ++ ops') =
      ((g.run ops).1 ++ ((g.run ops).2.run ops').1, ((g.run ops).2.run ops').2) := by
  induction ops generalizing g with
  | nil => rfl
  | cons op ops ih => rw [List.cons_append, run, ih, run, List.cons_append]

/-- Whether an operation closes the loop at a place. -/
def Operation.reaches (i : Nat) : Operation η α → Bool
  | close j => j == i
  | shutdown => true
  | _ => false

def Operation.isNext : Operation η α → Bool
  | next => true
  | _ => false

/-- Whether the loop at a place was closed by one of some operations. -/
def reached (ops : List (Operation η α)) (i : Nat) : Bool :=
  ops.any (·.reaches i)

@[simp] theorem reached_append (ops ops' : List (Operation η α)) (i : Nat) :
    reached (ops ++ ops') i = (reached ops i || reached ops' i) :=
  List.any_append

/-! ## Closing what is closed -/

theorem eq_of_loops_eq {g g' : LoopGroup η} (htransport : g'.transport = g.transport)
    (hloops : ∀ i, g'.loop? i = g.loop? i) (hposition : g'.position = g.position)
    (hfactory : g'.factory = g.factory) : g' = g := by
  obtain ⟨transport, loops, position, factory, hpos⟩ := g
  obtain ⟨transport', loops', position', factory', hpos'⟩ := g'
  obtain rfl : loops' = loops := Array.ext_getElem? hloops
  obtain rfl : transport' = transport := htransport
  obtain rfl : position' = position := hposition
  obtain rfl : factory' = factory := hfactory
  rfl

/-- Closing a loop that was closed gives nothing up and leaves the group as it is. -/
theorem close_close (g : LoopGroup η) (i : Nat) :
    (g.close i).2.close i = (none, (g.close i).2) := by
  have hsame : ∀ j, ((g.close i).2.close i).2.loop? j = (g.close i).2.loop? j := by
    intro j
    rw [loop?_close]
    split
    · next hij =>
      rw [loop?_close, if_pos hij, Option.map_map]
      exact Option.map_congr fun _ _ => EventLoop.close_close _
    · rfl
  have hnone : ((g.close i).2.close i).1 = none := by
    show ((g.close i).2.loop? i).bind (·.handle?) = none
    rw [loop?_close, if_pos rfl]
    cases g.loop? i <;> rfl
  exact Prod.ext hnone (eq_of_loops_eq rfl hsame rfl rfl)

/-- Shutting down what was shut down gives nothing up and leaves the group as it is. -/
theorem shutdown_shutdown (g : LoopGroup η) : g.shutdown.2.shutdown = ([], g.shutdown.2) := by
  have hsame : ∀ j, g.shutdown.2.shutdown.2.loop? j = g.shutdown.2.loop? j := by
    intro j
    rw [loop?_shutdown, loop?_shutdown, Option.map_map]
    exact Option.map_congr fun _ _ => EventLoop.close_close _
  exact Prod.ext (held_shutdown g) (eq_of_loops_eq rfl hsame rfl rfl)

/-- **Closing is done once**: the same again gives nothing up and changes nothing. -/
theorem act_act_of_reaches (g : LoopGroup η) {op : Operation η α} {i : Nat}
    (hop : op.reaches i = true) :
    (g.act op).2.act op = ({ reply := .nothing }, (g.act op).2) := by
  cases op with
  | close j =>
    rw [act, act, close_close]
    rfl
  | shutdown =>
    rw [act, act, shutdown_shutdown]
  | next | withHandle | isShutdown | isOpen | threadCount => cases hop

end LoopGroup

/-! ## What history says -/

namespace Plan

open LoopGroup

variable {η α : Type}

section
variable (p : Plan η) (before : List (Operation η α))

/-- The loop at a place: it owns the handle that its call gave until it is reached. -/
def loopAfter (i : Nat) : EventLoop η :=
  ⟨p.transport, i, if reached before i then none else p.handleAt i⟩

/-- The places of the loops that were not reached. -/
def unreached : List Nat :=
  (List.range p.count).filter fun i => !reached before i

/-- The places of the loops that an operation is the first to reach. -/
def firstReached (op : Operation η α) : List Nat :=
  (p.unreached before).filter (op.reaches ·)

/-- The reply to an operation. Turns are counted by a machine word. -/
def replyAfter : Operation η α → Reply η α
  | .next => .loop (p.loopAfter before (before.countP (·.isNext) % UInt64.size % p.count))
  | .close _ => .nothing
  | .withHandle i f => .result (if i ∈ p.unreached before then (p.handleAt i).map f else none)
  | .shutdown => .nothing
  | .isShutdown => .flag (p.unreached before).isEmpty
  | .isOpen i => .flag? (if i < p.count then some (!reached before i) else none)
  | .threadCount => .count p.count

/-- The response to an operation: the handles given up are those of the loops first reached. -/
def responseAfter (op : Operation η α) : Response η α where
  reply := p.replyAfter before op
  released := (p.firstReached before op).filterMap p.handleAt

end

section
variable {p : Plan η} {before : List (Operation η α)}

theorem mem_unreached {i : Nat} :
    i ∈ p.unreached before ↔ i < p.count ∧ reached before i = false := by
  rw [unreached, List.mem_filter, List.mem_range, Bool.not_eq_true']

theorem unreached_nil : p.unreached ([] : List (Operation η α)) = List.range p.count :=
  List.filter_eq_self.2 fun _ _ => rfl

theorem unreached_append (op : Operation η α) :
    p.unreached (before ++ [op]) = (p.unreached before).filter fun i => !op.reaches i := by
  rw [unreached, unreached, List.filter_filter]
  refine List.filter_congr fun i _ => ?_
  simp [reached, Bool.and_comm]

/-- What is reached first, and what is left, is what was left before. -/
theorem firstReached_append_perm (op : Operation η α) :
    (p.firstReached before op ++ p.unreached (before ++ [op])).Perm (p.unreached before) := by
  rw [unreached_append]
  exact List.filter_append_perm ..

theorem loopAfter_append (op : Operation η α) (i : Nat) :
    p.loopAfter (before ++ [op]) i =
      if op.reaches i then (p.loopAfter before i).close else p.loopAfter before i := by
  have hone : reached [op] i = op.reaches i := by simp [reached]
  cases hop : op.reaches i <;> simp [loopAfter, EventLoop.close, hone, hop]

theorem responseAfter_of_not_reaches {op : Operation η α} (hop : ∀ i, op.reaches i = false) :
    p.responseAfter before op = { reply := p.replyAfter before op } := by
  have hnil : p.firstReached before op = [] := by simp [firstReached, hop]
  rw [responseAfter, hnil, List.filterMap_nil]

/-- Closing one loop reaches it, unless it is none of the group or was reached before. -/
theorem firstReached_close (i : Nat) :
    p.firstReached before (.close i : Operation η α) =
      if i ∈ p.unreached before then [i] else [] := by
  have hnodup : (p.unreached before).Nodup := List.nodup_range.filter _
  have heq : p.firstReached before (.close i : Operation η α) =
      (p.unreached before).filter (· == i) :=
    List.filter_congr fun j _ => BEq.comm
  rw [heq, List.filter_beq, hnodup.count]
  split <;> rfl

end

/-! ## Groups as their histories have them -/

/-- A group is as it must be after some operations. -/
structure Stands (p : Plan η) (before : List (Operation η α)) (g : LoopGroup η) : Prop where
  pos : 0 < p.count
  isSome_handleAt : ∀ i < p.count, (p.handleAt i).isSome = true
  transport_eq : g.transport = p.transport
  factory_eq : g.factory = p.factory
  position_eq : g.position = .ofNat (before.countP (·.isNext))
  loops_eq : g.loops.toList = (List.range p.count).map (p.loopAfter before)

section
variable {p : Plan η} {before : List (Operation η α)} {g : LoopGroup η}

/-- What was just opened is as it must be after no operation. -/
theorem Opened.stands (h : p.Opened g) : p.Stands ([] : List (Operation η α)) g where
  pos := h.pos
  isSome_handleAt := h.isSome_handleAt
  transport_eq := h.transport_eq
  factory_eq := h.factory_eq
  position_eq := h.position_eq
  loops_eq := h.loops_eq

namespace Stands

theorem threadCount_eq (h : p.Stands before g) : g.threadCount = p.count := by
  rw [threadCount, ← Array.length_toList, h.loops_eq, List.length_map, List.length_range]

theorem loop?_eq (h : p.Stands before g) (i : Nat) :
    g.loop? i = if i < p.count then some (p.loopAfter before i) else none := by
  rw [loop?, ← Array.getElem?_toList, h.loops_eq, List.getElem?_map]
  split
  · next hi => rw [List.getElem?_range hi, Option.map_some]
  · next hi => rw [List.getElem?_eq_none (by simpa using hi), Option.map_none]

/-- The handles still owned are those of the loops that were not reached. -/
theorem held_eq (h : p.Stands before g) : g.held = (p.unreached before).filterMap p.handleAt := by
  rw [held, h.loops_eq, List.filterMap_map, unreached, List.filterMap_filter]
  congr 1
  funext i
  cases hi : reached before i <;> simp [loopAfter, hi]

theorem isOpen_loopAfter (h : p.Stands before g) {i : Nat} (hi : i < p.count) :
    (p.loopAfter before i).isOpen = !reached before i := by
  cases hr : reached before i with
  | true => simp [loopAfter, EventLoop.isOpen, hr]
  | false => simp [loopAfter, EventLoop.isOpen, hr, h.isSome_handleAt i hi]

/-- **A group is shut down once every loop was reached**, one way or the other. -/
theorem isShutdown_eq (h : p.Stands before g) : g.isShutdown = (p.unreached before).isEmpty := by
  rw [isShutdown, ← Array.all_toList, h.loops_eq, List.all_map, unreached, Bool.eq_iff_iff,
    List.all_eq_true, List.isEmpty_iff, List.filter_eq_nil_iff]
  refine forall₂_congr fun i hi => ?_
  rw [Function.comp_apply, h.isOpen_loopAfter (List.mem_range.1 hi), Bool.not_eq_true,
    Bool.not_eq_true']

theorem turn_eq (h : p.Stands before g) :
    g.turn = before.countP (·.isNext) % UInt64.size % p.count := by
  rw [turn, h.position_eq, UInt64.toNat_ofNat', ← h.threadCount_eq]
  rfl

theorem fst_next (h : p.Stands before g) :
    g.next.1 = p.loopAfter before (before.countP (·.isNext) % UInt64.size % p.count) := by
  have hturn : g.turn < p.count := h.threadCount_eq ▸ g.turn_lt
  have hnext := LoopGroup.fst_next g
  rw [h.loop?_eq, if_pos hturn, h.turn_eq] at hnext
  exact (Option.some.inj hnext).symm

/-- A function is applied to the handle that the call for the place gave, while the loop is open. -/
theorem withHandle_eq {β : Type} (h : p.Stands before g) (i : Nat) (f : η → β) :
    g.withHandle i f = if i ∈ p.unreached before then (p.handleAt i).map f else none := by
  rw [LoopGroup.withHandle, h.loop?_eq]
  by_cases hi : i < p.count
  · cases hr : reached before i <;> simp [mem_unreached, hi, hr, loopAfter, EventLoop.withHandle]
  · simp [mem_unreached, hi]

theorem isOpen_eq (h : p.Stands before g) (i : Nat) :
    (g.loop? i).map (·.isOpen) = if i < p.count then some (!reached before i) else none := by
  rw [h.loop?_eq]
  split
  · next hi => rw [Option.map_some, h.isOpen_loopAfter hi]
  · rfl

/-- Closing a loop gives up the handle that it owns if it was not reached before. -/
theorem fst_close (h : p.Stands before g) (i : Nat) :
    (g.close i).1.toList =
      (p.firstReached before (.close i : Operation η α)).filterMap p.handleAt := by
  have hclose : (g.close i).1 = g.withHandle i id := by
    simp [LoopGroup.close, LoopGroup.withHandle, EventLoop.withHandle]
  rw [hclose, h.withHandle_eq, firstReached_close]
  split
  · cases hk : p.handleAt i <;> simp [hk]
  · rfl

/-! ### One operation -/

/-- A group whose loops are closed where an operation reaches them, and whose turn is passed on if
it takes one, is as it must be after that operation. -/
theorem after (h : p.Stands before g) {g' : LoopGroup η} {op : Operation η α}
    (htransport : g'.transport = g.transport) (hfactory : g'.factory = g.factory)
    (hposition : g'.position = if op.isNext then g.position + 1 else g.position)
    (hloops : ∀ i, g'.loop? i = if op.reaches i then (g.loop? i).map EventLoop.close
      else g.loop? i) :
    p.Stands (before ++ [op]) g' where
  pos := h.pos
  isSome_handleAt := h.isSome_handleAt
  transport_eq := htransport.trans h.transport_eq
  factory_eq := hfactory.trans h.factory_eq
  position_eq := by
    rw [hposition, h.position_eq, List.countP_append, List.countP_singleton]
    cases op.isNext with
    | true => exact (UInt64.ofNat_add ..).symm
    | false => rfl
  loops_eq := by
    refine List.ext_getElem? fun i => ?_
    have hi : g'.loops.toList[i]? = _ := (Array.getElem?_toList ..).trans (hloops i)
    rw [hi, h.loop?_eq, List.getElem?_map]
    by_cases hn : i < p.count
    · rw [if_pos hn, List.getElem?_range hn, Option.map_some, Option.map_some, loopAfter_append]
      split <;> rfl
    · rw [if_neg hn, List.getElem?_eq_none (by simpa using hn)]
      split <;> rfl

/-- What asks only is answered by history, and leaves a group as it is. -/
theorem asked (h : p.Stands before g) {op : Operation η α} {reply : Reply η α}
    (hnext : op.isNext = false) (hreaches : ∀ i, op.reaches i = false)
    (hreply : reply = p.replyAfter before op) :
    { reply } = p.responseAfter before op ∧ p.Stands (before ++ [op]) g := by
  rw [responseAfter_of_not_reaches hreaches, hreply]
  exact ⟨rfl, h.after rfl rfl (by simp [hnext]) fun i => by simp [hreaches]⟩

/-- **After one operation** a group has answered, and is, as history has it. -/
theorem act (h : p.Stands before g) (op : Operation η α) :
    (g.act op).1 = p.responseAfter before op ∧ p.Stands (before ++ [op]) (g.act op).2 := by
  cases op with
  | next =>
    rw [responseAfter_of_not_reaches fun _ => rfl, replyAfter, ← h.fst_next]
    exact ⟨rfl, h.after rfl rfl rfl fun _ => rfl⟩
  | close i =>
    rw [responseAfter, ← h.fst_close]
    refine ⟨rfl, h.after rfl rfl rfl fun j => ?_⟩
    rw [LoopGroup.act, loop?_close]
    simp [Operation.reaches]
  | shutdown =>
    have hall : p.firstReached before (.shutdown : Operation η α) = p.unreached before :=
      List.filter_eq_self.2 fun _ _ => rfl
    rw [responseAfter, hall, ← h.held_eq]
    exact ⟨rfl, h.after rfl rfl rfl fun j => LoopGroup.loop?_shutdown g j⟩
  | withHandle i f => exact h.asked rfl (fun _ => rfl) (congrArg _ (h.withHandle_eq i f))
  | isShutdown => exact h.asked rfl (fun _ => rfl) (congrArg _ h.isShutdown_eq)
  | isOpen i => exact h.asked rfl (fun _ => rfl) (congrArg _ (h.isOpen_eq i))
  | threadCount => exact h.asked rfl (fun _ => rfl) (congrArg _ h.threadCount_eq)

/-! ### Any number of operations -/

/-- **After any number of operations** a group has answered each of them, and is, as history has
it. -/
theorem run (h : p.Stands before g) (ops : List (Operation η α)) :
    (g.run ops).1 = ops.mapIdx (fun k op => p.responseAfter (before ++ ops.take k) op) ∧
      p.Stands (before ++ ops) (g.run ops).2 := by
  induction ops generalizing g before with
  | nil => exact ⟨rfl, by rwa [List.append_nil]⟩
  | cons op ops ih =>
    obtain ⟨hresponse, hstands⟩ := h.act op
    obtain ⟨hresponses, hstands'⟩ := ih hstands
    refine ⟨?_, by rwa [List.append_assoc] at hstands'⟩
    rw [LoopGroup.run, hresponse, hresponses, List.mapIdx_cons, List.take_zero, List.append_nil]
    simp only [List.take_succ_cons, List.append_assoc, List.singleton_append]

/-- **Every handle is given up once**: what was owned before is what one operation after the other
gives up and what is still owned afterwards. -/
theorem released_append_perm (h : p.Stands before g) (ops : List (Operation η α)) :
    ((g.run ops).1.flatMap (·.released) ++ (g.run ops).2.held).Perm g.held := by
  induction ops generalizing g before with
  | nil => exact .refl _
  | cons op ops ih =>
    obtain ⟨hresponse, hstands⟩ := h.act op
    have hone : ((g.act op).1.released ++ (g.act op).2.held).Perm g.held := by
      rw [hresponse, hstands.held_eq, h.held_eq, responseAfter, ← List.filterMap_append]
      exact (firstReached_append_perm op).filterMap _
    rw [LoopGroup.run, List.flatMap_cons, List.append_assoc]
    exact ((ih hstands).append_left _).trans hone

/-- What was reached stays so, and nothing can be done with its handle any more. -/
theorem withHandle_run (h : p.Stands before g) {i : Nat} (hi : reached before i = true)
    (ops : List (Operation η α)) (f : η → α) : (g.run ops).2.withHandle i f = none := by
  rw [(h.run ops).2.withHandle_eq, if_neg]
  simp [mem_unreached, hi]

/-- What was shut down stays so. -/
theorem isShutdown_run (h : p.Stands before g) (hg : g.isShutdown = true)
    (ops : List (Operation η α)) : (g.run ops).2.isShutdown = true := by
  rw [h.isShutdown_eq, List.isEmpty_iff, List.eq_nil_iff_forall_not_mem] at hg
  rw [(h.run ops).2.isShutdown_eq, List.isEmpty_iff, List.eq_nil_iff_forall_not_mem]
  intro i hi
  rw [mem_unreached, reached_append, Bool.or_eq_false_iff] at hi
  exact hg i (mem_unreached.2 ⟨hi.1, hi.2.1⟩)

end Stands

/-! ## Groups that were opened -/

/-- A group that was opened by a plan answered some operations as it should, and is as it should
be. -/
structure Faithful (p : Plan η) (ops : List (Operation η α)) (responses : List (Response η α))
    (g : LoopGroup η) : Prop where
  pos : 0 < p.count
  threadCount_eq : g.threadCount = p.count
  transport_eq : g.transport = p.transport
  factory_eq : g.factory = p.factory
  /-- Each operation was answered by what had been done before it. -/
  responses_eq : responses = ops.mapIdx fun k op => p.responseAfter (ops.take k) op
  /-- The loop at a place is open until it is reached, and owns what the call for the place gave. -/
  loop?_eq : ∀ i < p.count, ∃ h, p.openAt i = .ok h ∧
    g.loop? i = some ⟨p.transport, i, if reached ops i then none else some h⟩ ∧
    ∀ f : η → α, g.withHandle i f = if reached ops i then none else some (f h)
  loop?_eq_none : ∀ i, p.count ≤ i → g.loop? i = none
  isShutdown_iff : g.isShutdown = true ↔ ∀ i < p.count, reached ops i = true
  /-- Every handle was given up once, or is still owned. -/
  released_perm : (responses.flatMap (·.released) ++ g.held).Perm
    ((List.range p.count).filterMap p.handleAt)
  /-- What is closed is closed for good. -/
  withHandle_run : ∀ i, reached ops i = true → ∀ (more : List (Operation η α)) (f : η → α),
    (g.run more).2.withHandle i f = none
  isShutdown_run : g.isShutdown = true → ∀ more : List (Operation η α),
    (g.run more).2.isShutdown = true

/-- **Groups are faithful** to what they were opened by, whatever is done with them. -/
theorem faithful_run (hg : p.group? = some g) (ops : List (Operation η α)) :
    p.Faithful ops (g.run ops).1 (g.run ops).2 := by
  have hopened : p.Stands ([] : List (Operation η α)) g := (opened_of_group? hg).stands
  obtain ⟨hresponses, hstands⟩ := hopened.run ops
  rw [List.nil_append] at hstands
  have hheld : g.held = (List.range p.count).filterMap p.handleAt := by
    rw [hopened.held_eq, unreached_nil]
  refine {
    pos := hstands.pos
    threadCount_eq := hstands.threadCount_eq
    transport_eq := hstands.transport_eq
    factory_eq := hstands.factory_eq
    responses_eq := hresponses
    loop?_eq := fun i hi => ?_
    loop?_eq_none := fun i hi => ?_
    isShutdown_iff := ?_
    released_perm := hheld ▸ hopened.released_append_perm ops
    withHandle_run := fun i hi more f => hstands.withHandle_run hi more f
    isShutdown_run := fun hshut more => hstands.isShutdown_run hshut more }
  · obtain ⟨h, hcall⟩ := (opened_of_group? hg).exists_openAt_eq hi
    have hhandle : p.handleAt i = some h := by rw [handleAt, hcall]; rfl
    refine ⟨h, hcall, ?_, fun f => ?_⟩
    · rw [hstands.loop?_eq, if_pos hi, loopAfter, hhandle]
    · rw [hstands.withHandle_eq, hhandle]
      cases hr : reached ops i <;> simp [mem_unreached, hi, hr]
  · rw [hstands.loop?_eq, if_neg (Nat.not_lt.2 hi)]
  · rw [hstands.isShutdown_eq, List.isEmpty_iff, unreached, List.filter_eq_nil_iff]
    simp

end

end Plan

end Transports
