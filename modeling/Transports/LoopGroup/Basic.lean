import Transports.ThreadFactory
/-!
# Groups of event loops

A loop owns one native handle until it is closed; a group is a row of at least one loop.
`LoopGroup.next` hands the loops out in turn by a 64-bit position that wraps around, whether they
are open or not. Closing gives up the handle, once: `EventLoop.close_close`, `LoopGroup.loop?_close`
and `LoopGroup.loop?_shutdown` say what is left.
-/

namespace Transports

/-- One loop of a group, over native handles of type `η`. -/
structure EventLoop (η : Type) where
  transport : String
  /-- The place in the group. -/
  index : Nat
  /-- The native handle, until it is given up. -/
  handle? : Option η
deriving DecidableEq, Repr

namespace EventLoop

variable {η : Type}

def isOpen (l : EventLoop η) : Bool :=
  l.handle?.isSome

/-- The loop without its handle. -/
def close (l : EventLoop η) : EventLoop η :=
  { l with handle? := none }

/-- What `f` makes of the handle, while there is one. -/
def withHandle {α : Type} (l : EventLoop η) (f : η → α) : Option α :=
  l.handle?.map f

@[simp] theorem handle?_close (l : EventLoop η) : l.close.handle? = none := rfl

@[simp] theorem close_close (l : EventLoop η) : l.close.close = l.close := rfl

end EventLoop

/-- A row of loops with a position for taking turns. -/
structure LoopGroup (η : Type) where
  transport : String
  loops : Array (EventLoop η)
  /-- How often a loop was taken, up to the width of a machine word. -/
  position : UInt64 := 0
  /-- The factory that the group was made with. -/
  factory : ThreadFactory
  /-- There is a loop. -/
  size_pos : 0 < loops.size

namespace LoopGroup

variable {η : Type}

def threadCount (g : LoopGroup η) : Nat :=
  g.loops.size

def loop? (g : LoopGroup η) (i : Nat) : Option (EventLoop η) :=
  g.loops[i]?

/-- The place of the loop whose turn it is. -/
def turn (g : LoopGroup η) : Nat :=
  g.position.toNat % g.loops.size

theorem turn_lt (g : LoopGroup η) : g.turn < g.loops.size :=
  Nat.mod_lt _ g.size_pos

/-- The loop whose turn it is, and the group with the turn passed on. -/
def next (g : LoopGroup η) : EventLoop η × LoopGroup η :=
  have := g.turn_lt
  (g.loops[g.turn], { g with position := g.position + 1 })

theorem fst_next (g : LoopGroup η) : g.loop? g.turn = some g.next.1 := by
  simp [loop?, next, g.turn_lt]

/-- The handles that the loops still own, in order. -/
def held (g : LoopGroup η) : List η :=
  g.loops.toList.filterMap (·.handle?)

/-- Closes the loop at a place; the handle it gives up, and the group afterwards. -/
def close (g : LoopGroup η) (i : Nat) : Option η × LoopGroup η :=
  ((g.loop? i).bind (·.handle?),
    { g with loops := g.loops.modify i EventLoop.close, size_pos := by simpa using g.size_pos })

/-- Closes every loop; the handles given up, and the group afterwards. -/
def shutdown (g : LoopGroup η) : List η × LoopGroup η :=
  (g.held, { g with loops := g.loops.map EventLoop.close, size_pos := by simpa using g.size_pos })

def isShutdown (g : LoopGroup η) : Bool :=
  g.loops.all fun l => !l.isOpen

/-- What `f` makes of the handle of the loop at a place, while it owns one. -/
def withHandle {α : Type} (g : LoopGroup η) (i : Nat) (f : η → α) : Option α :=
  (g.loop? i).bind (·.withHandle f)

/-- Starts a thread through the factory of the group. -/
def newThread {α : Type} (g : LoopGroup η) (start : String → α) : α × LoopGroup η :=
  let (a, factory) := g.factory.newThread start
  (a, { g with factory })

/-! ## What the operations leave alone -/

@[simp] theorem threadCount_next (g : LoopGroup η) : g.next.2.threadCount = g.threadCount := rfl

@[simp] theorem threadCount_shutdown (g : LoopGroup η) :
    g.shutdown.2.threadCount = g.threadCount := by
  simp [threadCount, shutdown]

/-! ## What closing does to the loops -/

theorem loop?_close (g : LoopGroup η) (i j : Nat) :
    (g.close i).2.loop? j = if i = j then (g.loop? j).map EventLoop.close else g.loop? j := by
  simp [loop?, close, Array.getElem?_modify]

theorem loop?_shutdown (g : LoopGroup η) (j : Nat) :
    g.shutdown.2.loop? j = (g.loop? j).map EventLoop.close := by
  simp [loop?, shutdown]

@[simp] theorem held_shutdown (g : LoopGroup η) : g.shutdown.2.held = [] := by
  simp [held, shutdown]

end LoopGroup

end Transports
