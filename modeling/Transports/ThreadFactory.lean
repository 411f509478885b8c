/-!
# Thread names

A thread factory names the threads it starts `<stem>-<n>`, with `n` counting from 1. A start that
fails uses its number up all the same.
-/

namespace Transports

/-- Names threads by a stem and a running number. -/
structure ThreadFactory where
  stem : String
  /-- The number of the next thread. -/
  next : UInt64 := 1
deriving DecidableEq, Repr

namespace ThreadFactory

/-- The name of thread `n` of a factory with this stem. -/
def nameOf (stem : String) (n : Nat) : String :=
  stem ++ "-" ++ Nat.repr n

/-- Starts a thread under the next name; `start` is what becomes of it. -/
def newThread {α : Type} (f : ThreadFactory) (start : String → α) : α × ThreadFactory :=
  (start (nameOf f.stem f.next.toNat), { f with next := f.next + 1 })

/-- The names of the next `n` threads, and the factory after them. -/
def names (f : ThreadFactory) : Nat → List String × ThreadFactory
  | 0 => ([], f)
  | n + 1 =>
    let (name, f) := f.newThread id
    let (rest, f) := f.names n
    (name :: rest, f)

end ThreadFactory

end Transports
