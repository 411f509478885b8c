import Transports.Failure.Basic
import Transports.LoopGroup.Basic
/-!
# Opening a group

The loops of a group are opened one after the other, each by a call that gives its native handle or
fails. The first failure ends the opening, and the handles obtained so far are given back; otherwise
they become the loops of the group (`LoopGroup.ofOpening`). A group without loops is refused.
-/

namespace Transports

/-- How far the opening of a group has come. -/
structure Opening (η : Type) where
  /-- The places at which a handle was asked for, in order. -/
  asked : Array Nat := #[]
  /-- The handles obtained, in order. -/
  handles : Array η := #[]
  /-- The failure that ended it. -/
  failure? : Option IoFailure := none

namespace Opening

variable {η : Type}

/-- Asks for up to `n` more handles, at the places that follow. -/
def extend (openAt : Nat → Except IoFailure η) : Nat → Opening η → Opening η
  | 0, o => o
  | n + 1, o =>
    let place := o.handles.size
    match openAt place with
    | .ok h => extend openAt n { o with asked := o.asked.push place, handles := o.handles.push h }
    | .error e => { o with asked := o.asked.push place, failure? := some e }

/-- Asks for a handle at each of the places below `n`, up to the first failure. -/
def run (openAt : Nat → Except IoFailure η) (n : Nat) : Opening η :=
  extend openAt n {}

/-- The handles given back, which are all of them if the opening failed. -/
def released (o : Opening η) : List η :=
  if o.failure?.isSome then o.handles.toList else []

end Opening

/-- The refusal of a group without loops. -/
def IoFailure.noThreads : IoFailure :=
  .described .invalidInput "event loop group needs at least one thread"

/-- The group whose loops own the handles of a finished opening. -/
def LoopGroup.ofOpening {η : Type} (transport : String) (factory : ThreadFactory) (o : Opening η) :
    Except IoFailure (LoopGroup η) :=
  match o.failure? with
  | some e => .error e
  | none =>
    if h : 0 < o.handles.size then
      .ok { transport, factory
            loops := o.handles.mapIdx fun i handle => ⟨transport, i, some handle⟩
            size_pos := by simpa using h }
    else .error .noThreads

end Transports
