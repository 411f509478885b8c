import Transports.Construction
/-!
# Slots and parts

A backend offers its types in seven slots, two of which are for domain sockets, and a constructor of
groups. `Parts` is what was found for them, before anyone checks that it is complete.
-/

namespace Transports

/-- A place for a type in the record of a backend. -/
inductive Slot where
  | serverChannel
  | socketChannel
  | domainServerChannel
  | domainSocketChannel
  | datagramChannel
  | eventLoopGroup
  | eventLoop
deriving DecidableEq, Repr

namespace Slot

/-- Every slot, in the order in which they are shown. -/
def all : List Slot :=
  [serverChannel, socketChannel, domainServerChannel, domainSocketChannel, datagramChannel,
   eventLoopGroup, eventLoop]

@[simp] theorem mem_all (s : Slot) : s ∈ all := by
  cases s <;> decide

def role : Slot → Role
  | serverChannel => .serverSocketChannel
  | socketChannel => .socketChannel
  | domainServerChannel => .serverDomainSocketChannel
  | domainSocketChannel => .domainSocketChannel
  | datagramChannel => .datagramChannel
  | eventLoopGroup => .eventLoopGroup
  | eventLoop => .eventLoop

/-- What a slot is called in messages and reports. -/
def label : Slot → String
  | serverChannel => "server channel"
  | socketChannel => "socket channel"
  | domainServerChannel => "domain server channel"
  | domainSocketChannel => "domain socket channel"
  | datagramChannel => "datagram channel"
  | eventLoopGroup => "event loop group"
  | eventLoop => "event loop"

def isDomain : Slot → Bool
  | domainServerChannel => true
  | domainSocketChannel => true
  | _ => false

end Slot

/-- What was found for the record of a backend. -/
structure Parts where
  handle? : Slot → Option Handle := fun _ => none
  constructor? : Option BoundConstructor := none

namespace Parts

def isEmpty (p : Parts) : Bool :=
  (Slot.all.all fun s => (p.handle? s).isNone) && p.constructor?.isNone

theorem isEmpty_iff {p : Parts} :
    p.isEmpty = true ↔ (∀ s, p.handle? s = none) ∧ p.constructor? = none := by
  simp [isEmpty, List.all_eq_true]

end Parts

end Transports
