import Transports.Capability.Slot
/-!
# Capability records

A record says what a backend offers: either all of its types and a constructor of groups, or nothing
but the cause of its absence. Domain sockets are a pair on top, there or not. Every accessor of an
unavailable record refuses with that cause; of an available record without domain sockets, the two
accessors of the pair refuse.
-/

namespace Transports

/-- The two types for domain sockets. -/
structure DomainPair where
  serverChannel : Handle
  socketChannel : Handle

/-- What an available backend offers. -/
structure Offer where
  serverChannel : Handle
  socketChannel : Handle
  domain? : Option DomainPair
  datagramChannel : Handle
  eventLoopGroup : Handle
  eventLoop : Handle
  constructor : BoundConstructor

def Offer.handle? (o : Offer) : Slot → Option Handle
  | .serverChannel => some o.serverChannel
  | .socketChannel => some o.socketChannel
  | .domainServerChannel => o.domain?.map (·.serverChannel)
  | .domainSocketChannel => o.domain?.map (·.socketChannel)
  | .datagramChannel => some o.datagramChannel
  | .eventLoopGroup => some o.eventLoopGroup
  | .eventLoop => some o.eventLoop

theorem Offer.isSome_handle? (o : Offer) (s : Slot) :
    (o.handle? s).isSome = (!s.isDomain || o.domain?.isSome) := by
  cases s <;> simp [handle?, Slot.isDomain]

/-- Whether a backend can be used. -/
inductive Availability where
  | available (offer : Offer)
  | unavailable (cause : Cause)

/-- The record of a backend. -/
structure Capability where
  name : String
  availability : Availability

namespace Capability

def unavailable (name : String) (cause : Cause) : Capability :=
  ⟨name, .unavailable cause⟩

def available (name : String) (offer : Offer) : Capability :=
  ⟨name, .available offer⟩

def isAvailable (c : Capability) : Bool :=
  match c.availability with
  | .available _ => true
  | .unavailable _ => false

/-- The cause of the absence, if the backend is absent. -/
def cause? (c : Capability) : Option Cause :=
  match c.availability with
  | .available _ => none
  | .unavailable cause => some cause

def supportsDomainSockets (c : Capability) : Bool :=
  match c.availability with
  | .available offer => offer.domain?.isSome
  | .unavailable _ => false

def offer (c : Capability) : Except Refusal Offer :=
  match c.availability with
  | .available offer => .ok offer
  | .unavailable cause => .error (.notAvailable c.name cause)

def handle (c : Capability) (s : Slot) : Except Refusal Handle := do
  match (← c.offer).handle? s with
  | some h => return h
  | none => throw (.unsupported c.name "domain sockets")

def constructor (c : Capability) : Except Refusal BoundConstructor := do
  return (← c.offer).constructor

def newGroup (c : Capability) (host : Host) (n : Nat) (factory : ThreadFactory) :
    Act (Except Refusal (LoopGroup Resource)) :=
  match c.constructor with
  | .error e => return .error e
  | .ok make => make.construct host n factory

/-- Whether two records hold the same handles and the same cause under the same name. -/
def same (c d : Capability) : Bool :=
  c.name == d.name && c.cause? == d.cause? &&
    (Slot.all.all fun s =>
      match c.handle s, d.handle s with
      | .ok h, .ok k => h.same k
      | .error e, .error f => e == f
      | _, _ => false) &&
    match c.constructor, d.constructor with
    | .ok m, .ok n => m.transport == n.transport && m.groupType.same n.groupType
    | .error e, .error f => e == f
    | _, _ => false

/-! ## The accessors by shape of the record -/

section
variable {name : String} {o : Offer} {cause : Cause} {s : Slot}

@[simp] theorem handle_unavailable :
    (unavailable name cause).handle s = .error (.notAvailable name cause) := rfl

@[simp] theorem constructor_unavailable :
    (unavailable name cause).constructor = .error (.notAvailable name cause) := rfl

@[simp] theorem constructor_available : (available name o).constructor = .ok o.constructor := rfl

theorem handle_available :
    (available name o).handle s =
      match o.handle? s with
      | some h => .ok h
      | none => .error (.unsupported name "domain sockets") := rfl

end

end Capability

end Transports
