import Transports.Capability.Basic
/-!
# Records from parts

`Capability.ofParts` lets a record come about only from all parts or from a cause alone. Of several
faults the first one counts: half a pair of domain types; parts and cause together; neither; the
roles of the domain types; then each required slot in turn, missing or of the wrong role; and last
the constructor.
-/

namespace Transports

/-- Refuses a type whose role is not that of the slot. -/
def Slot.accept (s : Slot) (name : String) (h : Handle) : Except PartsFault Handle :=
  if h.role = s.role then .ok h else .error (.roleMismatch name s.label s.role h.role)

namespace Parts

/-- Whether exactly one of the two domain types is there. -/
def hasHalfPair (p : Parts) : Bool :=
  (p.handle? .domainServerChannel).isSome != (p.handle? .domainSocketChannel).isSome

/-- The type in a slot that must be filled. -/
def require (p : Parts) (name : String) (s : Slot) : Except PartsFault Handle :=
  match p.handle? s with
  | none => .error (.incomplete name s.label)
  | some h => s.accept name h

/-- The pair of domain types, if both are there. -/
def domainPair? (p : Parts) (name : String) : Except PartsFault (Option DomainPair) := do
  match p.handle? .domainServerChannel, p.handle? .domainSocketChannel with
  | some server, some socket =>
    let serverChannel ← Slot.domainServerChannel.accept name server
    let socketChannel ← Slot.domainSocketChannel.accept name socket
    return some { serverChannel, socketChannel }
  | _, _ => return none

def offer (p : Parts) (name : String) : Except PartsFault Offer := do
  let domain? ← p.domainPair? name
  let serverChannel ← p.require name .serverChannel
  let socketChannel ← p.require name .socketChannel
  let datagramChannel ← p.require name .datagramChannel
  let eventLoopGroup ← p.require name .eventLoopGroup
  let eventLoop ← p.require name .eventLoop
  match p.constructor? with
  | none => throw (.incomplete name "event loop group constructor")
  | some constructor =>
    return { serverChannel, socketChannel, domain?, datagramChannel, eventLoopGroup, eventLoop,
             constructor }

end Parts

/-- The record that parts or a cause make up. -/
def Capability.ofParts (name : String) (p : Parts) (cause? : Option Cause) :
    Except PartsFault Capability :=
  if p.hasHalfPair then .error (.halfDomainPair name)
  else
    match p.isEmpty, cause? with
    | true, some cause => .ok (.unavailable name cause)
    | false, some _ => .error (.bothPresent name)
    | true, none => .error (.neitherPresent name)
    | false, none => (p.offer name).map (.available name)

end Transports
