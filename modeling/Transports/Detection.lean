import Transports.Capability.OfParts
import Transports.Declaration
import Transports.Surroundings
/-!
# Detecting a backend

Detection turns a declaration into the record of a backend. It never fails: the first step that does
not succeed ends it, and becomes the cause in an unavailable record. The steps are the namespace of
the tier; the gate; the entry point and its answer; the five types that every backend has; the
constructor of its group type; and last the domain sockets, if both are declared. Each detection
tells one event.
-/

namespace Transports

/-- Whether the settings let detection touch a backend: the token that is missing, if one is. -/
def Declaration.missingToken? (d : Declaration) (s : Settings) : Option String :=
  d.optIn?.filter fun token => !s.enables token

namespace Surroundings

/-- Finds the entry point of a backend and asks it whether the backend can be used. -/
def checkEntryPoint (s : Surroundings) (d : Declaration) (space : String) :
    ExceptT Cause Act Unit := do
  let entryPoint ← s.find space d.entryPoint .entryPoint
  match ← entryPoint.consult with
  | .error e => throw (.ofLookup e)
  | .ok (some e) => throw (.nativeUnavailable e.strip)
  | .ok none => return ()

/-- Finds the two types for domain sockets, if they are declared. -/
def findDomainPair (s : Surroundings) (d : Declaration) (space : String) :
    ExceptT Cause Act (Option (Handle × Handle)) := do
  match d.domainSockets? with
  | none => return none
  | some (server, socket) =>
    let server ← s.find space server .serverDomainSocketChannel
    let socket ← s.find space socket .domainSocketChannel
    return some (server, socket)

/-- Finds everything that makes up the record of a backend, or the cause that ends the search. -/
def findParts (s : Surroundings) (d : Declaration) (space : String) : ExceptT Cause Act Parts := do
  s.checkEntryPoint d space
  let serverChannel ← s.find space d.serverChannel .serverSocketChannel
  let socketChannel ← s.find space d.socketChannel .socketChannel
  let datagramChannel ← s.find space d.datagramChannel .datagramChannel
  let eventLoopGroup ← s.find space d.eventLoopGroup .eventLoopGroup
  let eventLoop ← s.find space d.eventLoop .eventLoop
  let constructor ← ((BoundConstructor.bind d.name eventLoopGroup).mapError Cause.ofLookup)
  let domain? ← s.findDomainPair d space
  return {
    handle? := fun
      | .serverChannel => some serverChannel
      | .socketChannel => some socketChannel
      | .domainServerChannel => domain?.map (·.1)
      | .domainSocketChannel => domain?.map (·.2)
      | .datagramChannel => some datagramChannel
      | .eventLoopGroup => some eventLoopGroup
      | .eventLoop => some eventLoop
    constructor? := some constructor }

end Surroundings

namespace Declaration

/-- Makes the record of a backend out of what was found, and tells how it came out. -/
def conclude (d : Declaration) : Except Cause Parts → Act Capability
  | .error cause => do
    Act.tell (.transportUnavailable cause)
    return .unavailable d.name cause
  | .ok parts =>
    match Capability.ofParts d.name parts none with
    | .ok c => do
      Act.tell (.transportAvailable c.supportsDomainSockets)
      return c
    | .error e => do
      Act.tell (.invalidRecord e)
      return .unavailable d.name (.resolutionFailure (.parts e))

/-- The record of a backend: everything it needs is there, or the cause says what is not. -/
def detect (d : Declaration) (settings : Settings) (s : Surroundings) : Act Capability := do
  match ← s.seek d.tier with
  | none =>
    Act.tell (.namespaceUnresolved d.tier)
    return .unavailable d.name (.namespaceUnresolved d.tier)
  | some space =>
    match d.missingToken? settings with
    | some token =>
      Act.tell (.notEnabled token)
      return .unavailable d.name (.notOptedIn token)
    | none => d.conclude (← (s.findParts d space).run)

end Declaration

end Transports
