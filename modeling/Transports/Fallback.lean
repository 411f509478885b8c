import Transports.Capability.OfParts
import Transports.Surroundings
/-!
# The fallback

The portable backend needs no native code, so nobody has to be asked for it: its handles are fixed,
its loops own nothing, and it has no domain sockets. Its record is assembled like any other.
-/

namespace Transports

namespace Fallback

/-- The full name of a type of the fallback. -/
def qualified (simpleName : String) : String :=
  "netcap_native::nio::" ++ simpleName

def make : Constructor where
  transport := Transport.nio.name
  attempt _ := .ok fun _ => .ok .portable

def serverChannel : Handle :=
  .plain none (qualified "NioServerSocketChannel") .serverSocketChannel

def socketChannel : Handle :=
  .plain none (qualified "NioSocketChannel") .socketChannel

def datagramChannel : Handle :=
  .plain none (qualified "NioDatagramChannel") .datagramChannel

def eventLoopGroup : Handle :=
  .groupType none (qualified "NioEventLoopGroup") make

def eventLoop : Handle :=
  .plain none (qualified "NioEventLoop") .eventLoop

def parts (constructor : BoundConstructor) : Parts where
  handle?
    | .serverChannel => some serverChannel
    | .socketChannel => some socketChannel
    | .domainServerChannel => none
    | .domainSocketChannel => none
    | .datagramChannel => some datagramChannel
    | .eventLoopGroup => some eventLoopGroup
    | .eventLoop => some eventLoop
  constructor? := some constructor

/-- The record, or why it cannot be assembled. -/
def assemble : Except Cause Capability := do
  let constructor ← (BoundConstructor.bind Transport.nio.name eventLoopGroup).mapError fun e =>
    .resolutionFailure (.lookup e)
  (Capability.ofParts Transport.nio.name (parts constructor) none).mapError fun e =>
    .resolutionFailure (.parts e)

def capability : Act Capability := do
  match assemble with
  | .ok c => return c
  | .error cause =>
    Act.tell (.fallbackUnassembled cause)
    return .unavailable Transport.nio.name cause

end Fallback

end Transports
