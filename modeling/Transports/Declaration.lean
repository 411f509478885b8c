import Transports.Role
import Transports.Transport
/-!
# Declarations of backends

A declaration says by which relative names detection asks for the types of a backend, in which tier
it looks, and whether the settings must name the backend first. The names are joined to the
namespace as they stand, so they start with their own separator.
-/

namespace Transports

/-- What detection needs to know about a backend. -/
structure Declaration where
  name : String
  tier : Tier
  /-- The token that must be preferred before the backend is touched, for gated backends. -/
  optIn? : Option String := none
  entryPoint : String
  serverChannel : String
  socketChannel : String
  domainServerChannel? : Option String := none
  domainSocketChannel? : Option String := none
  datagramChannel : String
  eventLoopGroup : String
  eventLoop : String
deriving DecidableEq, Repr

namespace Declaration

/-- The two names for domain sockets, if both are declared. -/
def domainSockets? (d : Declaration) : Option (String × String) :=
  match d.domainServerChannel?, d.domainSocketChannel? with
  | some server, some socket => some (server, socket)
  | _, _ => none

def epoll : Declaration where
  name := Transport.epoll.name
  tier := .standard
  entryPoint := ".epoll.Epoll"
  serverChannel := ".epoll.EpollServerSocketChannel"
  socketChannel := ".epoll.EpollSocketChannel"
  domainServerChannel? := some ".epoll.EpollServerDomainSocketChannel"
  domainSocketChannel? := some ".epoll.EpollDomainSocketChannel"
  datagramChannel := ".epoll.EpollDatagramChannel"
  eventLoopGroup := ".epoll.EpollEventLoopGroup"
  eventLoop := ".epoll.EpollEventLoop"

def kqueue : Declaration where
  name := Transport.kqueue.name
  tier := .standard
  entryPoint := ".kqueue.KQueue"
  serverChannel := ".kqueue.KQueueServerSocketChannel"
  socketChannel := ".kqueue.KQueueSocketChannel"
  domainServerChannel? := some ".kqueue.KQueueServerDomainSocketChannel"
  domainSocketChannel? := some ".kqueue.KQueueDomainSocketChannel"
  datagramChannel := ".kqueue.KQueueDatagramChannel"
  eventLoopGroup := ".kqueue.KQueueEventLoopGroup"
  eventLoop := ".kqueue.KQueueEventLoop"

/-- On some kernels a mere touch of io_uring can take the whole process down, so it is gated. -/
def ioUring : Declaration where
  name := Transport.ioUring.name
  tier := .incubator
  optIn? := some Transport.ioUring.token
  entryPoint := ".uring.IOUring"
  serverChannel := ".uring.IOUringServerSocketChannel"
  socketChannel := ".uring.IOUringSocketChannel"
  datagramChannel := ".uring.IOUringDatagramChannel"
  eventLoopGroup := ".uring.IOUringEventLoopGroup"
  eventLoop := ".uring.IOUringEventLoop"

/-- The declaration of a transport; the fallback needs none. -/
def of? : Transport → Option Declaration
  | .nio => none
  | .epoll => some epoll
  | .kqueue => some kqueue
  | .ioUring => some ioUring

theorem of?_eq_none_iff {t : Transport} : of? t = none ↔ t = .nio := by
  cases t <;> simp [of?]

theorem name_of? {t : Transport} {d : Declaration} (h : of? t = some d) : d.name = t.name := by
  cases t <;> simp only [of?, Option.some.injEq, reduceCtorEq] at h <;> subst h <;> rfl

end Declaration

end Transports
