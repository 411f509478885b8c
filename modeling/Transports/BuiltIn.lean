import Transports.Directory
import Transports.Host
/-!
# Built-in backends

The native backends of this platform put their types into a directory under a namespace: epoll eight
types, io_uring six, as it has no domain sockets. Each entry point tells whether the facility of the
host works, and each group type makes groups that own one multiplexer for each loop. Nothing is
touched before a member is called.
-/

namespace Transports

def Facility.constructor (f : Facility) (t : Transport) : Constructor where
  transport := t.name
  attempt _ := .ok f.openAt

def Facility.answer (f : Facility) (_ : Nat) : Option Failure :=
  f.cause?.map .io

namespace BuiltIn

def epoll (f : Facility) (space : String) : List Handle :=
  let name := Directory.qualified space
  [.entryPoint none (name ".epoll.Epoll") f.answer,
   .plain none (name ".epoll.EpollServerSocketChannel") .serverSocketChannel,
   .plain none (name ".epoll.EpollSocketChannel") .socketChannel,
   .plain none (name ".epoll.EpollServerDomainSocketChannel") .serverDomainSocketChannel,
   .plain none (name ".epoll.EpollDomainSocketChannel") .domainSocketChannel,
   .plain none (name ".epoll.EpollDatagramChannel") .datagramChannel,
   .groupType none (name ".epoll.EpollEventLoopGroup") (f.constructor .epoll),
   .plain none (name ".epoll.EpollEventLoop") .eventLoop]

def ioUring (f : Facility) (space : String) : List Handle :=
  let name := Directory.qualified space
  [.entryPoint none (name ".uring.IOUring") f.answer,
   .plain none (name ".uring.IOUringServerSocketChannel") .serverSocketChannel,
   .plain none (name ".uring.IOUringSocketChannel") .socketChannel,
   .plain none (name ".uring.IOUringDatagramChannel") .datagramChannel,
   .groupType none (name ".uring.IOUringEventLoopGroup") (f.constructor .ioUring),
   .plain none (name ".uring.IOUringEventLoop") .eventLoop]

end BuiltIn

namespace Directory

/-- The directory of the built-in types. -/
def native (host : Host) : Directory :=
  (empty.insertAll (BuiltIn.epoll host.epoll Namespaces.builtInStandard)).insertAll
    (BuiltIn.ioUring host.ioUring Namespaces.builtInIncubator)

/-- Sets up the directory of the built-in types, and tells of it. -/
def setUp (host : Host) : Act Directory := do
  let d := native host
  Act.tell (.directoryBuilt d.size)
  return d

end Directory

end Transports
