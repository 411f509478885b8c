/-!
# Roles and tiers

A backend consists of types that play fixed roles, and lives in one of two tiers.
-/

namespace Transports

/-- The part that a type plays in a backend. -/
inductive Role where
  /-- The type that tells whether the backend can be used. -/
  | entryPoint
  /-- A listening channel. -/
  | serverSocketChannel
  /-- A connected channel. -/
  | socketChannel
  /-- A listening channel of a domain socket. -/
  | serverDomainSocketChannel
  /-- A connected channel of a domain socket. -/
  | domainSocketChannel
  /-- A channel of datagrams. -/
  | datagramChannel
  /-- A group of event loops. -/
  | eventLoopGroup
  /-- A single event loop. -/
  | eventLoop
deriving DecidableEq, Repr

def Role.name : Role → String
  | entryPoint => "EntryPoint"
  | serverSocketChannel => "ServerSocketChannel"
  | socketChannel => "SocketChannel"
  | serverDomainSocketChannel => "ServerDomainSocketChannel"
  | domainSocketChannel => "DomainSocketChannel"
  | datagramChannel => "DatagramChannel"
  | eventLoopGroup => "EventLoopGroup"
  | eventLoop => "EventLoop"

/-- How settled a backend is. -/
inductive Tier where
  /-- Stable backends that always ship. -/
  | standard
  /-- Experimental backends that ship apart. -/
  | incubator
deriving DecidableEq, Repr

def Tier.name : Tier → String
  | standard => "standard"
  | incubator => "incubator"

end Transports
