import Transports.Handle.Basic
/-!
# The host

What the program takes from the machine it runs on: which native facilities work, and how many
processors there are. Everything else is decided in the library.
-/

namespace Transports

/-- A native facility of the host. -/
structure Facility where
  /-- Why it cannot be used, if it cannot. -/
  cause? : Option IoFailure
  /-- What opening the multiplexer for the loop at a place gives. -/
  openAt : Nat → Except IoFailure Resource

namespace Facility

/-- A facility that works; loops get descriptors of their own. -/
def ready : Facility where
  cause? := none
  openAt place := .ok (.descriptor place)

/-- A facility that fails in one way whenever it is touched. -/
def missing (e : IoFailure) : Facility where
  cause? := some e
  openAt _ := .error e

end Facility

/-- The machine as the library sees it. -/
structure Host where
  epoll : Facility
  ioUring : Facility
  /-- The number of processors. -/
  parallelism : Nat

namespace Host

/-- The number of loops of a group for which none was chosen. -/
def defaultThreads (h : Host) : Nat :=
  h.parallelism * 2

/-- A Linux machine with working epoll and without io_uring. -/
def linux (parallelism : Nat) : Host where
  epoll := .ready
  ioUring := .missing (.system 38 .unsupported "Function not implemented")
  parallelism

end Host

end Transports
