import Transports.Resolver.Setup
/-!
# Requests to a resolver, step by step

A resolver serves requests: for one record by transport or by name, for all records or the first
few of them, for the preferred one, and for a group on a record. To say what other threads may see
in between, each request is also given as a `Procedure`, whose steps are the touch of one transport,
an event, and the making of a group. `run_procedure` shows that a procedure carried out without a
break is the request as the resolver serves it.
-/

namespace Transports

inductive Request where
  | get (t : Transport)
  | getByName (name : String)
  | records
  | firstRecords (n : Nat)
  | preferred
  /-- A group of `n` loops on the record of a transport. -/
  | newGroup (t : Transport) (n : Nat) (factory : ThreadFactory)

inductive Answer where
  | record (c : Capability)
  | record? (c? : Option Capability)
  | records (cs : List Capability)
  | group (g : Except Refusal (LoopGroup Resource))

namespace Resolver

def answer (r : Resolver) (host : Host) : Request → Session Answer
  | .get t => return .record (← r.get t)
  | .getByName name => return .record? (← r.getByName? name)
  | .records => return .records (← r.records)
  | .firstRecords n => return .records (← r.firstRecords n)
  | .preferred => return .record (← r.preferred)
  | .newGroup t n factory => do
    let c ← r.get t
    return .group (← c.newGroup host n factory)

def serve (r : Resolver) (host : Host) (requests : List Request) : Session (List Answer) :=
  requests.mapM (r.answer host)

end Resolver

/-! ## Procedures -/

/-- A computation over a resolver, one step after the other. -/
inductive Procedure (α : Type) where
  | done (a : α)
  /-- Asks for the record of a transport. -/
  | touch (t : Transport) (next : Capability → Procedure α)
  | tell (e : Event) (next : Procedure α)
  /-- Makes a group. -/
  | construct (make : BoundConstructor) (n : Nat) (factory : ThreadFactory)
      (next : Except Refusal (LoopGroup Resource) → Procedure α)

namespace Procedure

def bind {α β : Type} : Procedure α → (α → Procedure β) → Procedure β
  | done a, k => k a
  | touch t next, k => .touch t fun c => (next c).bind k
  | tell e next, k => .tell e (next.bind k)
  | construct make n factory next, k => .construct make n factory fun g => (next g).bind k

instance : Monad Procedure where
  pure := done
  bind := bind

def run {α : Type} (r : Resolver) (host : Host) : Procedure α → Session α
  | done a => return a
  | touch t next => do (next (← r.get t)).run r host
  | tell e next => do
    Act.tell e
    next.run r host
  | construct make n factory next => do (next (← make.construct host n factory)).run r host

section
variable {α β : Type} (r : Resolver) (host : Host)

@[simp] theorem run_pure (a : α) : (pure a : Procedure α).run r host = pure a := rfl

@[simp] theorem run_bind (p : Procedure α) (k : α → Procedure β) :
    (p >>= k).run r host = p.run r host >>= fun a => (k a).run r host := by
  show (p.bind k).run r host = _
  induction p with
  | done a => simp [bind, run]
  | touch t next ih => simp [bind, run, ih]
  | tell e next ih => simp [bind, run, ih]
  | construct make n factory next ih => simp [bind, run, ih]

end

def getAll : List Transport → Procedure (List Capability)
  | [] => pure []
  | t :: l => .touch t fun c => do return c :: (← getAll l)

/-- Asks for the record of the preferred transport, if one is named, and tells if it is no use. -/
def chosen? : Option Transport → Procedure (Option Capability)
  | none => pure none
  | some t => .touch t fun c =>
    if c.isAvailable then pure (some c) else .tell (.preferenceUnavailable c.name) (pure none)

def firstAvailable? : List Transport → Procedure (Option Capability)
  | [] => pure none
  | t :: l => .touch t fun c => if c.isAvailable then pure (some c) else firstAvailable? l

/-- Asks for the record to use if none is preferred. -/
def unpreferred : Procedure Capability := do
  match ← firstAvailable? [.epoll, .kqueue] with
  | some c => return c
  | none => .touch .nio pure

def preferred (named : Option Transport) : Procedure Capability := do
  match ← chosen? named with
  | some c => return c
  | none => unpreferred

def newGroup (n : Nat) (factory : ThreadFactory) (c : Capability) : Procedure Answer :=
  match c.constructor with
  | .error e => pure (.group (.error e))
  | .ok make => .construct make n factory fun g => pure (.group g)

end Procedure

def Request.procedure (settings : Settings) : Request → Procedure Answer
  | .get t => .touch t fun c => pure (.record c)
  | .getByName name =>
    match Transport.ofText name with
    | .error _ => pure (.record? none)
    | .ok t => .touch t fun c => pure (.record? (some c))
  | .records => do return .records (← Procedure.getAll Transport.all)
  | .firstRecords n => do return .records (← Procedure.getAll (Transport.all.take n))
  | .preferred => do return .record (← Procedure.preferred settings.preferred?)
  | .newGroup t n factory => .touch t (Procedure.newGroup n factory)

def Procedure.ofRequests (settings : Settings) : List Request → Procedure (List Answer)
  | [] => pure []
  | q :: l => do return (← q.procedure settings) :: (← ofRequests settings l)

namespace Procedure

section
variable (r : Resolver) (host : Host)

theorem run_getAll (l : List Transport) : (getAll l).run r host = l.mapM r.get := by
  induction l with
  | nil => rfl
  | cons t l ih => simp [getAll, run, ih]

theorem run_chosen? : (chosen? r.settings.preferred?).run r host = r.chosen? := by
  unfold chosen? Resolver.chosen?
  cases r.settings.preferred? with
  | none => rfl
  | some t =>
    simp only [run]
    congr 1
    funext c
    split <;> rfl

theorem run_firstAvailable? (l : List Transport) :
    (firstAvailable? l).run r host = r.firstAvailable? l := by
  induction l with
  | nil => rfl
  | cons t l ih =>
    simp only [firstAvailable?, run, Resolver.firstAvailable?]
    congr 1
    funext c
    split
    · rfl
    · exact ih

theorem run_preferred : (preferred r.settings.preferred?).run r host = r.preferred := by
  unfold preferred Resolver.preferred
  rw [run_bind, run_chosen?]
  congr 1
  funext c?
  cases c? with
  | some c => rfl
  | none =>
    simp only [unpreferred, run_bind, run_firstAvailable?]
    congr 1
    funext c?
    cases c? with
    | some c => rfl
    | none => simp [run]

theorem run_newGroup (n : Nat) (factory : ThreadFactory) (c : Capability) :
    (newGroup n factory c).run r host = do return .group (← c.newGroup host n factory) := by
  unfold newGroup Capability.newGroup
  cases c.constructor <;> simp [run]

end

end Procedure

/-- **A procedure carried out without a break is the request.** -/
theorem Request.run_procedure (r : Resolver) (host : Host) (q : Request) :
    (q.procedure r.settings).run r host = r.answer host q := by
  cases q with
  | get t => rfl
  | getByName name =>
    simp only [procedure, Resolver.answer, Resolver.getByName?]
    cases Transport.ofText name <;> simp [Procedure.run]
  | records => simp [procedure, Resolver.answer, Procedure.run_getAll, Resolver.records]
  | firstRecords n => simp [procedure, Resolver.answer, Procedure.run_getAll, Resolver.firstRecords]
  | preferred => simp [procedure, Resolver.answer, Procedure.run_preferred]
  | newGroup t n factory => simp [procedure, Resolver.answer, Procedure.run, Procedure.run_newGroup]

theorem Procedure.run_ofRequests (r : Resolver) (host : Host) (requests : List Request) :
    (ofRequests r.settings requests).run r host = r.serve host requests := by
  unfold Resolver.serve
  induction requests with
  | nil => rfl
  | cons q l ih => simp [ofRequests, Request.run_procedure, ih]

end Transports
