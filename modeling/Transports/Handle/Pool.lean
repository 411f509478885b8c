import Transports.Handle.Basic
/-!
# Pools of handles

A pool is filled by creating handles and by cloning those already there. Each creation gets a number
of its own, and a clone keeps the number of what it was cloned from; so the numbers tell families of
clones apart.
-/

namespace Transports

/-- What a handle is created from. -/
inductive Handle.Creation where
  | plain (name : String) (role : Role)
  | entryPoint (name : String) (answer : Nat → Option Failure)
  | groupType (name : String) (make : Constructor)

def Handle.Creation.handle (serial : Nat) : Handle.Creation → Handle
  | plain name role => .plain (some serial) name role
  | entryPoint name answer => .entryPoint (some serial) name answer
  | groupType name make => .groupType (some serial) name make

@[simp] theorem Handle.Creation.serial?_handle (serial : Nat) (c : Handle.Creation) :
    (c.handle serial).serial? = some serial := by
  cases c <;> rfl

/-- Handles, and the number for the next creation. -/
structure Pool where
  handles : Array Handle := #[]
  nextSerial : Nat := 0

namespace Pool

/-- One step of filling a pool. -/
inductive Step where
  | create (c : Handle.Creation)
  /-- Adds another copy of the handle at a place, if there is one. -/
  | clone (place : Nat)

def add (p : Pool) : Step → Pool
  | .create c =>
    { handles := p.handles.push (c.handle p.nextSerial), nextSerial := p.nextSerial + 1 }
  | .clone place =>
    match p.handles[place]? with
    | some h => { p with handles := p.handles.push h }
    | none => p

def ofSteps (steps : List Step) : Pool :=
  steps.foldl add {}

end Pool

end Transports
