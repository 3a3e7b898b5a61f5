/-!
# Events

What the bridge counts, and the counters. Counts are 64-bit words and wrap; each event has a cell
of its own, found by its index.
-/

namespace ManagedBridge

inductive BridgeEvent
  /-- A scope attached the current thread to the runtime. -/
  | attach
  /-- A scope detached a thread that it had attached. -/
  | detach
  /-- A scope found the thread attached and reused its context. -/
  | reuse
  /-- A pending exception was reported and cleared. -/
  | exceptionDrained
  /-- A managed string was copied out into a native buffer. -/
  | toNative
  /-- A managed string was built from native bytes. -/
  | toManaged
  deriving DecidableEq, Repr

namespace BridgeEvent

def all : List BridgeEvent := [attach, detach, reuse, exceptionDrained, toNative, toManaged]

def index : BridgeEvent → Fin 6
  | attach => 0
  | detach => 1
  | reuse => 2
  | exceptionDrained => 3
  | toNative => 4
  | toManaged => 5

def name : BridgeEvent → String
  | attach => "attach"
  | detach => "detach"
  | reuse => "reuse"
  | exceptionDrained => "exception_drained"
  | toNative => "to_native"
  | toManaged => "to_managed"

/-- The name of the event in diagnostics. -/
def label : BridgeEvent → String
  | attach => "Attach"
  | detach => "Detach"
  | reuse => "Reuse"
  | exceptionDrained => "ExceptionDrained"
  | toNative => "ToNative"
  | toManaged => "ToManaged"

/-- The event of a name. -/
def ofName? (s : String) : Option BridgeEvent := all.find? (·.name == s)

theorem index_injective {e f : BridgeEvent} (h : e.index = f.index) : e = f := by
  revert h; cases e <;> cases f <;> decide

end BridgeEvent

/-- One count for each event. -/
structure Counter where
  counts : Vector UInt64 6
  deriving DecidableEq

namespace Counter

def zero : Counter := ⟨Vector.replicate 6 0⟩

def get (c : Counter) (e : BridgeEvent) : UInt64 := c.counts[e.index]

def increment (c : Counter) (e : BridgeEvent) : Counter :=
  ⟨c.counts.set e.index (c.get e + 1)⟩

/-- One store of zero into the cell of `e`. -/
def resetOne (c : Counter) (e : BridgeEvent) : Counter := ⟨c.counts.set e.index 0⟩

/-- All cells set to zero, one after the other. -/
def resetAll (c : Counter) : Counter := BridgeEvent.all.foldl resetOne c

/-- Every event with its count, in the order of `BridgeEvent.all`. -/
def toList (c : Counter) : List (BridgeEvent × UInt64) := BridgeEvent.all.map fun e => (e, c.get e)

@[simp] theorem get_zero (e : BridgeEvent) : zero.get e = 0 := by
  simp [zero, get]

@[simp] theorem get_increment (c : Counter) (e f : BridgeEvent) :
    (c.increment e).get f = if e = f then c.get f + 1 else c.get f := by
  by_cases h : e = f
  · subst h; simp [increment, get]
  · have : e.index.val ≠ f.index.val := fun hi => h (BridgeEvent.index_injective (Fin.ext hi))
    simp [increment, get, h, this]

@[simp] theorem get_resetOne (c : Counter) (e f : BridgeEvent) :
    (c.resetOne e).get f = if e = f then 0 else c.get f := by
  by_cases h : e = f
  · subst h; simp [resetOne, get]
  · have : e.index.val ≠ f.index.val := fun hi => h (BridgeEvent.index_injective (Fin.ext hi))
    simp [resetOne, get, h, this]

@[simp] theorem get_resetAll (c : Counter) (e : BridgeEvent) : c.resetAll.get e = 0 := by
  cases e <;> simp [resetAll, BridgeEvent.all]

end Counter

/-- A counter that a build without metrics keeps nothing in. -/
inductive Meter
  | counting (counter : Counter)
  | silent

namespace Meter

def new (metrics : Bool) : Meter := if metrics then counting .zero else silent

def increment (m : Meter) (e : BridgeEvent) : Meter :=
  match m with
  | counting c => counting (c.increment e)
  | silent => silent

/-- `n` increments in a row. On several threads as many increments leave the same counts. -/
def incrementMany (m : Meter) (e : BridgeEvent) (n : Nat) : Meter :=
  Nat.repeat (·.increment e) n m

def get (m : Meter) (e : BridgeEvent) : UInt64 :=
  match m with
  | counting c => c.get e
  | silent => 0

def resetAll : Meter → Meter
  | counting c => counting c.resetAll
  | silent => silent

def toList (m : Meter) : List (BridgeEvent × UInt64) := BridgeEvent.all.map fun e => (e, m.get e)

end Meter

end ManagedBridge
