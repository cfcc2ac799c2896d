/-!
What has happened so far: the calls of factories, the loads and releases of providers, and what
mechanisms were asked to do. The counts of these events, and whether a provider has been released,
are facts of the history.
-/

namespace Attest

/-- One mechanism as an object. All loads may hand out the same one, or each call of a factory a new
one. -/
inductive Object where
  | standing (label : Nat)
  | built (factory call : Nat)
deriving Repr, DecidableEq

inductive Operation where
  | create
  | destroy
  | verify
  | uid
  | gid
  | host
  | pack
  | unpack
  | print
  | lastError
  | errorText
  | finish
deriving Repr, DecidableEq

inductive Event where
  /-- A factory was called. -/
  | called (factory : Nat)
  /-- A provider was made from an object; providers are numbered in the order of their loads. -/
  | loaded (serial : Nat) (object : Object)
  /-- A provider was released for the first time. -/
  | released (serial : Nat)
  /-- An operation of a mechanism was called. -/
  | asked (object : Object) (operation : Operation)
deriving Repr, DecidableEq

/-- Events, the latest first. -/
abbrev History := List Event

/-- A computation that adds to the history. -/
abbrev Recorded (α : Type u) := History → α × History

namespace History

/-- How often a factory has been called. -/
def calls (history : History) (factory : Nat) : Nat :=
  history.count (.called factory)

/-- How often an object has been asked for an operation. -/
def count (history : History) (object : Object) (operation : Operation) : Nat :=
  List.count (.asked object operation) history

def isLoad : Event → Bool
  | .loaded _ _ => true
  | _ => false

/-- The number of the provider that is loaded next. -/
def nextSerial (history : History) : Nat :=
  history.countP isLoad

def isReleased (history : History) (serial : Nat) : Bool :=
  history.contains (.released serial)

end History

end Attest
