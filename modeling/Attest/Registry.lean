import Attest.Data.NameMap
import Attest.Provider

/-!
Mechanisms by name. What stands under a name is a factory, and loading the name calls it.
-/

namespace Attest

/-- What the calls of a factory hand out. -/
inductive Product where
  /-- One object, made beforehand. -/
  | standing (label : Nat) (mechanism : Mechanism)
  | claimed
  /-- A mechanism that is brought up from its configuration at each call. -/
  | signed (config : Signed.Config) (clock : Signed.Clock)

structure Factory where
  label : Nat
  product : Product
  /-- The failure of the call that comes after so many others, if that call fails. -/
  failure? : Nat → Option AuthError := fun _ => none

namespace Product

/-- The mechanism that a call hands out, and which object it is. -/
def make (product : Product) (factory call : Nat) : Except AuthError (Mechanism × Object) :=
  match product with
  | .standing label mechanism => .ok (mechanism, .standing label)
  | .claimed => .ok (.claimed, .built factory call)
  | .signed config clock =>
    match Signed.Signer.ofConfig config clock with
    | .ok signer => .ok (.signed signer, .built factory call)
    | .error e => .error e.toAuthError

end Product

namespace Factory

def call (factory : Factory) : Recorded (Except AuthError (Mechanism × Object)) := fun history =>
  let earlier := history.calls factory.label
  let answer := match factory.failure? earlier with
    | some e => .error e
    | none => factory.product.make factory.label earlier
  (answer, .called factory.label :: history)

end Factory

structure Registry where
  factories : NameMap Factory := {}

namespace Registry

/-- A later factory under the same name takes the place of the earlier one. -/
def register (registry : Registry) (name : String) (factory : Factory) : Registry :=
  ⟨registry.factories.insert name factory⟩

/-- Registers an object under the name that its mechanism goes by. -/
def registerObject (registry : Registry) (label : Nat) (mechanism : Mechanism) : Registry :=
  registry.register mechanism.name { label, product := .standing label mechanism }

def contains (registry : Registry) (name : String) : Bool :=
  registry.factories.contains name

def names (registry : Registry) : List String :=
  registry.factories.names

/-- A mechanism has to go by the name under which it is loaded. -/
def load (registry : Registry) (name : String) : Recorded (Except AuthError Provider) := fun history =>
  match registry.factories.get? name with
  | none => (.error (.unknownMechanism name), history)
  | some factory =>
    match factory.call history with
    | (.error e, history) => (.error (.loadFailed name e.message), history)
    | (.ok (mechanism, object), history) =>
      if mechanism.name = name then
        let serial := History.nextSerial history
        (.ok { id := mechanism.id, name, mechanism, object, serial }, .loaded serial object :: history)
      else
        (.error (.loadFailed name s!"mechanism identifies itself as {mechanism.name}"), history)

end Registry

end Attest
