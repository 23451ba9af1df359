import Jet.Operator
import Jet.Store

/-!
# Computations

A computation runs on a store and leaves a store, whether it ends with a result or is cut off: what
it wrote before it was cut off stays written.
-/

namespace Jet

/-- What is done to a store, with the result or the reason for being cut off. -/
def Computation (α : Type) : Type :=
  Store → Except Halt α × Store

namespace Computation

/-- A result without any effect. -/
protected def pure {α : Type} (value : α) : Computation α :=
  fun store => (.ok value, store)

/-- One computation after another; the second is left out if the first is cut off. -/
protected def bind {α β : Type} (first : Computation α) (next : α → Computation β) :
    Computation β :=
  fun store =>
    match first store with
    | (.ok value, after) => next value after
    | (.error halt, after) => (.error halt, after)

instance : Monad Computation where
  pure := Computation.pure
  bind := Computation.bind

/-- Cuts the evaluation off. -/
def halt {α : Type} (reason : Halt) : Computation α :=
  fun store => (.error reason, store)

/-- A result of a pure operation that may cut the evaluation off. -/
def ofExcept {α : Type} (result : Except Halt α) : Computation α :=
  fun store => (result, store)

/-- A stamp that no value has yet. -/
def freshStamp : Computation Nat :=
  fun store => (.ok store.nextStamp, { store with nextStamp := store.nextStamp + 1 })

/-- A new scope inside another. -/
def openScope (outer : Nat) : Computation Nat :=
  fun store =>
    let (id, after) := store.openScope (some outer)
    (.ok id, after)

/-- The value of a name seen from a scope. -/
def lookup (scope : Nat) (name : String) : Computation (Option Value) :=
  fun store => (.ok (store.get? scope name), store)

/-- Binds a name in a scope. -/
def define (scope : Nat) (name : String) (value : Value) : Computation Unit :=
  fun store => (.ok (), store.define scope name value)

/-- Binds names to values one by one. -/
def defineAll (scope : Nat) : List (String × Value) → Computation Unit
  | [] => pure ()
  | (name, value) :: rest => do
      define scope name value
      defineAll scope rest

/-- Gives a new value to a bound name; the result says whether it was bound. -/
def assign (scope : Nat) (name : String) (value : Value) : Computation Bool :=
  fun store =>
    match store.assign? scope name value with
    | some after => (.ok true, after)
    | none => (.ok false, store)

/-- A new array. -/
def newArray (elements : List Value) : Computation Value := do
  let stamp ← freshStamp
  pure (.array stamp elements)

/-- A new hash. -/
def newHash (entries : List Entry) : Computation Value := do
  let stamp ← freshStamp
  pure (.hash stamp entries)

/-- A number that is not a number is made anew, so that it is found by no key but its own. -/
def renew : Value → Computation Value
  | .float (.nan _) => do
      let stamp ← freshStamp
      pure (.float (.nan stamp))
  | value => pure value

/-- Goes on with the value of a computation, unless that is a signal, which is passed on. -/
def andThen (first : Computation Value) (next : Value → Computation Value) : Computation Value := do
  let value ← first
  if value.isSignal then pure value else next value

end Computation

end Jet
