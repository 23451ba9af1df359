import Jet.Value.Basic

/-!
# The store

The scopes of a running program.  A scope binds names to values and may lie inside an outer scope;
a name is resolved in the nearest scope outward that binds it.  Scopes are numbered in the order in
which they are opened and never go away, and the outer scope of a scope is an earlier one.  The
store also counts the stamps that it has given out to new values.
-/

namespace Jet

/-- The names bound in one scope, in the order in which they were first bound. -/
structure Scope where
  bindings : List (String × Value)
  outer : Option Nat

namespace Scope

/-- Binds a name in a list of bindings; a binding of the same name is replaced where it stands. -/
def insert (name : String) (value : Value) : List (String × Value) → List (String × Value)
  | [] => [(name, value)]
  | head :: rest =>
      if head.1 = name then (name, value) :: rest else head :: insert name value rest

/-- The value of a name in this one scope. -/
def get? (scope : Scope) (name : String) : Option Value :=
  scope.bindings.lookup name

/-- Whether this one scope binds a name. -/
def binds (scope : Scope) (name : String) : Bool :=
  scope.bindings.any fun binding => binding.1 == name

/-- Binds a name in this scope. -/
def define (scope : Scope) (name : String) (value : Value) : Scope :=
  { scope with bindings := insert name value scope.bindings }

end Scope

/-- All scopes, by number, and the next stamp. -/
structure Store where
  scopes : Array Scope
  nextStamp : Nat

/-- The root scope of the store in which sessions begin. -/
def rootScope : Nat := 0

namespace Store

/-- A store without scopes. -/
def empty : Store :=
  ⟨#[], 0⟩

/-- A store with one root scope and nothing in it. -/
def initial : Store :=
  ⟨#[⟨[], none⟩], 0⟩

/-- A new empty scope, given with its number. -/
def openScope (store : Store) (outer : Option Nat) : Nat × Store :=
  (store.scopes.size, { store with scopes := store.scopes.push ⟨[], outer⟩ })

/--
The nearest scope outward that binds a name, looking at no more than a number of scopes.
-/
def resolveWithin (store : Store) (name : String) : Nat → Nat → Option Nat
  | 0, _ => none
  | count + 1, id =>
      match store.scopes[id]? with
      | none => none
      | some scope =>
          if scope.binds name then some id
          else
            match scope.outer with
            | none => none
            | some outer => resolveWithin store name count outer

/--
The nearest scope outward from a scope that binds a name.  Outer scopes have smaller numbers, so
there are no more of them than the number of the scope.
-/
def resolve (store : Store) (id : Nat) (name : String) : Option Nat :=
  store.resolveWithin name (id + 1) id

/-- The value of a name, seen from a scope. -/
def get? (store : Store) (id : Nat) (name : String) : Option Value :=
  match store.resolve id name with
  | none => none
  | some holder =>
      match store.scopes[holder]? with
      | none => none
      | some scope => scope.get? name

/-- Binds a name in one scope. -/
def define (store : Store) (id : Nat) (name : String) (value : Value) : Store :=
  { store with scopes := store.scopes.modify id fun scope => scope.define name value }

/-- Gives a new value to a name where it is bound; `none` if it is not bound. -/
def assign? (store : Store) (id : Nat) (name : String) (value : Value) : Option Store :=
  match store.resolve id name with
  | none => none
  | some holder => some (store.define holder name value)

/-- The bindings of one scope. -/
def bindings (store : Store) (id : Nat) : List (String × Value) :=
  match store.scopes[id]? with
  | none => []
  | some scope => scope.bindings

/-- The number of scopes around a scope, looking at no more than a number of scopes. -/
def depthWithin (store : Store) : Nat → Nat → Nat
  | 0, _ => 0
  | count + 1, id =>
      match store.scopes[id]? with
      | none => 0
      | some scope =>
          match scope.outer with
          | none => 0
          | some outer => depthWithin store count outer + 1

/-- The number of scopes around a scope. -/
def depth (store : Store) (id : Nat) : Nat :=
  store.depthWithin (id + 1) id

/-- A summary of one scope: its depth and its names in order. -/
def summary (store : Store) (id : Nat) : String :=
  let names := (store.bindings id).map fun binding => binding.1
  let sorted := names.mergeSort fun left right => !(decide (right < left))
  "Environment(depth=" ++ toString (store.depth id) ++ ", names=[" ++
    String.intercalate ", " sorted ++ "])"

end Store

end Jet
