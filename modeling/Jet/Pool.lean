import Jet.Session

/-!
# Sessions side by side

Any number of sessions, told apart by numbers, to which source texts are given in any order.  Either
each session has a store of its own, or all of them share one store and one root scope.
-/

namespace Jet

/-- Sessions, and stores for them. -/
structure Pool where
  /-- Which store a session uses. -/
  storeOf : Nat → Nat
  sessions : Nat → Session
  stores : Nat → Store

namespace Pool

/-- Changes a family of things at one number. -/
def update {α : Type} (family : Nat → α) (id : Nat) (value : α) : Nat → α :=
  fun other => if other = id then value else family other

/-- Sessions that have not been given anything yet, using the stores that a function names. -/
def begin (storeOf : Nat → Nat) (keepsHistory : Bool) : Pool where
  storeOf
  sessions := fun _ => ⟨rootScope, keepsHistory, []⟩
  stores := fun _ => .initial

/-- Sessions that have nothing in common. -/
def isolated (keepsHistory : Bool) : Pool :=
  begin id keepsHistory

/-- Sessions with one store and one root scope for all. -/
def shared (keepsHistory : Bool) : Pool :=
  begin (fun _ => 0) keepsHistory

/-- Gives a source text to a session. -/
def execute (pool : Pool) (host : Host) (id : Nat) (source : String) :
    Except Escape Execution × Pool :=
  let (result, session, store) :=
    (pool.sessions id).execute host source (pool.stores (pool.storeOf id))
  (result,
    { pool with
      sessions := update pool.sessions id session
      stores := update pool.stores (pool.storeOf id) store })

/-- The names that a session has bound in its root scope, with their values. -/
def rootBindings (pool : Pool) (id : Nat) : List (String × Value) :=
  (pool.stores (pool.storeOf id)).bindings (pool.sessions id).root

end Pool

end Jet
