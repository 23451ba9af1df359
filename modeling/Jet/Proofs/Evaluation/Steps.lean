import Jet.Computation

/-!
# One computation after another

Computations one behind the other may be grouped in any way, and one that does nothing but give a
value may be left out.  `andThen` leaves out what follows a signal.  An assignment writes where its
name is bound, if it is.
-/

namespace Jet.Computation

variable {α β : Type} {store between : Store}

/-- Computations are put one behind the other by the laws of a monad. -/
instance : LawfulMonad Computation :=
  .mk' Computation
    (fun run => by
      funext store
      change Computation.bind run _ store = run store
      unfold Computation.bind
      rcases run store with ⟨_ | _, _⟩ <;> rfl)
    (fun _ _ => rfl)
    (fun first next last => by
      funext store
      change Computation.bind (Computation.bind first next) last store =
        Computation.bind first (fun value => Computation.bind (next value) last) store
      unfold Computation.bind
      rcases first store with ⟨_ | _, _⟩ <;> rfl)

/-- What follows a result starts in the store that was left. -/
theorem bind_of_ok {first : Computation α} {value : α}
    (ended : first store = (.ok value, between)) (next : α → Computation β) :
    (first >>= next) store = next value between := by
  change Computation.bind first next store = _
  rw [Computation.bind, ended]

/-- What follows is left out if the first computation is cut off. -/
theorem bind_of_error {first : Computation α} {reason : Halt}
    (ended : first store = (.error reason, between)) (next : α → Computation β) :
    (first >>= next) store = (.error reason, between) := by
  change Computation.bind first next store = _
  rw [Computation.bind, ended]

/-- An assignment gives the value to its name where that is bound. -/
theorem assign_of_resolve {scope holder : Nat} {name : String}
    (resolved : store.resolve scope name = some holder) (value : Value) :
    assign scope name value store = (.ok true, store.define holder name value) := by
  rw [assign, Store.assign?, resolved]

/-- An assignment to a name that is not bound does nothing. -/
theorem assign_of_resolve_eq_none {scope : Nat} {name : String}
    (resolved : store.resolve scope name = none) (value : Value) :
    assign scope name value store = (.ok false, store) := by
  rw [assign, Store.assign?, resolved]

theorem andThen_pure {value : Value}
    (noSignal : value.isSignal = false) (next : Value → Computation Value) :
    andThen (pure value) next = next value := by
  change (if value.isSignal then _ else next value) = next value
  rw [noSignal]
  rfl

/-- Going on with the value alone is not going on at all. -/
theorem andThen_pure_right (first : Computation Value) :
    andThen first pure = first := by
  simp only [andThen, ite_self, bind_pure]

/-- What goes on with a value need not be known for signals. -/
theorem andThen_congr {first : Computation Value} {next other : Value → Computation Value}
    (same : ∀ value, value.isSignal = false → next value = other value) :
    andThen first next = andThen first other := by
  unfold andThen
  congr 1
  funext value
  split
  · rfl
  · rename_i noSignal
    exact same value (Bool.eq_false_iff.mpr noSignal)

/-- Going on after a computation, by how that ends. -/
theorem andThen_apply (first : Computation Value) (next : Value → Computation Value)
    (store : Store) :
    andThen first next store =
      match first store with
      | (.ok value, after) => if value.isSignal then (.ok value, after) else next value after
      | (.error reason, after) => (.error reason, after) := by
  change Computation.bind first _ store = _
  unfold Computation.bind
  rcases first store with ⟨reason | value, after⟩
  · rfl
  · dsimp only
    split <;> rfl

theorem andThen_assoc (first : Computation Value) (next last : Value → Computation Value) :
    andThen (andThen first next) last = andThen first fun value => andThen (next value) last := by
  funext store
  simp only [andThen_apply]
  rcases first store with ⟨reason | value, after⟩
  · rfl
  · by_cases signal : value.isSignal = true
    · simp only [signal, if_true]
    · simp only [signal, Bool.false_eq_true, if_false]

end Jet.Computation
