import Jet.Proofs.Evaluation.Lockstep

/-!
# Scopes within reach

A scope is reached from some scopes by going to outer scopes, and from a scope to the ones in which
the functions were made that are bound there, at any depth of arrays and hashes.

A run that starts from some scopes changes only scopes that are reached from them and scopes that it
has opened.  To show this, `Framed` compares a store with the one before the run, for a set of
scopes that holds everything that was reached and everything that is new: the set is closed, so that
every way that a run can take stays inside of it, and outside of it nothing is changed.  Keeping the
set closed is a discipline for a run beside itself, so every run keeps it.
-/

namespace Jet

/-! ## Captured scopes -/

namespace Value

/-- Whether a function inside of a value was made in a scope. -/
def Captures (value : Value) (scope : Nat) : Prop :=
  ∃ stamp parameters body, Occurs children (.function stamp parameters body scope) value

variable {value : Value} {scope : Nat}

/-- What is asked of the scopes of all functions inside of a value is asked of the captured ones. -/
theorem carries_iff_captures {inside : Nat → Prop} :
    (value.Carries fun _ _ scope => inside scope) ↔ ∀ scope, value.Captures scope → inside scope := by
  constructor
  · rintro carries scope ⟨stamp, parameters, body, occurs⟩
    exact carries stamp parameters body scope occurs
  · intro each stamp parameters body scope occurs
    exact each scope ⟨stamp, parameters, body, occurs⟩

/-- A clean value captures only scopes that exist. -/
theorem IsClean.captures_lt {rule : IntegerRule} {count : Nat}
    (clean : value.IsClean rule count) (captures : value.Captures scope) :
    scope < count := by
  rcases captures with ⟨stamp, parameters, body, occurs⟩
  have sound := clean _ occurs
  exact sound.1

/-- So does what a run in a clean store ends with. -/
theorem IsOutcome.captures_lt {rule : IntegerRule} {count : Nat}
    (outcome : value.IsOutcome rule count) (captures : value.Captures scope) :
    scope < count := by
  cases value with
  | returned payload =>
      rcases captures with ⟨stamp, parameters, body, occurs⟩
      cases occurs with
      | inside member deeper =>
          cases List.mem_singleton.mp member
          exact IsClean.captures_lt outcome ⟨stamp, parameters, body, deeper⟩
  | error fault =>
      rcases captures with ⟨stamp, parameters, body, occurs⟩
      cases occurs with
      | inside member deeper => cases member
  | _ => exact IsClean.captures_lt outcome captures

end Value

/-! ## Reachability -/

/-- Whether the outer scope of a scope and the scopes of all functions bound there are in a set. -/
structure Scope.LeadsInto (scope : Scope) (inside : Nat → Prop) : Prop where
  outer : ∀ outer ∈ scope.outer, inside outer
  captured : ∀ binding ∈ scope.bindings, ∀ captured, binding.2.Captures captured → inside captured

namespace Store

/-- Whether a scope is reached from some scopes of a store. -/
inductive Reaches (store : Store) (roots : Nat → Prop) : Nat → Prop where
  | root {id : Nat}
      (given : roots id) :
      Reaches store roots id
  | outer {id outer : Nat} {scope : Scope}
      (reached : Reaches store roots id)
      (found : store.scopes[id]? = some scope)
      (around : scope.outer = some outer) :
      Reaches store roots outer
  | captured {id captured : Nat} {scope : Scope} {binding : String × Value}
      (reached : Reaches store roots id)
      (found : store.scopes[id]? = some scope)
      (bound : binding ∈ scope.bindings)
      (captures : binding.2.Captures captured) :
      Reaches store roots captured

/-- Whether no way leads from the scopes inside of a set to a scope that is not. -/
def IsClosed (store : Store) (inside : Nat → Prop) : Prop :=
  ∀ (id : Nat) (scope : Scope), inside id → store.scopes[id]? = some scope → scope.LeadsInto inside

variable {store start : Store} {inside : Nat → Prop} {id : Nat} {name : String} {value : Value}

/-- A closed set holds what is reached from inside of it. -/
theorem IsClosed.of_reaches {roots : Nat → Prop}
    (closed : store.IsClosed inside) (given : ∀ id, roots id → inside id)
    (reached : store.Reaches roots id) :
    inside id := by
  induction reached with
  | root rooted => exact given _ rooted
  | outer _ found around induction => exact (closed _ _ induction found).outer _ around
  | captured _ found bound captures induction =>
      exact (closed _ _ induction found).captured _ bound _ captures

/-- A name is resolved inside of a closed set. -/
theorem IsClosed.resolveWithin {holder count : Nat}
    (closed : store.IsClosed inside) (start : inside id)
    (resolved : store.resolveWithin name count id = some holder) :
    inside holder := by
  induction count generalizing id with
  | zero => cases resolved
  | succ count induction =>
      rw [Store.resolveWithin] at resolved
      split at resolved
      · cases resolved
      rename_i scope found
      split at resolved
      · cases resolved
        exact start
      split at resolved
      · cases resolved
      · rename_i outer around
        exact induction ((closed id scope start found).outer outer around) resolved

/-! ## Frames -/

/-- Whether a store goes on from another one and differs from it only inside of a closed set. -/
structure Framed (start : Store) (inside : Nat → Prop) (store : Store) : Prop where
  grown : start.scopes.size ≤ store.scopes.size
  untouched : ∀ id, ¬ inside id → store.scopes[id]? = start.scopes[id]?
  closed : store.IsClosed inside

namespace Framed

/-- The stamps do not matter. -/
theorem of_scopes_eq {other : Store}
    (framed : Framed start inside store) (equal : other.scopes = store.scopes) :
    Framed start inside other := by
  constructor
  · rw [equal]
    exact framed.grown
  · rw [equal]
    exact framed.untouched
  · intro id scope member found
    exact framed.closed id scope member (equal ▸ found)

/-- A scope may be opened inside of a scope of the set, if new scopes belong to the set. -/
theorem openScope
    (framed : Framed start inside store) (fresh : ∀ id, start.scopes.size ≤ id → inside id)
    (known : inside id) :
    Framed start inside (store.openScope (some id)).2 := by
  have newest : inside store.scopes.size := fresh _ framed.grown
  constructor
  · rw [size_openScope]
    exact Nat.le_succ_of_le framed.grown
  · intro other outside
    have old : other ≠ store.scopes.size := fun same => outside (same ▸ newest)
    rw [Store.openScope, Array.getElem?_push, if_neg old]
    exact framed.untouched other outside
  · intro other scope member found
    rcases openScope_cases found with ⟨_, rfl⟩ | found
    · constructor
      · rintro outer ⟨⟩
        exact known
      · exact fun _ bound => absurd bound List.not_mem_nil
    · exact framed.closed other scope member found

/-- A name may be bound in a scope of the set to what captures scopes of the set. -/
theorem define
    (framed : Framed start inside store) (known : inside id)
    (captured : ∀ scope, value.Captures scope → inside scope) (name : String) :
    Framed start inside (store.define id name value) := by
  constructor
  · rw [size_define]
    exact framed.grown
  · intro other outside
    have different : id ≠ other := fun same => outside (same ▸ known)
    rw [Store.define, Array.getElem?_modify, if_neg different]
    exact framed.untouched other outside
  · intro other scope member found
    rcases define_cases found with ⟨old, stood, rfl⟩ | found
    · have leads := framed.closed other old member stood
      exact ⟨leads.outer, Scope.forall_mem_insert leads.captured captured⟩
    · exact framed.closed other scope member found

end Framed

end Store

/-! ## The discipline -/

/-- One run in a store that is framed by a closed set, in whose scopes it may do anything. -/
def Discipline.framed (start : Store) (inside : Nat → Prop) : Discipline where
  Tied store other := store = other ∧ start.Framed inside store
  Seen := inside
  Own := inside
  Allows _ := True

namespace Discipline

variable {start store : Store} {inside : Nat → Prop} {value : Value}

/-- The discipline forbids no tree. -/
theorem framed_permits (part : Part) :
    part.Permits (framed start inside).Allows :=
  fun _ _ _ _ => trivial

/-- All that the discipline asks of a value is where its functions were made. -/
theorem framed_meets_iff :
    (framed start inside).Meets value ↔ ∀ scope, value.Captures scope → inside scope := by
  rw [← Value.carries_iff_captures]
  constructor
  · intro meets stamp parameters body scope occurs
    exact (meets stamp parameters body scope occurs).2
  · intro carries stamp parameters body scope occurs
    exact ⟨framed_permits _, carries stamp parameters body scope occurs⟩

/-- Every step stays inside of a closed set to which new scopes belong. -/
theorem framed_isLawful (fresh : ∀ id, start.scopes.size ≤ id → inside id) :
    (framed start inside).IsLawful where
  seen_of_own := id
  freshStamp := by
    rintro store _ ⟨rfl, framed⟩
    exact ⟨rfl, ⟨rfl, framed.of_scopes_eq rfl⟩, fun _ _ => trivial⟩
  openScope := by
    rintro store _ scope ⟨rfl, framed⟩ known
    refine ⟨rfl, ⟨rfl, framed.openScope fresh known⟩, ?_⟩
    rintro id ⟨⟩
    exact fresh _ framed.grown
  lookup := by
    rintro store _ scope name ⟨rfl, framed⟩ known -
    refine ⟨rfl, ⟨rfl, framed⟩, ?_⟩
    rintro found ⟨⟩ value member
    rcases Store.exists_of_get? member with ⟨holder, bound, resolved, stood, member⟩
    have held := framed.closed.resolveWithin known resolved
    exact framed_meets_iff.mpr ((framed.closed holder bound held stood).captured _ member)
  define := by
    rintro store _ scope name value ⟨rfl, framed⟩ known - meets
    have bound := framed.define known (framed_meets_iff.mp meets) name
    exact ⟨rfl, ⟨rfl, bound⟩, fun _ _ => trivial⟩
  assign := by
    rintro store _ scope name value ⟨rfl, framed⟩ known - meets
    refine ⟨rfl, ⟨rfl, ?_⟩, fun _ _ => trivial⟩
    cases resolved : store.resolve scope name with
    | none =>
        rw [Computation.assign_of_resolve_eq_none resolved]
        exact framed
    | some holder =>
        rw [Computation.assign_of_resolve resolved]
        have held := framed.closed.resolveWithin known resolved
        exact framed.define held (framed_meets_iff.mp meets) name

end Discipline

/-! ## Runs -/

namespace Store

/-- Whether a scope was reached before a run, or was opened by it. -/
def Gains (store : Store) (roots : Nat → Prop) (after : Store) (id : Nat) : Prop :=
  store.Reaches roots id ∨ store.scopes.size ≤ id ∧ id < after.scopes.size

end Store

/-- The scopes at hand after a run: those it began with, and those of the functions it ends with. -/
def AtHand (store : Store) (roots : Nat → Prop) (run : Computation Value) (id : Nat) : Prop :=
  roots id ∨ ∃ value, (run store).1 = .ok value ∧ value.Captures id

/-- Whether a run that starts from some scopes touches and hands out only what it may reach. -/
structure StaysInReach (store : Store) (roots : Nat → Prop) (run : Computation Value) : Prop where
  /-- No other scope is changed. -/
  unreached : ∀ id < store.scopes.size, ¬ store.Reaches roots id →
    (run store).2.scopes[id]? = store.scopes[id]?
  /-- The functions in the result were made in scopes that were reached before or are new. -/
  result : ∀ value, (run store).1 = .ok value →
    ∀ captured, value.Captures captured → store.Gains roots (run store).2 captured
  /-- A scope that is reached afterwards was reached before or is new. -/
  reached : ∀ id, (run store).2.Reaches (AtHand store roots run) id →
    store.Gains roots (run store).2 id
  /-- So are the scopes of the functions that are bound in such a scope. -/
  bound : ∀ id scope, (run store).2.Reaches (AtHand store roots run) id →
    (run store).2.scopes[id]? = some scope →
      ∀ binding ∈ scope.bindings, ∀ captured, binding.2.Captures captured →
        store.Gains roots (run store).2 captured

namespace StaysInReach

variable {store : Store} {roots : Nat → Prop} {run : Computation Value}

/-- What is reached from some scopes, and every number that no scope has yet. -/
abbrev inside (store : Store) (roots : Nat → Prop) (id : Nat) : Prop :=
  store.Reaches roots id ∨ store.scopes.size ≤ id

/-- At the start nothing is changed, and what is reached is closed. -/
theorem framed (store : Store) (roots : Nat → Prop) :
    store.Framed (inside store roots) store := by
  refine ⟨Nat.le_refl _, fun _ _ => rfl, fun id scope member found => ?_⟩
  rcases member with reached | new
  · constructor
    · exact fun outer around => .inl (.outer reached found around)
    · exact fun binding bound captured captures => .inl (.captured reached found bound captures)
  · rw [Array.getElem?_eq_none new] at found
    cases found

/-- A clean run that keeps to what it may reach. -/
theorem of_inStep
    (known : ∀ id, roots id → id < store.scopes.size)
    (keeps : Keeps .any (Value.IsOutcome .any) store run)
    (inStep : InStep (.framed store (inside store roots))
      (Discipline.framed store (inside store roots)).Meets store store run) :
    StaysInReach store roots run := by
  have clean := keeps.clean
  have framed : store.Framed (inside store roots) (run store).2 := inStep.tied.2
  -- Among the scopes that exist, those inside are closed too, since the store is clean.
  have closed : (run store).2.IsClosed fun id =>
      inside store roots id ∧ id < (run store).2.scopes.size := by
    rintro id scope ⟨member, present⟩ found
    have leads := framed.closed id scope member found
    have kept := clean id scope found
    constructor
    · intro outer around
      exact ⟨leads.outer outer around, Nat.lt_trans (kept.outer outer around) present⟩
    · intro binding bound captured captures
      exact ⟨leads.captured binding bound captured captures,
        (kept.bindings binding bound).captures_lt captures⟩
  have gains {id : Nat} :
      inside store roots id ∧ id < (run store).2.scopes.size → store.Gains roots (run store).2 id := by
    rintro ⟨reached | new, known⟩
    · exact .inl reached
    · exact .inr ⟨new, known⟩
  have result {value : Value} {captured : Nat} (ended : (run store).1 = .ok value)
      (captures : value.Captures captured) :
      inside store roots captured ∧ captured < (run store).2.scopes.size :=
    ⟨Discipline.framed_meets_iff.mp (inStep.good value ended) captured captures,
      (keeps.good value ended).captures_lt captures⟩
  have start (id : Nat) (given : AtHand store roots run id) :
      inside store roots id ∧ id < (run store).2.scopes.size := by
    rcases given with rooted | ⟨value, ended, captures⟩
    · exact ⟨.inl (.root rooted), Nat.lt_of_lt_of_le (known id rooted) keeps.extended.grown⟩
    · exact result ended captures
  constructor
  · intro id old unreached
    refine framed.untouched id fun member => ?_
    rcases member with reached | new
    · exact unreached reached
    · exact Nat.not_le_of_lt old new
  · intro value ended captured captures
    exact gains (result ended captures)
  · intro id reached
    exact gains (closed.of_reaches start reached)
  · intro id scope reached found binding bound captured captures
    have member := closed.of_reaches start reached
    exact gains ((closed id scope member found).captured binding bound captured captures)

end StaysInReach

/--
In a clean store, evaluating a tree in a scope, or running a program in it, changes no scope that is
not reached from this scope and not opened on the way, however the evaluation ends; all functions
that come out of it, in the result or in a scope that can be reached afterwards, were made in scopes
that were reached before or are new.  For a call, the same holds of what is reached from the scopes
in which the functions inside of the callee and the arguments were made.
-/
theorem evaluation_staysInReach {store : Store} (clean : store.IsClean .any) (limit : Nat) :
    (∀ (part : Part) (scope : Nat), scope < store.scopes.size →
      StaysInReach store (· = scope) (part.evaluate limit scope)) ∧
    (∀ (program : Program) (scope : Nat), scope < store.scopes.size →
      StaysInReach store (· = scope) (program.run scope limit)) ∧
    (∀ (function : Value) (arguments : List Value),
      function.IsClean .any store.scopes.size →
      (∀ argument ∈ arguments, argument.IsClean .any store.scopes.size) →
      StaysInReach store
        (fun id => function.Captures id ∨ ∃ argument ∈ arguments, argument.Captures id)
        (applyFunction limit function arguments)) := by
  have lawful (roots : Nat → Prop) :
      (Discipline.framed store (StaysInReach.inside store roots)).IsLawful :=
    Discipline.framed_isLawful fun id new => .inr new
  have start (roots : Nat → Prop) := StaysInReach.framed store roots
  refine ⟨fun part scope known => ?_, fun program scope known => ?_,
    fun function arguments functionClean given => ?_⟩
  · have keeps := Part.evaluate_keeps (IntegerRule.obeys_any part) clean known limit
    have inStep := Part.evaluate_inStep (lawful (· = scope)) (Discipline.framed_permits part)
      ⟨rfl, start _⟩ (.inl (.root rfl)) limit
    exact .of_inStep (fun id same => same ▸ known) keeps inStep
  · have keeps := Program.run_keeps (IntegerRule.obeys_any (.block program.statements)) clean known
      limit
    have inStep := Program.run_inStep (lawful (· = scope))
      (Discipline.framed_permits (.block program.statements)) ⟨rfl, start _⟩ (.inl (.root rfl)) limit
    exact .of_inStep (fun id same => same ▸ known) keeps.isOutcome inStep
  · have keeps := applyFunction_keeps .any limit function arguments store clean
      functionClean.isCallable given
    have inStep := applyFunction_inStep (lawful _) limit function arguments store store
      ⟨rfl, start fun id => function.Captures id ∨ ∃ argument ∈ arguments, argument.Captures id⟩
      (Discipline.framed_meets_iff.mpr fun scope captures => .inl (.root (.inl captures)))
      (fun argument member => Discipline.framed_meets_iff.mpr fun scope captures =>
        .inl (.root (.inr ⟨argument, member, captures⟩)))
    refine .of_inStep ?_ keeps.isOutcome inStep
    rintro id (captures | ⟨argument, member, captures⟩)
    · exact functionClean.captures_lt captures
    · exact (given argument member).captures_lt captures

/-- A store with a function that counts in a scope of its own, and a scope out of its reach. -/
def Store.counter : Store :=
  ⟨#[⟨[("tick", .function 0 []
      [.expression (.assign "count" (.binary (.name "count") "+" (.integer 1)))] 1)], none⟩,
    ⟨[("count", .integer 0)], some 0⟩, ⟨[("count", .integer 7)], some 0⟩], 1⟩

/-- From the root the function is called, and counts in the scope where it was made. -/
theorem evaluation_staysInReach_counter :
    Store.counter.IsClean .any ∧ 0 < Store.counter.scopes.size ∧
      StaysInReach Store.counter (· = 0)
        (Part.evaluate 1 (.expression (.call (.name "tick") [])) 0) ∧
      (Part.evaluate 1 (.expression (.call (.name "tick") [])) 0 Store.counter).2.bindings 1 =
        [("count", .integer 1)] := by
  have clean : Store.counter.IsClean .any := by
    intro id scope found
    match id, found with
    | 0, found =>
        cases found
        refine ⟨List.forall_mem_singleton.mpr (Obeys.leaf ⟨?_, IntegerRule.obeys_any _⟩ rfl), nofun⟩
        decide
    | 1, found | 2, found =>
        cases found
        refine ⟨List.forall_mem_singleton.mpr (Value.isClean_integer trivial), ?_⟩
        rintro outer ⟨⟩
        decide
    | id + 3, found => cases found
  exact ⟨clean, by decide, (evaluation_staysInReach clean 1).1 _ 0 (by decide), rfl⟩

end Jet
