import Jet.Evaluation
import Jet.Proofs.Evaluation.Steps
import Jet.Proofs.Value.Clean

/-!
# Hygiene of the store

Whatever is evaluated in a clean store leaves a clean store, whether it ends with a value, with a
signal or not at all.  What it ends with is clean too, or a signal whose payload is, and no scope
that was there before goes away or gets another outer scope.  A call and a program never end with
the signal that returns a value.

`Keeps` says this of one run from one store.  It is shown for the steps that touch the store, for
one computation behind another, and so, by induction on the tree, for the evaluation of every tree
over any way of calling functions that keeps the store clean; by induction on the number of nested
calls that are allowed, this holds of the calls themselves.
-/

namespace Jet

variable {α β : Type} {rule : IntegerRule} {store : Store}

/-- The run leaves a clean store that goes on from the one before, and only good results. -/
structure Keeps (rule : IntegerRule) (good : Nat → α → Prop) (store : Store)
    (run : Computation α) : Prop where
  clean : (run store).2.IsClean rule
  extended : (run store).2.Extends store
  good : ∀ value, (run store).1 = .ok value → good (run store).2.scopes.size value

namespace Keeps

variable {good middle : Nat → α → Prop} {goodNext : Nat → β → Prop} {scope : Nat}

open Jet.Computation

/-- A run is judged by where it gets from the store. -/
theorem of_run {run : Computation α} {result : Except Halt α × Store}
    (equal : run store = result) (clean : result.2.IsClean rule) (extended : result.2.Extends store)
    (holds : ∀ value, result.1 = .ok value → good result.2.scopes.size value) :
    Keeps rule good store run := by
  cases equal
  exact ⟨clean, extended, holds⟩

theorem mono {run : Computation α} {weaker : Nat → α → Prop}
    (keeps : Keeps rule good store run)
    (implies : ∀ count value, good count value → weaker count value) :
    Keeps rule weaker store run :=
  ⟨keeps.clean, keeps.extended, fun value ended => implies _ value (keeps.good value ended)⟩

theorem isOutcome {run : Computation Value}
    (keeps : Keeps rule (Value.IsSettled rule) store run) :
    Keeps rule (Value.IsOutcome rule) store run :=
  keeps.mono fun _ _ => Value.IsSettled.isOutcome

theorem pure {value : α}
    (clean : store.IsClean rule) (holds : good store.scopes.size value) :
    Keeps rule good store (Pure.pure value) := by
  refine ⟨clean, .refl store, ?_⟩
  rintro other ⟨⟩
  exact holds

theorem halt {reason : Halt}
    (clean : store.IsClean rule) :
    Keeps rule good store (Computation.halt reason) :=
  ⟨clean, .refl store, nofun⟩

theorem ofExcept {result : Except Halt α}
    (clean : store.IsClean rule) (holds : ∀ value, result = .ok value → good store.scopes.size value) :
    Keeps rule good store (Computation.ofExcept result) :=
  ⟨clean, .refl store, holds⟩

/-- A computation behind another keeps the store clean if it does so from every store between. -/
theorem bind {first : Computation α} {next : α → Computation β}
    (keeps : Keeps rule middle store first)
    (later : ∀ value (between : Store), between.IsClean rule → between.Extends store →
      middle between.scopes.size value → Keeps rule goodNext between (next value)) :
    Keeps rule goodNext store (first >>= next) := by
  rcases keeps with ⟨clean, extended, holds⟩
  rcases equal : first store with ⟨outcome, between⟩
  rw [equal] at clean extended holds
  cases outcome with
  | error reason => exact of_run (bind_of_error equal next) clean extended nofun
  | ok value =>
      have last := later value between clean extended (holds value rfl)
      exact of_run (bind_of_ok equal next) last.clean (last.extended.trans extended) last.good

/-- What follows a computation is only reached by a clean value. -/
theorem andThen {first : Computation Value} {next : Value → Computation Value}
    (keeps : Keeps rule (Value.IsOutcome rule) store first)
    (later : ∀ value (between : Store), between.IsClean rule → between.Extends store →
      value.IsClean rule between.scopes.size →
        Keeps rule (Value.IsOutcome rule) between (next value)) :
    Keeps rule (Value.IsOutcome rule) store (Computation.andThen first next) := by
  refine bind keeps fun value between clean extended outcome => ?_
  split
  · exact pure clean outcome
  · rename_i noSignal
    exact later value between clean extended (outcome.isClean (Bool.eq_false_iff.mpr noSignal))

theorem freshStamp
    (clean : store.IsClean rule) :
    Keeps rule (fun _ _ => True) store (Computation.freshStamp) :=
  ⟨clean, ⟨Nat.le_refl _, fun _ _ => rfl⟩, fun _ _ => trivial⟩

/-- A new scope inside an existing one is there afterwards. -/
theorem openScope
    (clean : store.IsClean rule) (known : scope < store.scopes.size) :
    Keeps rule (fun count id => id < count) store (Computation.openScope scope) := by
  refine ⟨clean.openScope ?_, Store.extends_openScope store _, ?_⟩
  · rintro id ⟨⟩
    exact known
  · rintro id ⟨⟩
    change store.scopes.size < (store.openScope (some scope)).2.scopes.size
    rw [Store.size_openScope]
    exact Nat.lt_succ_self _

theorem lookup
    (clean : store.IsClean rule) (name : String) :
    Keeps rule (fun count (found : Option Value) => ∀ value ∈ found, value.IsClean rule count) store
      (Computation.lookup scope name) := by
  refine ⟨clean, .refl store, ?_⟩
  rintro found ⟨⟩ value member
  exact clean.get? member

theorem define {value : Value}
    (clean : store.IsClean rule) (added : value.IsClean rule store.scopes.size) (name : String) :
    Keeps rule (fun _ _ => True) store (Computation.define scope name value) :=
  ⟨clean.define added scope name, Store.extends_define store scope name value, fun _ _ => trivial⟩

theorem defineAll {bindings : List (String × Value)}
    (clean : store.IsClean rule)
    (added : ∀ binding ∈ bindings, binding.2.IsClean rule store.scopes.size) :
    Keeps rule (fun _ _ => True) store (Computation.defineAll scope bindings) := by
  induction bindings generalizing store with
  | nil => exact pure clean trivial
  | cons head rest induction =>
      rw [List.forall_mem_cons] at added
      refine bind (define clean added.1 _) fun _ between clean extended _ => ?_
      exact induction clean fun binding member => (added.2 binding member).mono extended.grown

theorem assign {value : Value}
    (clean : store.IsClean rule) (added : value.IsClean rule store.scopes.size) (name : String) :
    Keeps rule (fun _ _ => True) store (Computation.assign scope name value) := by
  cases resolved : store.resolve scope name with
  | none =>
      exact of_run (assign_of_resolve_eq_none resolved value) clean (.refl store) fun _ _ => trivial
  | some holder =>
      exact of_run (assign_of_resolve resolved value) (clean.define added holder name)
        (Store.extends_define store holder name value) fun _ _ => trivial

theorem newArray {elements : List Value}
    (clean : store.IsClean rule)
    (inside : ∀ element ∈ elements, element.IsClean rule store.scopes.size) :
    Keeps rule (Value.IsSettled rule) store (Computation.newArray elements) := by
  refine bind (freshStamp clean) fun stamp between clean extended _ => pure clean ?_
  exact (Value.isClean_array stamp fun element member =>
    (inside element member).mono extended.grown).isSettled

theorem newHash {entries : List Entry}
    (clean : store.IsClean rule)
    (inside : ∀ entry ∈ entries, entry.IsClean rule store.scopes.size) :
    Keeps rule (Value.IsSettled rule) store (Computation.newHash entries) := by
  refine bind (freshStamp clean) fun stamp between clean extended _ => pure clean ?_
  exact ((Entry.isClean_hash_iff stamp).mpr fun entry member =>
    (inside entry member).mono extended.grown).isSettled

theorem renew {value : Value}
    (clean : store.IsClean rule) (settled : value.IsSettled rule store.scopes.size) :
    Keeps rule (Value.IsSettled rule) store (Computation.renew value) := by
  unfold Computation.renew
  split
  · exact bind (freshStamp clean) fun stamp between clean _ _ =>
      pure clean (Obeys.leaf trivial rfl)
  · exact pure clean settled

/-! ### Names -/

theorem evaluateName
    (clean : store.IsClean rule) (name : String) :
    Keeps rule (Value.IsOutcome rule) store (Jet.evaluateName scope name) := by
  refine bind (lookup clean name) fun found between clean _ foundClean => ?_
  cases found with
  | some value => exact pure clean (foundClean value rfl).isOutcome
  | none =>
      dsimp only
      split
      · exact pure clean (Obeys.leaf trivial rfl)
      · exact pure clean trivial

theorem assignName {value : Value}
    (clean : store.IsClean rule) (added : value.IsClean rule store.scopes.size) (name : String) :
    Keeps rule (Value.IsOutcome rule) store (Jet.assignName scope name value) := by
  refine bind (assign clean added name) fun assigned between clean extended _ => ?_
  cases assigned with
  | true => exact pure clean (added.mono extended.grown).isOutcome
  | false => exact pure clean trivial

/-! ### Builtin functions -/

theorem onArray {builtin : Builtin} {argument : Value} {next : List Value → Computation Value}
    (clean : store.IsClean rule) (given : argument.IsClean rule store.scopes.size)
    (later : ∀ elements : List Value, (∀ element ∈ elements,
      element.IsClean rule store.scopes.size) →
        Keeps rule (Value.IsSettled rule) store (next elements)) :
    Keeps rule (Value.IsSettled rule) store (Builtin.onArray builtin argument next) := by
  unfold Builtin.onArray
  split
  · exact later _ fun element => given.child
  · exact pure clean trivial

theorem builtin {arguments : List Value}
    (clean : store.IsClean rule)
    (given : ∀ argument ∈ arguments, argument.IsClean rule store.scopes.size) (builtin : Builtin) :
    Keeps rule (Value.IsSettled rule) store (builtin.apply arguments) := by
  unfold Builtin.apply
  split
  · exact pure clean (isSettled_length _)
  · refine onArray clean (given _ List.mem_cons_self) fun elements inside => pure clean ?_
    cases elements with
    | nil => exact Obeys.leaf trivial rfl
    | cons first rest => exact (inside first List.mem_cons_self).isSettled
  · refine onArray clean (given _ List.mem_cons_self) fun elements inside => pure clean ?_
    rw [List.getLastD_eq_getLast?]
    cases last : elements.getLast? with
    | none => exact Obeys.leaf trivial rfl
    | some element => exact (inside element (List.mem_of_getLast? last)).isSettled
  · refine onArray clean (given _ List.mem_cons_self) fun elements inside => ?_
    cases elements with
    | nil => exact pure clean (Obeys.leaf trivial rfl)
    | cons first rest =>
        exact newArray clean fun element member => inside element (List.mem_cons_of_mem _ member)
  · refine onArray clean (given _ List.mem_cons_self) fun elements inside => newArray clean ?_
    refine List.forall_mem_append.mpr ⟨inside, List.forall_mem_singleton.mpr ?_⟩
    exact given _ (List.mem_cons_of_mem _ List.mem_cons_self)
  · exact pure clean (Obeys.leaf trivial rfl)
  · exact pure clean (Obeys.leaf trivial rfl)
  · exact pure clean trivial

end Keeps

/-! ## Trees -/

/-- Whether calling a value asks for nothing but an existing scope and an allowed body. -/
def Value.IsCallable (rule : IntegerRule) (count : Nat) : Value → Prop
  | .function _ _ body scope => scope < count ∧ Part.Obeys rule.Allows (.block body)
  | _ => True

theorem Value.IsClean.isCallable {value : Value} {count : Nat}
    (clean : value.IsClean rule count) :
    value.IsCallable rule count := by
  cases value with
  | function => exact clean.holds
  | _ => trivial

/-- A way of calling functions keeps the store clean when it is given clean arguments. -/
def Call.Keeps (rule : IntegerRule) (call : Call) : Prop :=
  ∀ (function : Value) (arguments : List Value) (store : Store), store.IsClean rule →
    function.IsCallable rule store.scopes.size →
    (∀ argument ∈ arguments, argument.IsClean rule store.scopes.size) →
    Jet.Keeps rule (Value.IsSettled rule) store (call function arguments)

/-- The evaluation of a part in any existing scope keeps the store clean. -/
def Part.Keeps (rule : IntegerRule) (call : Call) : Part → Prop
  | .expression tree => ∀ (store : Store) (scope : Nat), store.IsClean rule →
      scope < store.scopes.size →
      Jet.Keeps rule (Value.IsOutcome rule) store (tree.evaluate call scope)
  | .statement tree => ∀ (store : Store) (scope : Nat), store.IsClean rule →
      scope < store.scopes.size →
      Jet.Keeps rule (Value.IsOutcome rule) store (tree.evaluate call scope)
  | .block trees => ∀ (store : Store) (scope : Nat) (last : Value), store.IsClean rule →
      scope < store.scopes.size → last.IsOutcome rule store.scopes.size →
      Jet.Keeps rule (Value.IsOutcome rule) store (evaluateStatements call trees last scope)

/-- What was gathered from some trees, or a signal that was met among them. -/
def Gathered.IsOutcome (rule : IntegerRule) (inside : Nat → α → Prop) (count : Nat) :
    Gathered α → Prop
  | .ok values => inside count values
  | .error signal => signal.IsOutcome rule count

namespace Keeps

open Jet.Computation

variable {call : Call} {scope : Nat}

theorem evaluateAll {trees : List Expr}
    (each : ∀ tree ∈ trees, Part.Keeps rule call (.expression tree))
    (clean : store.IsClean rule) (known : scope < store.scopes.size) :
    Keeps rule (Gathered.IsOutcome rule fun count (values : List Value) =>
      ∀ value ∈ values, value.IsClean rule count) store (Jet.evaluateAll call trees scope) := by
  induction trees generalizing store with
  | nil => exact pure clean fun _ member => absurd member List.not_mem_nil
  | cons tree rest induction =>
      rw [List.forall_mem_cons] at each
      rw [Jet.evaluateAll]
      refine bind (each.1 store scope clean known) fun value between clean extended outcome => ?_
      split
      · exact pure clean outcome
      · rename_i noSignal
        have first := outcome.isClean (Bool.eq_false_iff.mpr noSignal)
        have known := Nat.lt_of_lt_of_le known extended.grown
        refine bind (induction each.2 clean known) fun gathered after clean extended inside => ?_
        cases gathered with
        | error signal => exact pure clean inside
        | ok values =>
            exact pure clean (List.forall_mem_cons.mpr ⟨first.mono extended.grown, inside⟩)

theorem evaluatePairs {trees : List (Expr × Expr)} {entries : List Entry}
    (each : ∀ pair ∈ trees, Part.Keeps rule call (.expression pair.1) ∧
      Part.Keeps rule call (.expression pair.2))
    (clean : store.IsClean rule) (known : scope < store.scopes.size)
    (inside : ∀ entry ∈ entries, entry.IsClean rule store.scopes.size) :
    Keeps rule (Gathered.IsOutcome rule fun count (entries : List Entry) =>
      ∀ entry ∈ entries, entry.IsClean rule count) store
        (Jet.evaluatePairs call trees entries scope) := by
  induction trees generalizing store entries with
  | nil => exact pure clean inside
  | cons pair rest induction =>
      rcases pair with ⟨keyTree, valueTree⟩
      rw [List.forall_mem_cons] at each
      rw [Jet.evaluatePairs]
      refine bind (each.1.1 store scope clean known) fun shown between clean extended outcome => ?_
      have known := Nat.lt_of_lt_of_le known extended.grown
      split
      · exact pure clean outcome
      rename_i noSignal
      have shownClean := outcome.isClean (Bool.eq_false_iff.mpr noSignal)
      split
      · exact pure clean trivial
      rename_i key found
      refine bind (each.1.2 between scope clean known) fun value after clean later outcome => ?_
      split
      · exact pure clean outcome
      rename_i noSignal
      have valueClean := outcome.isClean (Bool.eq_false_iff.mpr noSignal)
      refine induction each.2 clean (Nat.lt_of_lt_of_le known later.grown) ?_
      refine Entry.isClean_insert (fun entry member => ?_)
        ⟨found, shownClean.mono later.grown, valueClean⟩
      exact (inside entry member).mono (Nat.le_trans extended.grown later.grown)

/-- Statements in a new scope. -/
theorem inner {trees : List Stmt}
    (block : Part.Keeps rule call (.block trees))
    (clean : store.IsClean rule) (known : scope < store.scopes.size) :
    Keeps rule (Value.IsOutcome rule) store
      (Computation.openScope scope >>= evaluateStatements call trees .null) :=
  bind (openScope clean known) fun id between clean _ opened =>
    block between id .null clean opened (Obeys.leaf trivial rfl)

theorem block {trees : List Stmt}
    (each : ∀ tree ∈ trees, Part.Keeps rule call (.statement tree)) :
    Part.Keeps rule call (.block trees) := by
  intro store scope last clean known outcome
  induction trees generalizing store last with
  | nil => exact pure clean outcome
  | cons tree rest induction =>
      rw [List.forall_mem_cons] at each
      rw [evaluateStatements]
      refine andThen (each.1 store scope clean known) fun value between clean extended inside => ?_
      exact induction each.2 between value clean (Nat.lt_of_lt_of_le known extended.grown)
        inside.isOutcome

theorem statement {tree : Stmt}
    (each : ∀ child ∈ Part.children (.statement tree), Part.Keeps rule call child) :
    Part.Keeps rule call (.statement tree) := by
  intro store scope clean known
  cases tree with
  | bind name value =>
      have valueKeeps := each _ List.mem_cons_self
      rw [Stmt.evaluate]
      refine andThen (valueKeeps store scope clean known) fun bound between clean _ inside => ?_
      exact bind (define clean inside name) fun _ after clean _ _ =>
        pure clean (Obeys.leaf trivial rfl)
  | «return» value =>
      cases value with
      | none => exact pure clean (Obeys.leaf trivial rfl)
      | some value =>
          have valueKeeps := each _ List.mem_cons_self
          rw [Stmt.evaluate]
          exact andThen (valueKeeps store scope clean known) fun result between clean _ inside =>
            pure clean inside
  | expression value => exact each _ List.mem_cons_self store scope clean known
  | block body => exact inner (each _ List.mem_cons_self) clean known

theorem binary {left right : Expr}
    (leftKeeps : Part.Keeps rule call (.expression left))
    (rightKeeps : Part.Keeps rule call (.expression right)) (operator : String) :
    Part.Keeps rule call (.expression (.binary left operator right)) := by
  intro store scope clean known
  rw [Expr.evaluate]
  refine andThen (leftKeeps store scope clean known) fun leftValue between clean extended inside => ?_
  have known := Nat.lt_of_lt_of_le known extended.grown
  split
  · split
    · exact pure clean (Obeys.leaf trivial rfl)
    · exact andThen (rightKeeps between scope clean known) fun rightValue after clean _ _ =>
        pure clean (Obeys.leaf trivial rfl)
  · refine andThen (rightKeeps between scope clean known) fun rightValue after clean later _ => ?_
    refine bind (ofExcept clean fun value computed => ?_) fun value last clean _ settled =>
      (renew clean settled).isOutcome
    exact isSettled_binaryOperation (inside.mono later.grown) computed

theorem conditional {condition : Expr} {consequence : List Stmt} {alternative : Option (List Stmt)}
    (conditionKeeps : Part.Keeps rule call (.expression condition))
    (consequenceKeeps : Part.Keeps rule call (.block consequence))
    (othersKeep : ∀ block ∈ alternative, Part.Keeps rule call (.block block)) :
    Part.Keeps rule call (.expression (.conditional condition consequence alternative)) := by
  intro store scope clean known
  rw [Expr.evaluate_conditional]
  refine andThen (conditionKeeps store scope clean known) fun value between clean extended _ => ?_
  have known := Nat.lt_of_lt_of_le known extended.grown
  split
  · exact inner consequenceKeeps clean known
  · cases alternative with
    | none => exact pure clean (Obeys.leaf trivial rfl)
    | some block => exact inner (othersKeep block rfl) clean known

theorem callExpression {callee : Expr} {arguments : List Expr}
    (calls : call.Keeps rule)
    (calleeKeeps : Part.Keeps rule call (.expression callee))
    (each : ∀ tree ∈ arguments, Part.Keeps rule call (.expression tree)) :
    Part.Keeps rule call (.expression (.call callee arguments)) := by
  intro store scope clean known
  rw [Expr.evaluate]
  refine andThen (calleeKeeps store scope clean known) fun function between clean extended inside => ?_
  have known := Nat.lt_of_lt_of_le known extended.grown
  refine bind (evaluateAll each clean known) fun gathered after clean later outcome => ?_
  cases gathered with
  | error signal => exact pure clean outcome
  | ok values =>
      have callable := (inside.mono later.grown).isCallable
      exact (calls function values after clean callable outcome).isOutcome

theorem array {elements : List Expr}
    (each : ∀ tree ∈ elements, Part.Keeps rule call (.expression tree)) :
    Part.Keeps rule call (.expression (.array elements)) := by
  intro store scope clean known
  rw [Expr.evaluate]
  refine bind (evaluateAll each clean known) fun gathered between clean _ outcome => ?_
  cases gathered with
  | error signal => exact pure clean outcome
  | ok values => exact (newArray clean outcome).isOutcome

theorem hash {pairs : List (Expr × Expr)}
    (each : ∀ pair ∈ pairs, Part.Keeps rule call (.expression pair.1) ∧
      Part.Keeps rule call (.expression pair.2)) :
    Part.Keeps rule call (.expression (.hash pairs)) := by
  intro store scope clean known
  rw [Expr.evaluate]
  have none : ∀ entry ∈ ([] : List Entry), entry.IsClean rule store.scopes.size :=
    fun _ member => absurd member List.not_mem_nil
  refine bind (evaluatePairs each clean known none) fun gathered between clean _ outcome => ?_
  cases gathered with
  | error signal => exact pure clean outcome
  | ok entries => exact (newHash clean outcome).isOutcome

theorem index {collection position : Expr}
    (collectionKeeps : Part.Keeps rule call (.expression collection))
    (positionKeeps : Part.Keeps rule call (.expression position)) :
    Part.Keeps rule call (.expression (.index collection position)) := by
  intro store scope clean known
  rw [Expr.evaluate]
  refine andThen (collectionKeeps store scope clean known) fun value between clean extended inside => ?_
  have known := Nat.lt_of_lt_of_le known extended.grown
  refine andThen (positionKeeps between scope clean known) fun place after clean later _ => ?_
  exact pure clean (isSettled_indexOperation (inside.mono later.grown) place).isOutcome

/-- A function literal makes a function of the scope that it stands in. -/
theorem function {body : List Stmt}
    (allowed : Part.Obeys rule.Allows (.block body)) (parameters : List String) :
    Part.Keeps rule call (.expression (.function parameters body)) := by
  intro store scope clean known
  rw [Expr.evaluate]
  refine bind (freshStamp clean) fun stamp between clean extended _ => pure clean ?_
  exact Obeys.leaf ⟨Nat.lt_of_lt_of_le known extended.grown, allowed⟩ rfl

theorem expression {tree : Expr}
    (calls : call.Keeps rule) (allowed : Part.Obeys rule.Allows (.expression tree))
    (each : ∀ child ∈ Part.children (.expression tree), Part.Keeps rule call child) :
    Part.Keeps rule call (.expression tree) := by
  cases tree with
  | name name => exact fun store scope clean _ => evaluateName clean name
  | integer value =>
      have number := rule.of_literal value allowed.holds
      exact fun store scope clean _ => pure clean (Value.isClean_integer number)
  | float | boolean | string | null =>
      exact fun store scope clean _ => pure clean (Obeys.leaf trivial rfl)
  | unary operator operand =>
      intro store scope clean known
      rw [Expr.evaluate]
      exact andThen (each _ List.mem_cons_self store scope clean known)
        fun value between clean _ inside =>
          (renew clean (isSettled_unaryOperation operator inside)).isOutcome
  | binary left operator right =>
      exact binary (each _ List.mem_cons_self) (each _ (List.mem_cons_of_mem _ List.mem_cons_self))
        operator
  | assign name value =>
      intro store scope clean known
      rw [Expr.evaluate]
      exact andThen (each _ List.mem_cons_self store scope clean known)
        fun value between clean _ inside => assignName clean inside name
  | conditional condition consequence alternative =>
      rcases Part.forall_mem_children_conditional.mp each with ⟨condition, consequence, others⟩
      exact conditional condition consequence others
  | function parameters body => exact function (allowed.child List.mem_cons_self) parameters
  | call callee arguments =>
      exact callExpression calls (each _ List.mem_cons_self) fun tree member =>
        each _ (List.mem_cons_of_mem _ (List.mem_map_of_mem member))
  | array elements => exact array fun tree member => each _ (List.mem_map_of_mem member)
  | index collection position =>
      exact index (each _ List.mem_cons_self) (each _ (List.mem_cons_of_mem _ List.mem_cons_self))
  | hash pairs => exact hash (Part.forall_mem_children_hash.mp each)

end Keeps

/-- Over calls that keep the store clean, so does the evaluation of every allowed tree. -/
theorem Part.keeps {call : Call} (calls : call.Keeps rule) (whole : Part)
    (allowed : Part.Obeys rule.Allows whole) :
    whole.Keeps rule call := by
  induction whole using Part.induction with
  | step whole induction =>
      have each : ∀ child ∈ whole.children, child.Keeps rule call := fun child member =>
        induction child member (allowed.child member)
      cases whole with
      | expression tree => exact .expression calls allowed each
      | statement tree => exact .statement each
      | block trees => exact .block fun tree member => each _ (List.mem_map_of_mem member)

/-! ## Calls and programs -/

theorem Value.isSettled_unwrapped {count : Nat} {value : Value}
    (outcome : value.IsOutcome rule count) :
    value.unwrapped.IsSettled rule count := by
  cases value with
  | returned payload => exact IsClean.isSettled outcome
  | _ => exact outcome

/-- The body of a function keeps the store clean in a new scope that binds the parameters. -/
theorem Keeps.body {call : Call} {captured : Nat} {body : List Stmt}
    {bindings : List (String × Value)}
    (calls : call.Keeps rule) (allowed : Part.Obeys rule.Allows (.block body))
    (clean : store.IsClean rule) (known : captured < store.scopes.size)
    (given : ∀ binding ∈ bindings, binding.2.IsClean rule store.scopes.size) :
    Keeps rule (Value.IsSettled rule) store (do
      let scope ← Computation.openScope captured
      Computation.defineAll scope bindings
      let result ← evaluateStatements call body .null scope
      Pure.pure result.unwrapped) := by
  refine bind (openScope clean known) fun scope opened clean extended inside => ?_
  refine bind (defineAll clean fun binding member => (given binding member).mono extended.grown)
    fun _ bound clean extended _ => ?_
  have known := Nat.lt_of_lt_of_le inside extended.grown
  refine bind (Part.keeps calls (.block body) allowed bound scope .null clean known
    (Obeys.leaf trivial rfl)) fun result after clean _ outcome => ?_
  exact pure clean (Value.isSettled_unwrapped outcome)

/-- Calls keep the store clean, however deep they may nest. -/
theorem applyFunction_keeps (rule : IntegerRule) (limit : Nat) :
    Call.Keeps rule (applyFunction limit) := by
  intro function arguments store clean callable given
  unfold applyFunction
  split
  · split
    · exact .pure clean trivial
    · cases limit with
      | zero => exact .halt clean
      | succ limit =>
          -- The calls inside of the body are limited by one less, which is what the proof recurs on.
          have calls := applyFunction_keeps rule limit
          refine .body calls callable.2 clean callable.1 fun binding member => ?_
          exact given binding.2 (List.of_mem_zip member).2
  · exact .builtin clean given _
  · exact .pure clean trivial

/-- A program keeps the store clean. -/
theorem Program.run_keeps {program : Program} {scope : Nat}
    (allowed : Part.Obeys rule.Allows (.block program.statements))
    (clean : store.IsClean rule) (known : scope < store.scopes.size) (limit : Nat) :
    Keeps rule (Value.IsSettled rule) store (program.run scope limit) := by
  have calls := applyFunction_keeps rule limit
  refine .bind (Part.keeps calls _ allowed store scope .null clean known (Obeys.leaf trivial rfl))
    fun result after clean _ outcome => ?_
  exact .pure clean (Value.isSettled_unwrapped outcome)

/-- Evaluates a part of a tree in a scope, with so many nested calls allowed. -/
def Part.evaluate (limit : Nat) : Part → Nat → Computation Value
  | .expression tree, scope => tree.evaluate (applyFunction limit) scope
  | .statement tree, scope => tree.evaluate (applyFunction limit) scope
  | .block trees, scope => evaluateStatements (applyFunction limit) trees .null scope

theorem Part.evaluate_keeps {part : Part} {scope : Nat}
    (allowed : Part.Obeys rule.Allows part) (clean : store.IsClean rule)
    (known : scope < store.scopes.size) (limit : Nat) :
    Jet.Keeps rule (Value.IsOutcome rule) store (part.evaluate limit scope) := by
  have keeps := Part.keeps (applyFunction_keeps rule limit) part allowed
  cases part with
  | expression | statement => exact keeps store scope clean known
  | block => exact keeps store scope .null clean known (Obeys.leaf trivial rfl)

/--
Evaluating any tree in any scope of a clean store keeps the store clean, however it ends, and what
it ends with is clean or a signal with a clean payload.  A program and a call on clean arguments
never end with the signal that returns a value.
-/
theorem evaluation_keeps_clean
    (clean : store.IsClean .any) (limit : Nat) :
    (∀ (part : Part) (scope : Nat), scope < store.scopes.size →
      Keeps .any (Value.IsOutcome .any) store (part.evaluate limit scope)) ∧
    (∀ (program : Program) (scope : Nat), scope < store.scopes.size →
      Keeps .any (Value.IsSettled .any) store (program.run scope limit) ∧
        ∀ payload, (program.run scope limit store).1 ≠ .ok (.returned payload)) ∧
    (∀ (function : Value) (arguments : List Value),
      function.IsCallable .any store.scopes.size →
      (∀ argument ∈ arguments, argument.IsClean .any store.scopes.size) →
      Keeps .any (Value.IsSettled .any) store (applyFunction limit function arguments) ∧
        ∀ payload, (applyFunction limit function arguments store).1 ≠ .ok (.returned payload)) := by
  refine ⟨fun part scope known => ?_, fun program scope known => ?_,
    fun function arguments callable given => ?_⟩
  · exact Part.evaluate_keeps (IntegerRule.obeys_any part) clean known limit
  · have keeps := Program.run_keeps (IntegerRule.obeys_any (.block program.statements)) clean known
      limit
    exact ⟨keeps, fun payload ended => (keeps.good _ ended).ne_returned payload rfl⟩
  · have keeps := applyFunction_keeps .any limit function arguments store clean callable given
    exact ⟨keeps, fun payload ended => (keeps.good _ ended).ne_returned payload rfl⟩

/-- A store with an array and a hash, and inside of it a scope with a function of this scope. -/
def Store.nested : Store :=
  ⟨#[⟨[("a", .array 0 [.integer 1]), ("h", .hash 1 [.mk (.string "k") (.string "k") .null])], none⟩,
    ⟨[("f", .function 2 ["x"] [.return (some (.index (.name "h") (.name "x")))] 1)], some 0⟩], 3⟩

/-- The nested store is clean, and a statement that returns what a call gives keeps it so. -/
theorem evaluation_keeps_clean_nested :
    Store.nested.IsClean .any ∧ 1 < Store.nested.scopes.size ∧
      Keeps .any (Value.IsOutcome .any) Store.nested
        (Part.evaluate 1 (.statement (.return (some (.call (.name "f") [.string "k"])))) 1) ∧
      (Part.evaluate 1 (.statement (.return (some (.call (.name "f") [.string "k"])))) 1
        Store.nested).1 = .ok (.returned .null) := by
  have one : Value.IsClean .any 2 (.array 0 [.integer 1]) :=
    Value.isClean_array 0 (List.forall_mem_singleton.mpr (Value.isClean_integer trivial))
  have two : Value.IsClean .any 2 (.hash 1 [.mk (.string "k") (.string "k") .null]) :=
    (Entry.isClean_hash_iff 1).mpr (List.forall_mem_singleton.mpr
      ⟨rfl, Obeys.leaf trivial rfl, Obeys.leaf trivial rfl⟩)
  have clean : Store.nested.IsClean .any := by
    intro id scope found
    match id, found with
    | 0, found =>
        cases found
        refine ⟨List.forall_mem_cons.mpr ⟨one, List.forall_mem_singleton.mpr two⟩, nofun⟩
    | 1, found =>
        cases found
        refine ⟨List.forall_mem_singleton.mpr (Obeys.leaf ⟨?_, IntegerRule.obeys_any _⟩ rfl), ?_⟩
        · decide
        · rintro outer ⟨⟩
          decide
    | id + 2, found => cases found
  exact ⟨clean, by decide, (evaluation_keeps_clean clean 1).1 _ 1 (by decide), rfl⟩

end Jet
