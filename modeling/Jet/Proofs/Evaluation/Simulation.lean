import Jet.Evaluation
import Jet.Proofs.Evaluation.Steps
import Jet.Proofs.Value.Operation
import Jet.Proofs.Value.StoreMatching

/-!
# Evaluation beside others

A store may serve one program only, or others too, whose scopes are of no concern to the program.
Whatever is evaluated in matching stores, seen from matching scopes, ends in the same way: with
matching results, or cut off for the same reason.  It leaves matching stores, and in the second one
the scopes of the others are as they were.

`Simulates` says this of two runs.  The renumbering goes on with numbers for the scopes and stamps
that the runs make.  As hygiene, it is shown for the steps that touch the store, for one computation
behind another, for all trees by induction on the tree over any way of calling functions, and for
the calls by induction on the number of nested calls.
-/

namespace Jet

variable {α β : Type} {numbering : Renumbering} {store other : Store}

/-- A run in one store ends as another run does in a store that matches, and the stores still do. -/
def Simulates (related : Renumbering → α → α → Prop) (numbering : Renumbering)
    (store other : Store) (run otherRun : Computation α) : Prop :=
  ∃ later, Advances numbering later other (otherRun other).2 ∧
    (run store).2.Matches later (otherRun other).2 ∧
      SameEnd (related later) (run store).1 (otherRun other).1

namespace Simulates

variable {related between : Renumbering → α → α → Prop} {relatedNext : Renumbering → β → β → Prop}
variable {scope otherScope : Nat}

open Jet.Computation

/-- Runs are judged by where they get from the stores. -/
theorem of_run {later : Renumbering} {run otherRun : Computation α}
    {result otherResult : Except Halt α × Store}
    (equal : run store = result) (otherEqual : otherRun other = otherResult)
    (advances : Advances numbering later other otherResult.2)
    (stores : result.2.Matches later otherResult.2)
    (ends : SameEnd (related later) result.1 otherResult.1) :
    Simulates related numbering store other run otherRun := by
  cases equal
  cases otherEqual
  exact ⟨later, advances, stores, ends⟩

theorem pure {value otherValue : α}
    (stores : store.Matches numbering other) (results : related numbering value otherValue) :
    Simulates related numbering store other (Pure.pure value) (Pure.pure otherValue) :=
  ⟨numbering, .refl numbering other, stores, .ok results⟩

theorem halt {reason : Halt}
    (stores : store.Matches numbering other) :
    Simulates related numbering store other (Computation.halt reason) (Computation.halt reason) :=
  ⟨numbering, .refl numbering other, stores, .error reason⟩

theorem ofExcept {result otherResult : Except Halt α}
    (stores : store.Matches numbering other) (ends : SameEnd (related numbering) result otherResult) :
    Simulates related numbering store other (Computation.ofExcept result)
      (Computation.ofExcept otherResult) :=
  ⟨numbering, .refl numbering other, stores, ends⟩

/-- Computations behind others simulate each other if they do so from all stores between. -/
theorem bind {first otherFirst : Computation α} {next otherNext : α → Computation β}
    (simulates : Simulates between numbering store other first otherFirst)
    (later : ∀ {middle : Renumbering} {after otherAfter : Store} {value otherValue : α},
      middle.Extends numbering → after.Matches middle otherAfter → between middle value otherValue →
        Simulates relatedNext middle after otherAfter (next value) (otherNext otherValue)) :
    Simulates relatedNext numbering store other (first >>= next) (otherFirst >>= otherNext) := by
  rcases simulates with ⟨middle, advances, stores, ends⟩
  rcases equal : first store with ⟨outcome, after⟩
  rcases otherEqual : otherFirst other with ⟨otherOutcome, otherAfter⟩
  rw [equal, otherEqual] at stores ends
  rw [otherEqual] at advances
  cases ends with
  | error reason =>
      exact of_run (bind_of_error equal next) (bind_of_error otherEqual otherNext) advances stores
        (.error reason)
  | @ok value otherValue results =>
      rcases later advances.extended stores results with ⟨last, onward, stores, ends⟩
      exact of_run (bind_of_ok equal next) (bind_of_ok otherEqual otherNext)
        (advances.trans onward) stores ends

/-- What follows computations is reached by matching values, or by none. -/
theorem andThen {first otherFirst : Computation Value} {next otherNext : Value → Computation Value}
    (simulates : Simulates Value.Matches numbering store other first otherFirst)
    (later : ∀ {middle : Renumbering} {after otherAfter : Store} {value otherValue : Value},
      middle.Extends numbering → after.Matches middle otherAfter →
        value.Matches middle otherValue →
          Simulates Value.Matches middle after otherAfter (next value) (otherNext otherValue)) :
    Simulates Value.Matches numbering store other (Computation.andThen first next)
      (Computation.andThen otherFirst otherNext) := by
  refine bind simulates fun extended stores values => ?_
  rw [values.isSignal]
  split
  · exact pure stores values
  · exact later extended stores values

theorem freshStamp
    (stores : store.Matches numbering other) :
    Simulates (fun later stamp otherStamp => later.stamps[stamp]? = some otherStamp) numbering store
      other Computation.freshStamp Computation.freshStamp := by
  rcases stores.freshStamp with ⟨after, advances, found⟩
  exact ⟨_, advances, after, .ok found⟩

theorem openScope
    (stores : store.Matches numbering other) (known : numbering.scopes[scope]? = some otherScope) :
    Simulates (fun later id otherId => later.scopes[id]? = some otherId) numbering store other
      (Computation.openScope scope) (Computation.openScope otherScope) := by
  rcases stores.openScope (.some known) with ⟨after, advances, found⟩
  exact ⟨_, advances, after, .ok found⟩

theorem lookup
    (stores : store.Matches numbering other) (known : numbering.scopes[scope]? = some otherScope)
    (name : String) :
    Simulates (fun later => Option.Rel (Value.Matches later)) numbering store other
      (Computation.lookup scope name) (Computation.lookup otherScope name) :=
  ⟨numbering, .refl numbering other, stores, .ok (stores.get? known name)⟩

theorem define {value otherValue : Value}
    (stores : store.Matches numbering other) (known : numbering.scopes[scope]? = some otherScope)
    (values : value.Matches numbering otherValue) (name : String) :
    Simulates (fun _ _ _ => True) numbering store other (Computation.define scope name value)
      (Computation.define otherScope name otherValue) := by
  rcases stores.define known values name with ⟨after, advances⟩
  exact ⟨numbering, advances, after, .ok trivial⟩

theorem defineAll {bindings others : List (String × Value)}
    (stores : store.Matches numbering other) (known : numbering.scopes[scope]? = some otherScope)
    (given : List.Forall₂ (BindingMatches numbering) bindings others) :
    Simulates (fun _ _ _ => True) numbering store other (Computation.defineAll scope bindings)
      (Computation.defineAll otherScope others) := by
  induction bindings generalizing numbering store other others with
  | nil =>
      cases given
      exact pure stores trivial
  | cons binding rest induction =>
      rcases given with _ | ⟨first, behind⟩
      rename_i otherBinding _
      rcases binding with ⟨name, value⟩
      rcases otherBinding with ⟨otherName, otherValue⟩
      rcases first with ⟨names, values⟩
      dsimp only at names values
      subst names
      refine bind (define stores known values name) fun extended stores _ => ?_
      exact induction stores (extended.scope known)
        (behind.imp fun _ _ binding => binding.mono extended)

theorem assign {value otherValue : Value}
    (stores : store.Matches numbering other) (known : numbering.scopes[scope]? = some otherScope)
    (values : value.Matches numbering otherValue) (name : String) :
    Simulates (fun _ done otherDone => done = otherDone) numbering store other
      (Computation.assign scope name value) (Computation.assign otherScope name otherValue) := by
  have holders := stores.resolve known name
  unfold Simulates Computation.assign Store.assign?
  generalize store.resolve scope name = holder, other.resolve otherScope name = otherHolder
    at holders
  cases holders with
  | none => exact ⟨numbering, .refl numbering other, stores, .ok rfl⟩
  | some holders =>
      rcases stores.define holders values name with ⟨after, advances⟩
      exact ⟨numbering, advances, after, .ok rfl⟩

theorem newArray {elements others : List Value}
    (stores : store.Matches numbering other)
    (inside : List.Forall₂ (Value.Matches numbering) elements others) :
    Simulates Value.Matches numbering store other (Computation.newArray elements)
      (Computation.newArray others) := by
  refine bind (freshStamp stores) fun extended stores found => ?_
  refine pure stores (.array found (Value.allMatch_iff.mpr ?_))
  exact inside.imp fun _ _ => .mono extended

theorem newHash {entries others : List Entry}
    (stores : store.Matches numbering other)
    (inside : List.Forall₂ (Entry.Matches numbering) entries others) :
    Simulates Value.Matches numbering store other (Computation.newHash entries)
      (Computation.newHash others) := by
  refine bind (freshStamp stores) fun extended stores found => ?_
  refine pure stores (.hash found (Entry.allMatch_iff.mpr ?_))
  exact inside.imp fun _ _ => .mono extended

/-- What resembles each other matches when it is made anew. -/
theorem renew {value otherValue : Value}
    (stores : store.Matches numbering other) (results : value.Resembles numbering otherValue) :
    Simulates Value.Matches numbering store other (Computation.renew value)
      (Computation.renew otherValue) := by
  have renewed (tag otherTag : Nat) :
      Simulates Value.Matches numbering store other (Computation.renew (.float (.nan tag)))
        (Computation.renew (.float (.nan otherTag))) :=
    bind (freshStamp stores) fun _ stores found => pure stores (.float (.stamped found))
  have kept {number : Double} (isNumber : number.isNaN = false) :
      Simulates Value.Matches numbering store other (Computation.renew (.float number))
        (Computation.renew (.float number)) := by
    cases number <;> first | exact pure stores (.float (.plain _ rfl)) | cases isNumber
  cases results with
  | matched values =>
      have unchanged := values
      cases values with
      | float numbers =>
          cases numbers with
          | stamped => exact renewed _ _
          | plain number isNumber => exact kept isNumber
      | _ => exact pure stores unchanged
  | @float left right alike =>
      rcases alike with rfl | ⟨leftNaN, rightNaN⟩
      · cases left with
        | nan tag => exact renewed tag tag
        | _ => exact kept rfl
      · cases left <;> cases leftNaN
        cases right <;> cases rightNaN
        exact renewed _ _

/-! ### Names -/

theorem evaluateName
    (stores : store.Matches numbering other) (known : numbering.scopes[scope]? = some otherScope)
    (name : String) :
    Simulates Value.Matches numbering store other (Jet.evaluateName scope name)
      (Jet.evaluateName otherScope name) := by
  refine bind (lookup stores known name) fun _ stores values => ?_
  cases values with
  | some values => exact pure stores values
  | none =>
      dsimp only
      split
      · exact pure stores (.builtin _)
      · exact pure stores (.error _)

theorem assignName {value otherValue : Value}
    (stores : store.Matches numbering other) (known : numbering.scopes[scope]? = some otherScope)
    (values : value.Matches numbering otherValue) (name : String) :
    Simulates Value.Matches numbering store other (Jet.assignName scope name value)
      (Jet.assignName otherScope name otherValue) := by
  refine bind (assign stores known values name) @fun later _ _ done _ extended stores same => ?_
  subst same
  cases done with
  | true => exact pure stores (values.mono extended)
  | false => exact pure stores (.error _)

/-! ### Builtin functions -/

theorem onArray {builtin : Builtin} {argument otherArgument : Value}
    {next otherNext : List Value → Computation Value}
    (stores : store.Matches numbering other) (given : argument.Matches numbering otherArgument)
    (later : ∀ elements others : List Value, List.Forall₂ (Value.Matches numbering) elements others →
      Simulates Value.Matches numbering store other (next elements) (otherNext others)) :
    Simulates Value.Matches numbering store other (Builtin.onArray builtin argument next)
      (Builtin.onArray builtin otherArgument otherNext) := by
  cases given with
  | array stamps inside => exact later _ _ (Value.allMatch_iff.mp inside)
  | _ => exact pure stores (.error _)

theorem builtin {arguments others : List Value}
    (stores : store.Matches numbering other)
    (given : List.Forall₂ (Value.Matches numbering) arguments others) (builtin : Builtin) :
    Simulates Value.Matches numbering store other (builtin.apply arguments)
      (builtin.apply others) := by
  have refused (arity : Nat) :
      Simulates Value.Matches numbering store other
        (Pure.pure (.error (.wrongArity arity arguments.length)))
        (Pure.pure (.error (.wrongArity arity others.length))) := by
    rw [given.length_eq]
    exact pure stores (.error _)
  cases given with
  | nil => cases builtin <;> exact refused _
  | cons argument behind =>
      cases behind with
      | nil =>
          cases builtin with
          | len => exact pure stores (matches_length argument)
          | first =>
              refine onArray stores argument fun elements others inside => pure stores ?_
              cases inside with
              | nil => exact .null
              | cons head _ => exact head
          | last =>
              refine onArray stores argument fun elements others inside => pure stores ?_
              rw [List.getLastD_eq_getLast?, List.getLastD_eq_getLast?, List.getLast?_eq_getElem?,
                List.getLast?_eq_getElem?, inside.length_eq]
              exact matches_getD (getElem?_of_forall₂ inside _)
          | rest =>
              refine onArray stores argument fun elements others inside => ?_
              cases inside with
              | nil => exact pure stores .null
              | cons _ others => exact newArray stores others
          | push => exact refused _
          | type =>
              refine pure stores ?_
              rw [argument.kind]
              exact .string _
          | str =>
              refine pure stores ?_
              rw [argument.display]
              exact .string _
      | cons value behind =>
          cases behind with
          | nil =>
              cases builtin with
              | push =>
                  refine onArray stores argument fun elements others inside => newArray stores ?_
                  exact List.rel_append inside (.cons value .nil)
              | _ => exact refused _
          | cons _ _ => cases builtin <;> exact refused _

end Simulates

/-! ## Trees -/

/-- A way of calling functions that does not depend on what the scopes and stamps are. -/
def Call.Simulates (call : Call) : Prop :=
  ∀ ⦃numbering : Renumbering⦄ ⦃store other : Store⦄ ⦃function otherFunction : Value⦄
    ⦃arguments others : List Value⦄, store.Matches numbering other →
    function.Matches numbering otherFunction →
    List.Forall₂ (Value.Matches numbering) arguments others →
    Jet.Simulates Value.Matches numbering store other (call function arguments)
      (call otherFunction others)

/-- A part of a tree whose evaluation does not depend on what the scopes and stamps are. -/
def Part.Simulates (call : Call) : Part → Prop
  | .expression tree => ∀ ⦃numbering : Renumbering⦄ ⦃store other : Store⦄ ⦃scope otherScope : Nat⦄,
      store.Matches numbering other → numbering.scopes[scope]? = some otherScope →
      Jet.Simulates Value.Matches numbering store other (tree.evaluate call scope)
        (tree.evaluate call otherScope)
  | .statement tree => ∀ ⦃numbering : Renumbering⦄ ⦃store other : Store⦄ ⦃scope otherScope : Nat⦄,
      store.Matches numbering other → numbering.scopes[scope]? = some otherScope →
      Jet.Simulates Value.Matches numbering store other (tree.evaluate call scope)
        (tree.evaluate call otherScope)
  | .block trees => ∀ ⦃numbering : Renumbering⦄ ⦃store other : Store⦄ ⦃scope otherScope : Nat⦄
      ⦃last otherLast : Value⦄, store.Matches numbering other →
      numbering.scopes[scope]? = some otherScope → last.Matches numbering otherLast →
      Jet.Simulates Value.Matches numbering store other (evaluateStatements call trees last scope)
        (evaluateStatements call trees otherLast otherScope)

/-- What was gathered from some trees matches, or the signals that were met among them do. -/
inductive Gathered.Matches (inside : Renumbering → α → α → Prop) (numbering : Renumbering) :
    Gathered α → Gathered α → Prop where
  | ok {values others : α}
      (gathered : inside numbering values others) :
      Matches inside numbering (.ok values) (.ok others)
  | error {signal other : Value}
      (signals : signal.Matches numbering other) :
      Matches inside numbering (.error signal) (.error other)

namespace Simulates

open Jet.Computation

variable {call : Call} ⦃scope otherScope : Nat⦄

theorem evaluateAll {trees : List Expr}
    (each : ∀ tree ∈ trees, Part.Simulates call (.expression tree))
    (stores : store.Matches numbering other) (known : numbering.scopes[scope]? = some otherScope) :
    Simulates (Gathered.Matches fun later => List.Forall₂ (Value.Matches later)) numbering store
      other (Jet.evaluateAll call trees scope) (Jet.evaluateAll call trees otherScope) := by
  induction trees generalizing numbering store other with
  | nil => exact pure stores (.ok .nil)
  | cons tree rest induction =>
      rw [List.forall_mem_cons] at each
      rw [Jet.evaluateAll, Jet.evaluateAll]
      refine bind (each.1 stores known) fun extended stores first => ?_
      rw [first.isSignal]
      split
      · exact pure stores (.error first)
      · refine bind (induction each.2 stores (extended.scope known))
          fun extended stores behind => ?_
        cases behind with
        | error signals => exact pure stores (.error signals)
        | ok values => exact pure stores (.ok (.cons (first.mono extended) values))

theorem evaluatePairs {trees : List (Expr × Expr)} {entries others : List Entry}
    (each : ∀ pair ∈ trees, Part.Simulates call (.expression pair.1) ∧
      Part.Simulates call (.expression pair.2))
    (stores : store.Matches numbering other) (known : numbering.scopes[scope]? = some otherScope)
    (inside : List.Forall₂ (Entry.Matches numbering) entries others) :
    Simulates (Gathered.Matches fun later => List.Forall₂ (Entry.Matches later)) numbering store
      other (Jet.evaluatePairs call trees entries scope)
      (Jet.evaluatePairs call trees others otherScope) := by
  induction trees generalizing numbering store other entries others with
  | nil => exact pure stores (.ok inside)
  | cons pair rest induction =>
      rcases pair with ⟨keyTree, valueTree⟩
      rw [List.forall_mem_cons] at each
      rw [Jet.evaluatePairs, Jet.evaluatePairs]
      refine bind (each.1.1 stores known)
        @fun middle _ _ shown otherShown extended stores shownKeys => ?_
      rw [shownKeys.isSignal, shownKeys.kind]
      have keys := shownKeys.key?
      generalize shown.key? = key, otherShown.key? = otherKey at keys
      split
      · exact pure stores (.error shownKeys)
      cases keys with
      | none => exact pure stores (.error (.error _))
      | some keys =>
          dsimp only
          refine bind (each.1.2 stores (extended.scope known))
            fun onward stores values => ?_
          rw [values.isSignal]
          split
          · exact pure stores (.error values)
          refine induction each.2 stores (onward.scope (extended.scope known)) ?_
          refine Entry.Matches.insert stores.increasing
            ⟨keys.mono onward, shownKeys.mono onward, values⟩ ?_
          exact inside.imp fun _ _ => .mono (onward.trans extended)

/-- Statements in new scopes. -/
theorem inner {trees : List Stmt}
    (block : Part.Simulates call (.block trees))
    (stores : store.Matches numbering other) (known : numbering.scopes[scope]? = some otherScope) :
    Simulates Value.Matches numbering store other
      (Computation.openScope scope >>= evaluateStatements call trees .null)
      (Computation.openScope otherScope >>= evaluateStatements call trees .null) :=
  bind (openScope stores known) fun _ stores opened => block stores opened .null

theorem block {trees : List Stmt}
    (each : ∀ tree ∈ trees, Part.Simulates call (.statement tree)) :
    Part.Simulates call (.block trees) := by
  intro numbering store other scope otherScope last otherLast stores known lasts
  induction trees generalizing numbering store other last otherLast with
  | nil => exact pure stores lasts
  | cons tree rest induction =>
      rw [List.forall_mem_cons] at each
      rw [evaluateStatements, evaluateStatements]
      refine andThen (each.1 stores known) fun extended stores values => ?_
      exact induction each.2 stores (extended.scope known) values

theorem statement {tree : Stmt}
    (each : ∀ child ∈ Part.children (.statement tree), Part.Simulates call child) :
    Part.Simulates call (.statement tree) := by
  intro numbering store other scope otherScope stores known
  cases tree with
  | bind name value =>
      have runs := each _ List.mem_cons_self stores known
      rw [Stmt.evaluate, Stmt.evaluate]
      refine andThen runs fun extended stores values => ?_
      exact bind (define stores (extended.scope known) values name) fun _ stores _ =>
        pure stores .null
  | «return» value =>
      cases value with
      | none => exact pure stores (.returned .null)
      | some value =>
          have runs := each _ List.mem_cons_self stores known
          rw [Stmt.evaluate, Stmt.evaluate]
          exact andThen runs fun _ stores values => pure stores (.returned values)
  | expression value => exact each _ List.mem_cons_self stores known
  | block body => exact inner (each _ List.mem_cons_self) stores known

theorem binary {left right : Expr}
    (leftRuns : Part.Simulates call (.expression left))
    (rightRuns : Part.Simulates call (.expression right)) (operator : String) :
    Part.Simulates call (.expression (.binary left operator right)) := by
  intro numbering store other scope otherScope stores known
  rw [Expr.evaluate, Expr.evaluate]
  refine andThen (leftRuns stores known)
    @fun middle _ _ leftValue otherLeft extended stores lefts => ?_
  have known := extended.scope known
  split
  · rename_i connective _
    have settled : connective.isSettledBy leftValue = connective.isSettledBy otherLeft := by
      cases connective <;> simp only [Connective.isSettledBy, lefts.isTruthy]
    rw [settled, lefts.isTruthy]
    split
    · exact pure stores (.boolean _)
    · refine andThen (rightRuns stores known) fun _ stores rights => ?_
      rw [rights.isTruthy]
      exact pure stores (.boolean _)
  · refine andThen (rightRuns stores known) fun onward stores rights => ?_
    have results := resembles_binaryOperation stores.increasing (lefts.mono onward) rights operator
    exact bind (ofExcept stores results)
      fun _ stores results => renew stores results

theorem conditional {condition : Expr} {consequence : List Stmt} {alternative : Option (List Stmt)}
    (conditionRuns : Part.Simulates call (.expression condition))
    (consequenceRuns : Part.Simulates call (.block consequence))
    (othersRun : ∀ block ∈ alternative, Part.Simulates call (.block block)) :
    Part.Simulates call (.expression (.conditional condition consequence alternative)) := by
  intro numbering store other scope otherScope stores known
  rw [Expr.evaluate_conditional, Expr.evaluate_conditional]
  refine andThen (conditionRuns stores known) fun extended stores values => ?_
  rw [values.isTruthy]
  split
  · exact inner consequenceRuns stores (extended.scope known)
  · cases alternative with
    | none => exact pure stores .null
    | some block => exact inner (othersRun block rfl) stores (extended.scope known)

theorem callExpression {callee : Expr} {arguments : List Expr}
    (calls : call.Simulates)
    (calleeRuns : Part.Simulates call (.expression callee))
    (each : ∀ tree ∈ arguments, Part.Simulates call (.expression tree)) :
    Part.Simulates call (.expression (.call callee arguments)) := by
  intro numbering store other scope otherScope stores known
  rw [Expr.evaluate, Expr.evaluate]
  refine andThen (calleeRuns stores known) fun extended stores functions => ?_
  refine bind (evaluateAll each stores (extended.scope known))
    fun onward stores gathered => ?_
  cases gathered with
  | error signals => exact pure stores signals
  | ok values => exact calls stores (functions.mono onward) values

theorem array {elements : List Expr}
    (each : ∀ tree ∈ elements, Part.Simulates call (.expression tree)) :
    Part.Simulates call (.expression (.array elements)) := by
  intro numbering store other scope otherScope stores known
  rw [Expr.evaluate, Expr.evaluate]
  refine bind (evaluateAll each stores known) fun _ stores gathered => ?_
  cases gathered with
  | error signals => exact pure stores signals
  | ok values => exact newArray stores values

theorem hash {pairs : List (Expr × Expr)}
    (each : ∀ pair ∈ pairs, Part.Simulates call (.expression pair.1) ∧
      Part.Simulates call (.expression pair.2)) :
    Part.Simulates call (.expression (.hash pairs)) := by
  intro numbering store other scope otherScope stores known
  rw [Expr.evaluate, Expr.evaluate]
  refine bind (evaluatePairs each stores known .nil) fun _ stores gathered => ?_
  cases gathered with
  | error signals => exact pure stores signals
  | ok entries => exact newHash stores entries

theorem index {collection position : Expr}
    (collectionRuns : Part.Simulates call (.expression collection))
    (positionRuns : Part.Simulates call (.expression position)) :
    Part.Simulates call (.expression (.index collection position)) := by
  intro numbering store other scope otherScope stores known
  rw [Expr.evaluate, Expr.evaluate]
  refine andThen (collectionRuns stores known) fun extended stores values => ?_
  refine andThen (positionRuns stores (extended.scope known))
    fun onward stores places => ?_
  exact pure stores (matches_indexOperation stores.increasing (values.mono onward) places)

/-- Function literals make functions of the scopes that they are evaluated in. -/
theorem function {body : List Stmt}
    (numeric : Part.Obeys Part.IsNumeric (.block body)) (parameters : List String) :
    Part.Simulates call (.expression (.function parameters body)) := by
  intro numbering store other scope otherScope stores known
  rw [Expr.evaluate, Expr.evaluate]
  exact bind (freshStamp stores) fun extended stores found =>
    pure stores (.function found parameters numeric (extended.scope known))

theorem expression {tree : Expr}
    (calls : call.Simulates) (numeric : Part.Obeys Part.IsNumeric (.expression tree))
    (each : ∀ child ∈ Part.children (.expression tree), Part.Simulates call child) :
    Part.Simulates call (.expression tree) := by
  cases tree with
  | name name => exact fun _ _ _ _ _ stores known => evaluateName stores known name
  | integer value => exact fun _ _ _ _ _ stores _ => pure stores (.integer value)
  | float value => exact fun _ _ _ _ _ stores _ => pure stores (.float (.plain value numeric.holds))
  | boolean value => exact fun _ _ _ _ _ stores _ => pure stores (.boolean value)
  | string value => exact fun _ _ _ _ _ stores _ => pure stores (.string value)
  | null => exact fun _ _ _ _ _ stores _ => pure stores .null
  | unary operator operand =>
      intro numbering store other scope otherScope stores known
      rw [Expr.evaluate, Expr.evaluate]
      exact andThen (each _ List.mem_cons_self stores known)
        fun _ stores values => renew stores (resembles_unaryOperation values operator)
  | binary left operator right =>
      exact binary (each _ List.mem_cons_self) (each _ (List.mem_cons_of_mem _ List.mem_cons_self))
        operator
  | assign name value =>
      intro numbering store other scope otherScope stores known
      rw [Expr.evaluate, Expr.evaluate]
      exact andThen (each _ List.mem_cons_self stores known)
        fun extended stores values =>
          assignName stores (extended.scope known) values name
  | conditional condition consequence alternative =>
      rcases Part.forall_mem_children_conditional.mp each with ⟨condition, consequence, others⟩
      exact conditional condition consequence others
  | function parameters body => exact function (numeric.child List.mem_cons_self) parameters
  | call callee arguments =>
      exact callExpression calls (each _ List.mem_cons_self) fun tree member =>
        each _ (List.mem_cons_of_mem _ (List.mem_map_of_mem member))
  | array elements => exact array fun tree member => each _ (List.mem_map_of_mem member)
  | index collection position =>
      exact index (each _ List.mem_cons_self) (each _ (List.mem_cons_of_mem _ List.mem_cons_self))
  | hash pairs => exact hash (Part.forall_mem_children_hash.mp each)

end Simulates

/-- Over calls that do not depend on what the scopes and stamps are, no tree does. -/
theorem Part.simulates {call : Call} (calls : call.Simulates) (whole : Part)
    (numeric : Part.Obeys Part.IsNumeric whole) :
    whole.Simulates call := by
  induction whole using Part.induction with
  | step whole induction =>
      have each : ∀ child ∈ whole.children, child.Simulates call := fun child member =>
        induction child member (numeric.child member)
      cases whole with
      | expression tree => exact .expression calls numeric each
      | statement tree => exact .statement each
      | block trees => exact .block fun tree member => each _ (List.mem_map_of_mem member)

/-! ## Calls and programs -/

/-- Results match when they are taken out of their signals. -/
theorem Value.Matches.unwrapped {value otherValue : Value}
    (matched : value.Matches numbering otherValue) :
    value.unwrapped.Matches numbering otherValue.unwrapped := by
  have unchanged := matched
  cases matched with
  | returned payload => exact payload
  | _ => exact unchanged

/-- The body of a function in new scopes that bind the parameters. -/
theorem Simulates.body {call : Call} {captured otherCaptured : Nat} {body : List Stmt}
    {bindings others : List (String × Value)}
    (calls : call.Simulates) (numeric : Part.Obeys Part.IsNumeric (.block body))
    (stores : store.Matches numbering other)
    (known : numbering.scopes[captured]? = some otherCaptured)
    (given : List.Forall₂ (BindingMatches numbering) bindings others) :
    Simulates Value.Matches numbering store other
      (do
        let scope ← Computation.openScope captured
        Computation.defineAll scope bindings
        let result ← evaluateStatements call body .null scope
        Pure.pure result.unwrapped)
      (do
        let scope ← Computation.openScope otherCaptured
        Computation.defineAll scope others
        let result ← evaluateStatements call body .null scope
        Pure.pure result.unwrapped) := by
  refine bind (openScope stores known) fun extended stores opened => ?_
  refine bind (defineAll stores opened (given.imp fun _ _ => .mono extended))
    fun extended stores _ => ?_
  refine bind (Part.simulates calls (.block body) numeric stores
    (extended.scope opened) .null) fun _ stores results => ?_
  exact pure stores results.unwrapped

/-- Parameters are bound to matching arguments. -/
theorem bindingMatches_zip {arguments others : List Value}
    (given : List.Forall₂ (Value.Matches numbering) arguments others) (parameters : List String) :
    List.Forall₂ (BindingMatches numbering) (parameters.zip arguments) (parameters.zip others) := by
  induction given generalizing parameters with
  | nil =>
      rw [List.zip_nil_right]
      exact .nil
  | cons first behind induction =>
      cases parameters with
      | nil => exact .nil
      | cons parameter parameters => exact .cons ⟨rfl, first⟩ (induction parameters)

/-- No call depends on what the scopes and stamps are, however deep calls may nest. -/
theorem applyFunction_simulates (limit : Nat) :
    Call.Simulates (applyFunction limit) := by
  intro numbering store other function otherFunction arguments others stores functions given
  unfold applyFunction
  cases functions with
  | function stamps parameters numeric scopes =>
      dsimp only
      rw [given.length_eq]
      split
      · exact .pure stores (.error _)
      · cases limit with
        | zero => exact .halt stores
        | succ limit =>
            have calls := applyFunction_simulates limit
            exact .body calls numeric stores scopes (bindingMatches_zip given parameters)
  | builtin builtin => exact .builtin stores given builtin
  | _ => exact .pure stores (.error _)

/-- No program depends on what the scopes and stamps are. -/
theorem Program.run_simulates {program : Program} {scope otherScope : Nat}
    (numeric : Part.Obeys Part.IsNumeric (.block program.statements))
    (stores : store.Matches numbering other) (known : numbering.scopes[scope]? = some otherScope)
    (limit : Nat) :
    Simulates Value.Matches numbering store other (program.run scope limit)
      (program.run otherScope limit) := by
  have calls := applyFunction_simulates limit
  refine .bind (Part.simulates calls _ numeric stores known .null)
    fun _ stores results => ?_
  exact .pure stores results.unwrapped

end Jet
