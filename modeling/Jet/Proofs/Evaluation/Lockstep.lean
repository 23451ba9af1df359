import Jet.Proofs.Evaluation.Hygiene
import Jet.Proofs.Value.Carried

/-!
# Runs in step

The same tree is run in two stores at once.  A `Discipline` says how the two stores belong together,
from which scopes names may be looked for, in which scopes they may be introduced, and what the
trees may do to names at all.  It is lawful if the five steps that touch a store end alike in both
stores and leave stores that still belong together.

Under a lawful discipline every run does so (`Part.inStep`, `applyFunction_inStep`), as long as it
starts from permitted trees, scopes and values.  With two stores that are the same, this is an
invariant of the single run, together with what is known of the values that come out of it.

As with hygiene, the steps come first, then one computation behind another, then all trees by
induction on the tree over any way of calling functions, and the calls by induction on the number
of nested calls.
-/

namespace Jet

variable {α β : Type}

/-! ## Names in trees -/

/-- What a node of a tree does to a name. -/
inductive Mention where
  /-- The value of the name is asked for. -/
  | read (name : String)
  /-- The name gets another value where it is bound. -/
  | written (name : String)
  /-- The name gets bound in the scope at hand, by a `let` or as a parameter. -/
  | introduced (name : String)
deriving DecidableEq, Repr

/-- The name that is mentioned. -/
def Mention.name : Mention → String
  | read name | written name | introduced name => name

namespace Part

/-- What a node does to names, apart from the parts inside of it. -/
def mentions : Part → List Mention
  | .expression (.name name) => [.read name]
  | .expression (.assign name _) => [.written name]
  | .expression (.function parameters _) => parameters.map .introduced
  | .statement (.bind name _) => [.introduced name]
  | _ => []

/-- Whether a tree does only what is allowed to names, at any depth. -/
def Permits (allows : Mention → Prop) : Part → Prop :=
  Part.Obeys fun inner => ∀ mention ∈ inner.mentions, allows mention

end Part

/-! ## Disciplines -/

/-- What is kept up while the same tree is run in two stores. -/
structure Discipline where
  /-- How the stores of the two runs belong together. -/
  Tied : Store → Store → Prop
  /-- The scopes from which names may be looked for. -/
  Seen : Nat → Prop
  /-- The scopes in which names may be introduced. -/
  Own : Nat → Prop
  /-- What trees may do to names. -/
  Allows : Mention → Prop

namespace Discipline

/-- The functions that may be called: from a scope in sight, with permitted names. -/
def Callable (discipline : Discipline) : FunctionKind := fun parameters body scope =>
  Part.Permits discipline.Allows (.expression (.function parameters body)) ∧ discipline.Seen scope

/-- Whether nothing but functions that may be called is inside of a value. -/
abbrev Meets (discipline : Discipline) : Value → Prop :=
  Value.Carries discipline.Callable

end Discipline

/-- A run ends alike in two stores, with a good result, and the stores still belong together. -/
structure InStep (discipline : Discipline) (good : α → Prop) (store other : Store)
    (run : Computation α) : Prop where
  ends : (run store).1 = (run other).1
  tied : discipline.Tied (run store).2 (run other).2
  good : ∀ value, (run store).1 = .ok value → good value

/-- Whether the steps that touch a store keep up a discipline. -/
structure Discipline.IsLawful (discipline : Discipline) : Prop where
  seen_of_own : ∀ {scope : Nat}, discipline.Own scope → discipline.Seen scope
  freshStamp : ∀ {store other : Store}, discipline.Tied store other →
    InStep discipline (fun _ => True) store other Computation.freshStamp
  openScope : ∀ {store other : Store} {scope : Nat}, discipline.Tied store other →
    discipline.Seen scope → InStep discipline discipline.Own store other
      (Computation.openScope scope)
  lookup : ∀ {store other : Store} {scope : Nat} {name : String}, discipline.Tied store other →
    discipline.Seen scope → discipline.Allows (.read name) →
      InStep discipline (fun found => ∀ value ∈ found, discipline.Meets value) store other
        (Computation.lookup scope name)
  define : ∀ {store other : Store} {scope : Nat} {name : String} {value : Value},
    discipline.Tied store other → discipline.Own scope → discipline.Allows (.introduced name) →
      discipline.Meets value →
        InStep discipline (fun _ => True) store other (Computation.define scope name value)
  assign : ∀ {store other : Store} {scope : Nat} {name : String} {value : Value},
    discipline.Tied store other → discipline.Seen scope → discipline.Allows (.written name) →
      discipline.Meets value →
        InStep discipline (fun _ => True) store other (Computation.assign scope name value)

variable {discipline : Discipline} {store other : Store} {scope : Nat}

namespace InStep

variable {good middle : α → Prop} {goodNext : β → Prop}

open Jet.Computation

/-- Runs are judged by where they get from the stores. -/
theorem of_run {run : Computation α} {result otherResult : Except Halt α × Store}
    (equal : run store = result) (otherEqual : run other = otherResult)
    (ends : result.1 = otherResult.1) (tied : discipline.Tied result.2 otherResult.2)
    (holds : ∀ value, result.1 = .ok value → good value) :
    InStep discipline good store other run := by
  cases equal
  cases otherEqual
  exact ⟨ends, tied, holds⟩

theorem pure {value : α}
    (tied : discipline.Tied store other) (holds : good value) :
    InStep discipline good store other (Pure.pure value) := by
  refine ⟨rfl, tied, ?_⟩
  rintro same ⟨⟩
  exact holds

theorem halt {reason : Halt}
    (tied : discipline.Tied store other) :
    InStep discipline good store other (Computation.halt reason) :=
  ⟨rfl, tied, nofun⟩

theorem ofExcept {result : Except Halt α}
    (tied : discipline.Tied store other) (holds : ∀ value, result = .ok value → good value) :
    InStep discipline good store other (Computation.ofExcept result) :=
  ⟨rfl, tied, holds⟩

/-- A computation behind another keeps in step if it does so from all stores between. -/
theorem bind {first : Computation α} {next : α → Computation β}
    (inStep : InStep discipline middle store other first)
    (later : ∀ value (between otherBetween : Store), discipline.Tied between otherBetween →
      middle value → InStep discipline goodNext between otherBetween (next value)) :
    InStep discipline goodNext store other (first >>= next) := by
  rcases inStep with ⟨ends, tied, holds⟩
  rcases equal : first store with ⟨outcome, between⟩
  rcases otherEqual : first other with ⟨otherOutcome, otherBetween⟩
  rw [equal, otherEqual] at ends tied
  rw [equal] at holds
  cases ends
  cases outcome with
  | error reason =>
      exact of_run (bind_of_error equal next) (bind_of_error otherEqual next) rfl tied
        fun _ ended => by cases ended
  | ok value =>
      have last := later value between otherBetween tied (holds value rfl)
      exact of_run (bind_of_ok equal next) (bind_of_ok otherEqual next) last.ends last.tied last.good

/-- What follows a computation is left out if that ends with a signal. -/
theorem andThen {first : Computation Value} {next : Value → Computation Value}
    (inStep : InStep discipline discipline.Meets store other first)
    (later : ∀ value (between otherBetween : Store), discipline.Tied between otherBetween →
      discipline.Meets value →
        InStep discipline discipline.Meets between otherBetween (next value)) :
    InStep discipline discipline.Meets store other (Computation.andThen first next) := by
  refine bind inStep fun value between otherBetween tied meets => ?_
  split
  · exact pure tied meets
  · exact later value between otherBetween tied meets

theorem atomic {value : Value}
    (tied : discipline.Tied store other) (atomic : value.isAtomic = true) :
    InStep discipline discipline.Meets store other (Pure.pure value) :=
  pure tied (Value.carries_of_isAtomic atomic)

variable (lawful : discipline.IsLawful)

include lawful

theorem defineAll {bindings : List (String × Value)}
    (tied : discipline.Tied store other) (own : discipline.Own scope)
    (allowed : ∀ binding ∈ bindings, discipline.Allows (.introduced binding.1))
    (given : ∀ binding ∈ bindings, discipline.Meets binding.2) :
    InStep discipline (fun _ => True) store other (Computation.defineAll scope bindings) := by
  induction bindings generalizing store other with
  | nil => exact pure tied trivial
  | cons head rest induction =>
      rw [List.forall_mem_cons] at allowed given
      refine bind (lawful.define tied own allowed.1 given.1) fun _ between otherBetween tied _ => ?_
      exact induction tied allowed.2 given.2

theorem newArray {elements : List Value}
    (tied : discipline.Tied store other) (inside : ∀ element ∈ elements, discipline.Meets element) :
    InStep discipline discipline.Meets store other (Computation.newArray elements) :=
  bind (lawful.freshStamp tied) fun stamp _ _ tied _ =>
    pure tied (Value.carries_array inside stamp)

theorem newHash {entries : List Entry}
    (tied : discipline.Tied store other)
    (inside : ∀ entry ∈ entries, entry.Carries discipline.Callable) :
    InStep discipline discipline.Meets store other (Computation.newHash entries) :=
  bind (lawful.freshStamp tied) fun stamp _ _ tied _ =>
    pure tied ((Entry.carries_hash_iff stamp).mpr inside)

theorem renew {value : Value}
    (tied : discipline.Tied store other) (meets : discipline.Meets value) :
    InStep discipline discipline.Meets store other (Computation.renew value) := by
  unfold Computation.renew
  split
  · exact bind (lawful.freshStamp tied) fun stamp _ _ tied _ => atomic tied rfl
  · exact pure tied meets

/-! ### Names -/

theorem evaluateName {name : String}
    (tied : discipline.Tied store other) (seen : discipline.Seen scope)
    (allowed : discipline.Allows (.read name)) :
    InStep discipline discipline.Meets store other (Jet.evaluateName scope name) := by
  refine bind (lawful.lookup tied seen allowed) fun found between otherBetween tied meets => ?_
  cases found with
  | some value => exact pure tied (meets value rfl)
  | none =>
      dsimp only
      split <;> exact atomic tied rfl

theorem assignName {name : String} {value : Value}
    (tied : discipline.Tied store other) (seen : discipline.Seen scope)
    (allowed : discipline.Allows (.written name)) (meets : discipline.Meets value) :
    InStep discipline discipline.Meets store other (Jet.assignName scope name value) := by
  refine bind (lawful.assign tied seen allowed meets) fun assigned between otherBetween tied _ => ?_
  cases assigned with
  | true => exact pure tied meets
  | false => exact atomic tied rfl

/-! ### Builtin functions -/

omit lawful in
theorem onArray {builtin : Builtin} {argument : Value} {next : List Value → Computation Value}
    (tied : discipline.Tied store other) (given : discipline.Meets argument)
    (later : ∀ elements : List Value, (∀ element ∈ elements, discipline.Meets element) →
      InStep discipline discipline.Meets store other (next elements)) :
    InStep discipline discipline.Meets store other (Builtin.onArray builtin argument next) := by
  unfold Builtin.onArray
  split
  · exact later _ fun element => given.child
  · exact atomic tied rfl

theorem builtin {arguments : List Value}
    (tied : discipline.Tied store other)
    (given : ∀ argument ∈ arguments, discipline.Meets argument) (builtin : Builtin) :
    InStep discipline discipline.Meets store other (builtin.apply arguments) := by
  unfold Builtin.apply
  split
  · exact atomic tied (isAtomic_length _)
  · refine onArray tied (given _ List.mem_cons_self) fun elements inside => ?_
    cases elements with
    | nil => exact atomic tied rfl
    | cons first rest => exact pure tied (inside first List.mem_cons_self)
  · refine onArray tied (given _ List.mem_cons_self) fun elements inside => pure tied ?_
    rw [List.getLastD_eq_getLast?]
    cases last : elements.getLast? with
    | none => exact Value.carries_of_isAtomic rfl
    | some element => exact inside element (List.mem_of_getLast? last)
  · refine onArray tied (given _ List.mem_cons_self) fun elements inside => ?_
    cases elements with
    | nil => exact atomic tied rfl
    | cons first rest =>
        exact newArray lawful tied fun element member =>
          inside element (List.mem_cons_of_mem _ member)
  · refine onArray tied (given _ List.mem_cons_self) fun elements inside =>
      newArray lawful tied ?_
    refine List.forall_mem_append.mpr ⟨inside, List.forall_mem_singleton.mpr ?_⟩
    exact given _ (List.mem_cons_of_mem _ List.mem_cons_self)
  · exact atomic tied rfl
  · exact atomic tied rfl
  · exact atomic tied rfl

end InStep

/-! ## Trees -/

/-- A way of calling functions keeps in step for all values that meet the discipline. -/
def Call.InStep (discipline : Discipline) (call : Call) : Prop :=
  ∀ (function : Value) (arguments : List Value) (store other : Store),
    discipline.Tied store other → discipline.Meets function →
    (∀ argument ∈ arguments, discipline.Meets argument) →
    Jet.InStep discipline discipline.Meets store other (call function arguments)

/--
The evaluation of a part keeps in step: of an expression in every scope that is seen, of what may
introduce names in every scope where that is allowed.
-/
def Part.InStep (discipline : Discipline) (call : Call) : Part → Prop
  | .expression tree => ∀ (store other : Store) (scope : Nat), discipline.Tied store other →
      discipline.Seen scope →
      Jet.InStep discipline discipline.Meets store other (tree.evaluate call scope)
  | .statement tree => ∀ (store other : Store) (scope : Nat), discipline.Tied store other →
      discipline.Own scope →
      Jet.InStep discipline discipline.Meets store other (tree.evaluate call scope)
  | .block trees => ∀ (store other : Store) (scope : Nat) (last : Value),
      discipline.Tied store other → discipline.Own scope → discipline.Meets last →
      Jet.InStep discipline discipline.Meets store other (evaluateStatements call trees last scope)

/-- What was gathered from some trees is good, or the signal among them meets the discipline. -/
def Gathered.Meets (discipline : Discipline) (inside : α → Prop) : Gathered α → Prop
  | .ok values => inside values
  | .error signal => discipline.Meets signal

namespace InStep

open Jet.Computation

variable {call : Call}

theorem evaluateAll {trees : List Expr}
    (each : ∀ tree ∈ trees, Part.InStep discipline call (.expression tree))
    (tied : discipline.Tied store other) (seen : discipline.Seen scope) :
    InStep discipline (Gathered.Meets discipline fun (values : List Value) =>
      ∀ value ∈ values, discipline.Meets value) store other (Jet.evaluateAll call trees scope) := by
  induction trees generalizing store other with
  | nil => exact pure tied fun _ member => absurd member List.not_mem_nil
  | cons tree rest induction =>
      rw [List.forall_mem_cons] at each
      rw [Jet.evaluateAll]
      refine bind (each.1 store other scope tied seen) fun value _ _ tied meets => ?_
      split
      · exact pure tied meets
      · refine bind (induction each.2 tied) fun gathered _ _ tied inside => ?_
        cases gathered with
        | error signal => exact pure tied inside
        | ok values => exact pure tied (List.forall_mem_cons.mpr ⟨meets, inside⟩)

theorem evaluatePairs {trees : List (Expr × Expr)} {entries : List Entry}
    (each : ∀ pair ∈ trees, Part.InStep discipline call (.expression pair.1) ∧
      Part.InStep discipline call (.expression pair.2))
    (tied : discipline.Tied store other) (seen : discipline.Seen scope)
    (inside : ∀ entry ∈ entries, entry.Carries discipline.Callable) :
    InStep discipline (Gathered.Meets discipline fun (entries : List Entry) =>
      ∀ entry ∈ entries, entry.Carries discipline.Callable) store other
        (Jet.evaluatePairs call trees entries scope) := by
  induction trees generalizing store other entries with
  | nil => exact pure tied inside
  | cons pair rest induction =>
      rcases pair with ⟨keyTree, valueTree⟩
      rw [List.forall_mem_cons] at each
      rw [Jet.evaluatePairs]
      refine bind (each.1.1 store other scope tied seen) fun shown _ _ tied shownMeets => ?_
      split
      · exact pure tied shownMeets
      split
      · exact pure tied (Value.carries_of_isAtomic rfl)
      refine bind (each.1.2 _ _ scope tied seen) fun value _ _ tied valueMeets => ?_
      split
      · exact pure tied valueMeets
      · exact induction each.2 tied (Entry.forall_mem_insert inside ⟨shownMeets, valueMeets⟩)

/-- Statements in a new scope. -/
theorem inner {trees : List Stmt}
    (lawful : discipline.IsLawful) (block : Part.InStep discipline call (.block trees))
    (tied : discipline.Tied store other) (seen : discipline.Seen scope) :
    InStep discipline discipline.Meets store other
      (Computation.openScope scope >>= evaluateStatements call trees .null) :=
  bind (lawful.openScope tied seen) fun id _ _ tied own =>
    block _ _ id .null tied own (Value.carries_of_isAtomic rfl)

theorem block {trees : List Stmt}
    (each : ∀ tree ∈ trees, Part.InStep discipline call (.statement tree)) :
    Part.InStep discipline call (.block trees) := by
  intro store other scope last tied own meets
  induction trees generalizing store other last with
  | nil => exact pure tied meets
  | cons tree rest induction =>
      rw [List.forall_mem_cons] at each
      rw [evaluateStatements]
      exact andThen (each.1 store other scope tied own) fun value between otherBetween =>
        induction each.2 between otherBetween value

theorem statement {tree : Stmt}
    (lawful : discipline.IsLawful) (permitted : Part.Permits discipline.Allows (.statement tree))
    (each : ∀ child ∈ Part.children (.statement tree), Part.InStep discipline call child) :
    Part.InStep discipline call (.statement tree) := by
  intro store other scope tied own
  have seen := lawful.seen_of_own own
  cases tree with
  | bind name value =>
      have valueInStep := each _ List.mem_cons_self
      rw [Stmt.evaluate]
      refine andThen (valueInStep store other scope tied seen) fun bound _ _ tied meets => ?_
      have allowed := permitted.holds (.introduced name) List.mem_cons_self
      exact bind (lawful.define tied own allowed meets) fun _ _ _ tied _ => atomic tied rfl
  | «return» value =>
      cases value with
      | none => exact pure tied (Value.carries_of_isAtomic rfl).returned
      | some value =>
          have valueInStep := each _ List.mem_cons_self
          rw [Stmt.evaluate]
          exact andThen (valueInStep store other scope tied seen) fun result _ _ tied meets =>
            pure tied meets.returned
  | expression value => exact each _ List.mem_cons_self store other scope tied seen
  | block body => exact inner lawful (each _ List.mem_cons_self) tied seen

theorem binary {left right : Expr}
    (lawful : discipline.IsLawful)
    (leftInStep : Part.InStep discipline call (.expression left))
    (rightInStep : Part.InStep discipline call (.expression right)) (operator : String) :
    Part.InStep discipline call (.expression (.binary left operator right)) := by
  intro store other scope tied seen
  rw [Expr.evaluate]
  refine andThen (leftInStep store other scope tied seen) fun leftValue _ _ tied _ => ?_
  split
  · split
    · exact atomic tied rfl
    · exact andThen (rightInStep _ _ scope tied seen) fun rightValue _ _ tied _ =>
        atomic tied rfl
  · refine andThen (rightInStep _ _ scope tied seen) fun rightValue _ _ tied _ => ?_
    refine bind (ofExcept tied fun value computed => ?_) fun value _ _ tied meets =>
      renew lawful tied meets
    exact Value.carries_of_isAtomic (isAtomic_binaryOperation computed)

theorem conditional {condition : Expr} {consequence : List Stmt} {alternative : Option (List Stmt)}
    (lawful : discipline.IsLawful)
    (conditionInStep : Part.InStep discipline call (.expression condition))
    (consequenceInStep : Part.InStep discipline call (.block consequence))
    (othersInStep : ∀ block ∈ alternative, Part.InStep discipline call (.block block)) :
    Part.InStep discipline call
      (.expression (.conditional condition consequence alternative)) := by
  intro store other scope tied seen
  rw [Expr.evaluate_conditional]
  refine andThen (conditionInStep store other scope tied seen) fun value _ _ tied _ => ?_
  split
  · exact inner lawful consequenceInStep tied seen
  · cases alternative with
    | none => exact atomic tied rfl
    | some block => exact inner lawful (othersInStep block rfl) tied seen

theorem callExpression {callee : Expr} {arguments : List Expr}
    (calls : call.InStep discipline)
    (calleeInStep : Part.InStep discipline call (.expression callee))
    (each : ∀ tree ∈ arguments, Part.InStep discipline call (.expression tree)) :
    Part.InStep discipline call (.expression (.call callee arguments)) := by
  intro store other scope tied seen
  rw [Expr.evaluate]
  refine andThen (calleeInStep store other scope tied seen) fun function _ _ tied meets => ?_
  refine bind (evaluateAll each tied seen) fun gathered after otherAfter tied inside => ?_
  cases gathered with
  | error signal => exact pure tied inside
  | ok values => exact calls function values after otherAfter tied meets inside

theorem array {elements : List Expr}
    (lawful : discipline.IsLawful)
    (each : ∀ tree ∈ elements, Part.InStep discipline call (.expression tree)) :
    Part.InStep discipline call (.expression (.array elements)) := by
  intro store other scope tied seen
  rw [Expr.evaluate]
  refine bind (evaluateAll each tied seen) fun gathered _ _ tied inside => ?_
  cases gathered with
  | error signal => exact pure tied inside
  | ok values => exact newArray lawful tied inside

theorem hash {pairs : List (Expr × Expr)}
    (lawful : discipline.IsLawful)
    (each : ∀ pair ∈ pairs, Part.InStep discipline call (.expression pair.1) ∧
      Part.InStep discipline call (.expression pair.2)) :
    Part.InStep discipline call (.expression (.hash pairs)) := by
  intro store other scope tied seen
  rw [Expr.evaluate]
  have none : ∀ entry ∈ ([] : List Entry), entry.Carries discipline.Callable :=
    fun _ member => absurd member List.not_mem_nil
  refine bind (evaluatePairs each tied seen none) fun gathered _ _ tied inside => ?_
  cases gathered with
  | error signal => exact pure tied inside
  | ok entries => exact newHash lawful tied inside

theorem index {collection position : Expr}
    (collectionInStep : Part.InStep discipline call (.expression collection))
    (positionInStep : Part.InStep discipline call (.expression position)) :
    Part.InStep discipline call (.expression (.index collection position)) := by
  intro store other scope tied seen
  rw [Expr.evaluate]
  refine andThen (collectionInStep store other scope tied seen) fun value _ _ tied meets => ?_
  exact andThen (positionInStep _ _ scope tied seen) fun place _ _ tied _ =>
    pure tied (meets.indexOperation place)

/-- A function literal makes a function that sees the scope in which it stands. -/
theorem function {parameters : List String} {body : List Stmt}
    (lawful : discipline.IsLawful)
    (permitted : Part.Permits discipline.Allows (.expression (.function parameters body))) :
    Part.InStep discipline call (.expression (.function parameters body)) := by
  intro store other scope tied seen
  rw [Expr.evaluate]
  exact bind (lawful.freshStamp tied) fun stamp _ _ tied _ =>
    pure tied (Value.carries_function ⟨permitted, seen⟩ stamp)

theorem expression {tree : Expr}
    (lawful : discipline.IsLawful) (calls : call.InStep discipline)
    (permitted : Part.Permits discipline.Allows (.expression tree))
    (each : ∀ child ∈ Part.children (.expression tree), Part.InStep discipline call child) :
    Part.InStep discipline call (.expression tree) := by
  cases tree with
  | name name =>
      have allowed := permitted.holds (.read name) List.mem_cons_self
      exact fun store other scope tied seen => evaluateName lawful tied seen allowed
  | integer | float | boolean | string | null =>
      exact fun store other scope tied _ => atomic tied rfl
  | unary operator operand =>
      intro store other scope tied seen
      have operandInStep := each _ List.mem_cons_self
      rw [Expr.evaluate]
      exact andThen (operandInStep store other scope tied seen) fun value _ _ tied _ =>
        renew lawful tied (Value.carries_of_isAtomic (isAtomic_unaryOperation operator value))
  | binary left operator right =>
      exact binary lawful (each _ List.mem_cons_self)
        (each _ (List.mem_cons_of_mem _ List.mem_cons_self)) operator
  | assign name value =>
      intro store other scope tied seen
      have valueInStep := each _ List.mem_cons_self
      have allowed := permitted.holds (.written name) List.mem_cons_self
      rw [Expr.evaluate]
      exact andThen (valueInStep store other scope tied seen) fun value _ _ tied meets =>
        assignName lawful tied seen allowed meets
  | conditional condition consequence alternative =>
      rcases Part.forall_mem_children_conditional.mp each with ⟨condition, consequence, others⟩
      exact conditional lawful condition consequence others
  | function parameters body => exact function lawful permitted
  | call callee arguments =>
      exact callExpression calls (each _ List.mem_cons_self) fun tree member =>
        each _ (List.mem_cons_of_mem _ (List.mem_map_of_mem member))
  | array elements => exact array lawful fun tree member => each _ (List.mem_map_of_mem member)
  | index collection position =>
      exact index (each _ List.mem_cons_self) (each _ (List.mem_cons_of_mem _ List.mem_cons_self))
  | hash pairs => exact hash lawful (Part.forall_mem_children_hash.mp each)

end InStep

/-- Over calls that keep in step, so does the evaluation of every permitted tree. -/
theorem Part.inStep {call : Call} (lawful : discipline.IsLawful) (calls : call.InStep discipline)
    (whole : Part) (permitted : whole.Permits discipline.Allows) :
    whole.InStep discipline call := by
  induction whole using Part.induction with
  | step whole induction =>
      have each : ∀ child ∈ whole.children, child.InStep discipline call := fun child member =>
        induction child member (permitted.child member)
      cases whole with
      | expression tree => exact .expression lawful calls permitted each
      | statement tree => exact .statement lawful permitted each
      | block trees => exact .block fun tree member => each _ (List.mem_map_of_mem member)

/-! ## Calls and programs -/

/-- The body of a function keeps in step, in a new scope that binds the parameters. -/
theorem InStep.body {call : Call} {parameters : List String} {body : List Stmt} {captured : Nat}
    {arguments : List Value}
    (lawful : discipline.IsLawful) (calls : call.InStep discipline)
    (callable : discipline.Callable parameters body captured)
    (tied : discipline.Tied store other)
    (given : ∀ argument ∈ arguments, discipline.Meets argument) :
    InStep discipline discipline.Meets store other (do
      let scope ← Computation.openScope captured
      Computation.defineAll scope (parameters.zip arguments)
      let result ← evaluateStatements call body .null scope
      Pure.pure result.unwrapped) := by
  rcases callable with ⟨permitted, seen⟩
  have allowed : ∀ binding ∈ parameters.zip arguments,
      discipline.Allows (.introduced binding.1) := fun binding member =>
    permitted.holds _ (List.mem_map_of_mem (List.of_mem_zip member).1)
  have passed : ∀ binding ∈ parameters.zip arguments, discipline.Meets binding.2 :=
    fun binding member => given _ (List.of_mem_zip member).2
  have inner := Part.inStep lawful calls (.block body) (permitted.child List.mem_cons_self)
  refine bind (lawful.openScope tied seen) fun scope _ _ tied own => ?_
  refine bind (defineAll lawful tied own allowed passed) fun _ _ _ tied _ => ?_
  refine bind (inner _ _ scope .null tied own (Value.carries_of_isAtomic rfl))
    fun result _ _ tied meets => ?_
  exact pure tied meets.unwrapped

/-- Calls keep in step, however deep they may nest. -/
theorem applyFunction_inStep (lawful : discipline.IsLawful) (limit : Nat) :
    Call.InStep discipline (applyFunction limit) := by
  intro function arguments store other tied meets given
  unfold applyFunction
  split
  · split
    · exact .atomic tied rfl
    · cases limit with
      | zero => exact .halt tied
      | succ limit =>
          have calls := applyFunction_inStep lawful limit
          exact .body lawful calls meets.function tied given
  · exact .builtin lawful tied given _
  · exact .atomic tied rfl

/-- A program keeps in step. -/
theorem Program.run_inStep {program : Program} (lawful : discipline.IsLawful)
    (permitted : Part.Permits discipline.Allows (.block program.statements))
    (tied : discipline.Tied store other) (own : discipline.Own scope) (limit : Nat) :
    InStep discipline discipline.Meets store other (program.run scope limit) := by
  have inner := Part.inStep lawful (applyFunction_inStep lawful limit) _ permitted
  refine .bind (inner store other scope .null tied own (Value.carries_of_isAtomic rfl))
    fun result _ _ tied meets => ?_
  exact .pure tied meets.unwrapped

/-- A part keeps in step in every scope where names may be introduced. -/
theorem Part.evaluate_inStep {part : Part} (lawful : discipline.IsLawful)
    (permitted : part.Permits discipline.Allows) (tied : discipline.Tied store other)
    (own : discipline.Own scope) (limit : Nat) :
    Jet.InStep discipline discipline.Meets store other (part.evaluate limit scope) := by
  have inStep := Part.inStep lawful (applyFunction_inStep lawful limit) part permitted
  cases part with
  | expression => exact inStep store other scope tied (lawful.seen_of_own own)
  | statement => exact inStep store other scope tied own
  | block => exact inStep store other scope .null tied own (Value.carries_of_isAtomic rfl)

end Jet
