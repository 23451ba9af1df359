import Jet.Proofs.Evaluation.Hygiene
import Jet.Proofs.Evaluation.Steps

/-!
# The order of evaluation

A part of a tree first has its operands evaluated, in the order in which they are written and each
in the store that the one before has left, and then does something of its own with their values.
The first operand that ends with a signal ends the whole part with that signal, in the store that it
has left.  Two kinds of parts may be settled earlier: a connective by its left operand, and a hash by
a key that cannot be used.

`Part.evaluate_eq_inTurn` says this of all parts at once.
-/

namespace Jet

open Jet.Computation

/-! ## Operands -/

/-- The error for a value that cannot be used as a key, if it is the last of keys and values. -/
def unusableKey? : List Value → Option Value
  | [] => none
  | [shown] =>
      match shown.key? with
      | some _ => none
      | none => some (.error (.unusableKey shown.kind))
  | _ :: _ :: rest => unusableKey? rest

/-- The result of an operator whose left operand settles it, if no other value is there yet. -/
def shortCut? (operator : String) : List Value → Option Value
  | [left] =>
      match Connective.ofSymbol? operator with
      | some connective =>
          if connective.isSettledBy left then some (.boolean left.isTruthy) else none
      | none => none
  | _ => none

/-- Adds keys, each in front of its value, to some entries in order. -/
def Entry.insertAll (entries : List Entry) : List Value → List Entry
  | shown :: value :: rest =>
      match shown.key? with
      | some key => insertAll (insert (.mk key shown value) entries) rest
      | none => insertAll entries rest
  | _ => entries

namespace Part

/--
The parts that are evaluated before a part does anything of its own, in the order in which they are
written.  Branches, bodies and inner blocks are not among them, as each gets a scope of its own.
-/
def operands : Part → List Part
  | .expression (.conditional condition _ _) => [.expression condition]
  | .expression (.function _ _) => []
  | .statement (.block _) => []
  | whole => whole.children

/-- The result of a part that the values of its first operands settle. -/
def settled? (whole : Part) (values : List Value) : Option Value :=
  match whole with
  | .expression (.binary _ operator _) => shortCut? operator values
  | .expression (.hash _) => unusableKey? values
  | _ => none

/-- What a part does of its own with the values of its operands. -/
def complete (limit scope : Nat) : Part → List Value → Computation Value
  | .expression (.name name), [] => evaluateName scope name
  | .expression (.integer value), [] => pure (.integer value)
  | .expression (.float value), [] => pure (.float value)
  | .expression (.boolean value), [] => pure (.boolean value)
  | .expression (.string value), [] => pure (.string value)
  | .expression (.unary operator _), [value] => renew (unaryOperation operator value)
  | .expression (.binary _ operator _), [left, right] =>
      match Connective.ofSymbol? operator with
      | some _ => pure (.boolean right.isTruthy)
      | none => do renew (← ofExcept (binaryOperation operator left right))
  | .expression (.assign name _), [value] => assignName scope name value
  | .expression (.conditional _ consequence alternative), [value] =>
      if value.isTruthy then do Part.evaluate limit (.block consequence) (← openScope scope)
      else
        match alternative with
        | some alternative => do Part.evaluate limit (.block alternative) (← openScope scope)
        | none => pure .null
  | .expression (.function parameters body), [] => do
      pure (.function (← freshStamp) parameters body scope)
  | .expression (.call _ _), function :: arguments => applyFunction limit function arguments
  | .expression (.array _), values => newArray values
  | .expression (.index _ _), [collection, position] => pure (indexOperation collection position)
  | .expression (.hash _), values => newHash (Entry.insertAll [] values)
  | .statement (.bind name _), [value] => do
      define scope name value
      pure .null
  | .statement (.return (some _)), [value] => pure (.returned value)
  | .statement (.return none), [] => pure (.returned .null)
  | .statement (.expression _), [value] => pure value
  | .statement (.block body), [] => do Part.evaluate limit (.block body) (← openScope scope)
  | .block _, values => pure (values.getLastD .null)
  | _, _ => pure .null

end Part

/--
The values of parts that are evaluated one after another, behind some values, or the first signal;
nothing more is evaluated as soon as the values settle a result.
-/
def inTurn (limit scope : Nat) (settled? : List Value → Option Value) :
    List Part → List Value → Computation (Gathered (List Value))
  | [], values => pure (.ok values)
  | part :: rest, values =>
      match settled? values with
      | some result => pure (.error result)
      | none => do
          let value ← part.evaluate limit scope
          if value.isSignal then pure (.error value)
          else inTurn limit scope settled? rest (values ++ [value])

/-- Goes on with what is gathered, unless there is a result already. -/
def onGathered {α : Type} (first : Computation (Gathered α)) (next : α → Computation Value) :
    Computation Value := do
  match ← first with
  | .ok values => next values
  | .error result => pure result

/-! ## Lists of parts -/

section Lists

variable {limit scope : Nat} {α : Type}

theorem onGathered_ok (values : α) (next : α → Computation Value) :
    onGathered (pure (.ok values)) next = next values :=
  rfl

theorem onGathered_bind {β : Type} (first : Computation β) (more : β → Computation (Gathered α))
    (next : α → Computation Value) :
    onGathered (first >>= more) next = first >>= fun value => onGathered (more value) next := by
  simp only [onGathered, bind_assoc]

theorem bind_eq_onGathered {first : Computation (Gathered α)} {next : α → Computation Value}
    {cases : Gathered α → Computation Value}
    (goesOn : ∀ values, cases (.ok values) = next values)
    (ends : ∀ result, cases (.error result) = pure result) :
    first >>= cases = onGathered first next := by
  refine bind_congr fun gathered => ?_
  cases gathered with
  | ok values => exact goesOn values
  | error result => exact ends result

/-- One more part in turn. -/
theorem onGathered_inTurn_cons (part : Part) (rest : List Part) (values : List Value)
    (next : List Value → Computation Value) {settled? : List Value → Option Value}
    (unsettled : settled? values = none) :
    onGathered (inTurn limit scope settled? (part :: rest) values) next =
      andThen (part.evaluate limit scope) fun value =>
        onGathered (inTurn limit scope settled? rest (values ++ [value])) next := by
  rw [inTurn, unsettled]
  dsimp only
  rw [onGathered_bind]
  refine bind_congr fun value => ?_
  split <;> rfl

/-- One part alone. -/
theorem onGathered_inTurn_one (part : Part) (next : List Value → Computation Value)
    {settled? : List Value → Option Value} (unsettled : settled? [] = none) :
    onGathered (inTurn limit scope settled? [part] []) next =
      andThen (part.evaluate limit scope) fun value => next [value] :=
  onGathered_inTurn_cons part [] [] next unsettled

/-- One part after another, unless the first one settles the result. -/
theorem onGathered_inTurn_two (first second : Part) (next : List Value → Computation Value)
    {settled? : List Value → Option Value} (unsettled : settled? [] = none) :
    onGathered (inTurn limit scope settled? [first, second] []) next =
      andThen (first.evaluate limit scope) fun firstValue =>
        match settled? [firstValue] with
        | some result => pure result
        | none =>
            andThen (second.evaluate limit scope) fun secondValue =>
              next [firstValue, secondValue] := by
  rw [onGathered_inTurn_cons first [second] [] next unsettled]
  refine andThen_congr fun firstValue _ => ?_
  rw [List.nil_append]
  cases settled : settled? [firstValue] with
  | some result =>
      rw [inTurn, settled]
      rfl
  | none => exact onGathered_inTurn_cons second [] [firstValue] next settled

/-- Expressions are evaluated in turn. -/
theorem onGathered_inTurn_expressions (trees : List Expr) (values : List Value)
    (next : List Value → Computation Value) :
    onGathered (inTurn limit scope (fun _ => none) (trees.map .expression) values) next =
      onGathered (evaluateAll (applyFunction limit) trees scope) fun others =>
        next (values ++ others) := by
  induction trees generalizing values with
  | nil =>
      rw [List.map_nil, inTurn, evaluateAll, onGathered_ok, onGathered_ok, List.append_nil]
  | cons tree rest induction =>
      rw [List.map_cons, onGathered_inTurn_cons _ _ _ _ rfl, evaluateAll, onGathered_bind]
      refine bind_congr fun value => ?_
      split
      · rfl
      · dsimp only
        rw [induction, onGathered_bind]
        refine bind_congr fun gathered => ?_
        cases gathered with
        | error signal => rfl
        | ok others => exact congrArg next (List.append_assoc values [value] others)

/-- Statements are evaluated in turn, and the last value is that of all. -/
theorem onGathered_inTurn_statements (trees : List Stmt) (values : List Value) :
    onGathered (inTurn limit scope (fun _ => none) (trees.map .statement) values)
        (fun values => pure (values.getLastD .null)) =
      evaluateStatements (applyFunction limit) trees (values.getLastD .null) scope := by
  induction trees generalizing values with
  | nil => rfl
  | cons tree rest induction =>
      rw [List.map_cons, onGathered_inTurn_cons _ _ _ _ rfl, evaluateStatements]
      refine andThen_congr fun value _ => ?_
      rw [induction, List.getLastD_concat]

/-- Keys and values are evaluated in turn, as far as the keys can be used. -/
theorem onGathered_inTurn_pairs (pairs : List (Expr × Expr)) {entries : List Entry}
    {values : List Value}
    (usable : ∀ more, unusableKey? (values ++ more) = unusableKey? more)
    (collected : ∀ more, Entry.insertAll [] (values ++ more) = Entry.insertAll entries more) :
    onGathered
        (inTurn limit scope unusableKey?
          (pairs.flatMap fun pair => [.expression pair.1, .expression pair.2]) values)
        (fun values => newHash (Entry.insertAll [] values)) =
      onGathered (evaluatePairs (applyFunction limit) pairs entries scope) newHash := by
  induction pairs generalizing entries values with
  | nil =>
      have all := collected []
      rw [List.append_nil] at all
      rw [List.flatMap_nil, inTurn, evaluatePairs, onGathered_ok, onGathered_ok, all]
      rfl
  | cons pair rest induction =>
      have noneYet := usable []
      rw [List.append_nil] at noneYet
      rw [List.flatMap_cons, List.cons_append, onGathered_inTurn_cons _ _ _ _ noneYet,
        evaluatePairs, onGathered_bind]
      refine bind_congr fun shown => ?_
      split
      · rfl
      dsimp only
      have settled := usable [shown]
      rw [unusableKey?] at settled
      cases found : shown.key? with
      | none =>
          rw [found] at settled
          rw [List.cons_append, inTurn, settled]
          rfl
      | some key =>
          rw [found] at settled
          rw [List.cons_append, onGathered_inTurn_cons _ _ _ _ settled, List.nil_append]
          dsimp only
          rw [onGathered_bind]
          refine bind_congr fun value => ?_
          split
          · rfl
          · refine induction (fun more => ?_) fun more => ?_
            · rw [List.append_assoc, List.append_assoc, usable]
              rfl
            · rw [List.append_assoc, List.append_assoc, collected, List.singleton_append,
                List.singleton_append, Entry.insertAll, found]

end Lists

/-! ## All parts -/

namespace Part

variable (limit scope : Nat)

theorem evaluate_binary_eq_inTurn (left right : Expr) (operator : String) :
    Part.evaluate limit (.expression (.binary left operator right)) scope =
      onGathered
        (inTurn limit scope (settled? (.expression (.binary left operator right)))
          [.expression left, .expression right] [])
        (complete limit scope (.expression (.binary left operator right))) := by
  rw [onGathered_inTurn_two _ _ _ rfl, Part.evaluate, Expr.evaluate]
  refine andThen_congr fun leftValue _ => ?_
  simp only [settled?, shortCut?, complete]
  cases Connective.ofSymbol? operator with
  | none => rfl
  | some connective =>
      dsimp only
      split <;> rfl

theorem evaluate_conditional_eq_inTurn (condition : Expr) (consequence : List Stmt)
    (alternative : Option (List Stmt)) :
    Part.evaluate limit (.expression (.conditional condition consequence alternative)) scope =
      onGathered
        (inTurn limit scope
          (settled? (.expression (.conditional condition consequence alternative)))
          [.expression condition] [])
        (complete limit scope (.expression (.conditional condition consequence alternative))) := by
  rw [onGathered_inTurn_one _ _ rfl, Part.evaluate, Expr.evaluate_conditional]
  rfl

theorem evaluate_call_eq_inTurn (callee : Expr) (arguments : List Expr) :
    Part.evaluate limit (.expression (.call callee arguments)) scope =
      onGathered
        (inTurn limit scope (settled? (.expression (.call callee arguments)))
          (.expression callee :: arguments.map .expression) [])
        (complete limit scope (.expression (.call callee arguments))) := by
  rw [onGathered_inTurn_cons _ _ _ _ rfl, Part.evaluate, Expr.evaluate]
  refine andThen_congr fun function _ => ?_
  refine Eq.trans ?_ (onGathered_inTurn_expressions arguments [function]
    (complete limit scope (.expression (.call callee arguments)))).symm
  exact bind_eq_onGathered (fun _ => rfl) fun _ => rfl

/--
A part has its operands evaluated in turn, and then does something of its own with their values.
-/
theorem evaluate_eq_inTurn (whole : Part) :
    whole.evaluate limit scope =
      onGathered (inTurn limit scope whole.settled? whole.operands [])
        (whole.complete limit scope) := by
  cases whole with
  | expression tree =>
      cases tree with
      | name | integer | float | boolean | string | null | function =>
          rw [Part.evaluate, Expr.evaluate]
          rfl
      | unary | assign =>
          rw [Part.evaluate, Expr.evaluate]
          exact Eq.symm (onGathered_inTurn_one _ _ rfl)
      | binary left operator right =>
          exact evaluate_binary_eq_inTurn limit scope left right operator
      | conditional condition consequence alternative =>
          exact evaluate_conditional_eq_inTurn limit scope condition consequence alternative
      | call callee arguments => exact evaluate_call_eq_inTurn limit scope callee arguments
      | array elements =>
          rw [Part.evaluate, Expr.evaluate]
          refine Eq.trans ?_ (onGathered_inTurn_expressions elements [] newArray).symm
          exact bind_eq_onGathered (fun _ => rfl) fun _ => rfl
      | index collection position =>
          rw [Part.evaluate, Expr.evaluate]
          exact Eq.symm (onGathered_inTurn_two _ _ _ rfl)
      | hash pairs =>
          rw [Part.evaluate, Expr.evaluate]
          refine Eq.trans (bind_eq_onGathered (fun _ => rfl) fun _ => rfl) ?_
          exact Eq.symm (onGathered_inTurn_pairs pairs (fun _ => rfl) fun _ => rfl)
  | statement tree =>
      cases tree with
      | bind name value =>
          rw [Part.evaluate, Stmt.evaluate]
          exact Eq.symm (onGathered_inTurn_one _ _ rfl)
      | «return» value =>
          cases value with
          | none =>
              rw [Part.evaluate, Stmt.evaluate]
              rfl
          | some value =>
              rw [Part.evaluate, Stmt.evaluate]
              exact Eq.symm (onGathered_inTurn_one _ _ rfl)
      | expression value =>
          rw [Part.evaluate, Stmt.evaluate]
          refine Eq.trans (andThen_pure_right _).symm ?_
          exact Eq.symm (onGathered_inTurn_one _ _ rfl)
      | block body =>
          rw [Part.evaluate, Stmt.evaluate]
          rfl
  | block trees => exact (onGathered_inTurn_statements trees []).symm

end Part

/-! ## Values in order -/

/--
Whether parts that are evaluated in a scope, each in the store that the one before has left, all end
with values and no signals.
-/
inductive Yields (limit scope : Nat) : List Part → Store → List Value → Store → Prop where
  | nil {store : Store} : Yields limit scope [] store [] store
  | cons {part : Part} {rest : List Part} {value : Value} {values : List Value}
      {store between after : Store}
      (ended : part.evaluate limit scope store = (.ok value, between))
      (noSignal : value.isSignal = false)
      (later : Yields limit scope rest between values after) :
      Yields limit scope (part :: rest) store (value :: values) after

/-- Whether no values at the front of some, nor all of them, settle the result of a part. -/
def Part.Unsettled (whole : Part) (values : List Value) : Prop :=
  ∀ given, given <+: values → whole.settled? given = none

variable {limit scope : Nat} {store between after : Store}

/-- Parts that yield values are passed by. -/
theorem inTurn_append {settled? : List Value → Option Value} {front : List Part}
    {values : List Value} (seen : List Value)
    (yields : Yields limit scope front store values between)
    (unsettled : ∀ given, given <+: values → settled? (seen ++ given) = none) (rest : List Part) :
    inTurn limit scope settled? (front ++ rest) seen store =
      inTurn limit scope settled? rest (seen ++ values) between := by
  induction yields generalizing seen with
  | nil => rw [List.nil_append, List.append_nil]
  | cons ended noSignal later induction =>
      have noneYet := unsettled [] (List.nil_prefix)
      rw [List.append_nil] at noneYet
      rw [List.cons_append, inTurn, noneYet]
      refine (bind_of_ok ended _).trans ?_
      rw [if_neg (by simp [noSignal]), induction (seen ++ [_]) fun given front => ?_]
      · rw [List.append_assoc]
        rfl
      · rw [List.append_assoc]
        exact unsettled _ (List.cons_prefix_cons.mpr ⟨rfl, front⟩)

/-- A part all of whose operands yield values goes on with these in the store that is left. -/
theorem Part.evaluate_of_yields {whole : Part} {values : List Value}
    (yields : Yields limit scope whole.operands store values between)
    (unsettled : whole.Unsettled values) :
    whole.evaluate limit scope store = whole.complete limit scope values between := by
  have gathered := inTurn_append [] yields unsettled []
  rw [List.append_nil, List.nil_append, inTurn] at gathered
  rw [evaluate_eq_inTurn]
  exact bind_of_ok gathered _

end Jet
