import Jet.Builtin

/-!
# Evaluation

The meaning of trees.  Evaluation goes by the shape of the tree, over a function that calls function
values; calls in turn go by the number of nested calls that are still allowed.  Parts are evaluated
in the order in which they are written, and the first signal among them is the result of the whole.
-/

namespace Jet

open Jet.Computation

/-- A way of calling function values. -/
abbrev Call := Value → List Value → Computation Value

/-- The value of a name: what it is bound to, else the builtin of that name. -/
def evaluateName (scope : Nat) (name : String) : Computation Value := do
  match ← lookup scope name with
  | some value => pure value
  | none =>
      match Builtin.ofName? name with
      | some builtin => pure (.builtin builtin)
      | none => pure (.error (.nameNotFound name))

/-- Gives a name that is already bound a new value, which is also the result. -/
def assignName (scope : Nat) (name : String) (value : Value) : Computation Value := do
  if ← assign scope name value then pure value
  else pure (.error (.undeclaredTarget name))

/-- The operators that may leave their right operand out. -/
inductive Connective where
  | and
  | or
deriving DecidableEq, Repr

namespace Connective

/-- The connective that a symbol stands for. -/
def ofSymbol? : String → Option Connective
  | "&&" => some and
  | "||" => some or
  | _ => none

/-- Whether the left operand settles the result, which then is its truth. -/
def isSettledBy (connective : Connective) (left : Value) : Bool :=
  match connective with
  | and => !left.isTruthy
  | or => left.isTruthy

end Connective

/-- The values of some expressions, or the first signal among them. -/
abbrev Gathered (α : Type) := Except Value α

mutual

/-- Evaluates an expression in a scope. -/
def Expr.evaluate (call : Call) : Expr → Nat → Computation Value
  | .name name, scope => evaluateName scope name
  | .integer value, _ => pure (.integer value)
  | .float value, _ => pure (.float value)
  | .boolean value, _ => pure (.boolean value)
  | .string value, _ => pure (.string value)
  | .null, _ => pure .null
  | .unary operator operand, scope =>
      andThen (operand.evaluate call scope) fun value => renew (unaryOperation operator value)
  | .binary left operator right, scope =>
      andThen (left.evaluate call scope) fun leftValue =>
        match Connective.ofSymbol? operator with
        | some connective =>
            if connective.isSettledBy leftValue then pure (.boolean leftValue.isTruthy)
            else
              andThen (right.evaluate call scope) fun rightValue =>
                pure (.boolean rightValue.isTruthy)
        | none =>
            andThen (right.evaluate call scope) fun rightValue => do
              renew (← ofExcept (binaryOperation operator leftValue rightValue))
  | .assign name value, scope =>
      andThen (value.evaluate call scope) (assignName scope name)
  | .conditional condition consequence alternative, scope =>
      andThen (condition.evaluate call scope) fun value =>
        if value.isTruthy then do
          evaluateStatements call consequence .null (← openScope scope)
        else
          match alternative with
          | some alternative => do evaluateStatements call alternative .null (← openScope scope)
          | none => pure .null
  | .function parameters body, scope => do
      pure (.function (← freshStamp) parameters body scope)
  | .call callee arguments, scope =>
      andThen (callee.evaluate call scope) fun function => do
        match ← evaluateAll call arguments scope with
        | .ok values => call function values
        | .error signal => pure signal
  | .array elements, scope => do
      match ← evaluateAll call elements scope with
      | .ok values => newArray values
      | .error signal => pure signal
  | .index collection position, scope =>
      andThen (collection.evaluate call scope) fun collectionValue =>
        andThen (position.evaluate call scope) fun positionValue =>
          pure (indexOperation collectionValue positionValue)
  | .hash pairs, scope => do
      match ← evaluatePairs call pairs [] scope with
      | .ok entries => newHash entries
      | .error signal => pure signal

/-- Evaluates expressions in order, up to the first signal. -/
def evaluateAll (call : Call) : List Expr → Nat → Computation (Gathered (List Value))
  | [], _ => pure (.ok [])
  | expression :: rest, scope => do
      let value ← expression.evaluate call scope
      if value.isSignal then pure (.error value)
      else
        match ← evaluateAll call rest scope with
        | .ok values => pure (.ok (value :: values))
        | .error signal => pure (.error signal)

/-- Adds the pairs of a hash literal to some entries in order, each key before its value. -/
def evaluatePairs (call : Call) :
    List (Expr × Expr) → List Entry → Nat → Computation (Gathered (List Entry))
  | [], entries, _ => pure (.ok entries)
  | (keyExpression, valueExpression) :: rest, entries, scope => do
      let shown ← keyExpression.evaluate call scope
      if shown.isSignal then pure (.error shown)
      else
        match shown.key? with
        | none => pure (.error (.error (.unusableKey shown.kind)))
        | some key => do
            let value ← valueExpression.evaluate call scope
            if value.isSignal then pure (.error value)
            else evaluatePairs call rest (Entry.insert (.mk key shown value) entries) scope

/-- Evaluates a statement in a scope. -/
def Stmt.evaluate (call : Call) : Stmt → Nat → Computation Value
  | .bind name value, scope =>
      andThen (value.evaluate call scope) fun bound => do
        define scope name bound
        pure .null
  | .return none, _ => pure (.returned .null)
  | .return (some value), scope =>
      andThen (value.evaluate call scope) fun result => pure (.returned result)
  | .expression value, scope => value.evaluate call scope
  | .block body, scope => do
      evaluateStatements call body .null (← openScope scope)

/-- Evaluates statements in order, up to the first signal; the last result is that of the whole. -/
def evaluateStatements (call : Call) : List Stmt → Value → Nat → Computation Value
  | [], last, _ => pure last
  | statement :: rest, _, scope =>
      andThen (statement.evaluate call scope) fun value =>
        evaluateStatements call rest value scope

end

/-- A conditional goes on with the block that its condition chooses, if there is one. -/
theorem Expr.evaluate_conditional (call : Call) (condition : Expr) (consequence : List Stmt)
    (alternative : Option (List Stmt)) (scope : Nat) :
    (Expr.conditional condition consequence alternative).evaluate call scope =
      andThen (condition.evaluate call scope) fun value =>
        if value.isTruthy then do
          evaluateStatements call consequence .null (← openScope scope)
        else
          match alternative with
          | some alternative => do evaluateStatements call alternative .null (← openScope scope)
          | none => pure .null := by
  cases alternative <;> rw [Expr.evaluate]

/-- The value that a call or a program ends with: a returned value is taken out of its signal. -/
def Value.unwrapped : Value → Value
  | .returned value => value
  | value => value

/--
Calls a function value with so many nested calls allowed inside.  The body runs in a new scope
inside the one in which the function was made.
-/
def applyFunction : Nat → Call
  | limit, function, arguments =>
      match function with
      | .function _ parameters body captured =>
          if arguments.length ≠ parameters.length then
            pure (.error (.wrongArity parameters.length arguments.length))
          else
            match limit with
            | 0 => halt .depthExceeded
            | limit + 1 => do
                let scope ← openScope captured
                defineAll scope (parameters.zip arguments)
                let result ← evaluateStatements (applyFunction limit) body .null scope
                pure result.unwrapped
      | .builtin builtin => builtin.apply arguments
      | other => pure (.error (.notFunction other.kind))

/-- Runs a program in a scope: a `return` outside of all functions ends it early. -/
def Program.run (program : Program) (scope limit : Nat) : Computation Value := do
  let result ← evaluateStatements (applyFunction limit) program.statements .null scope
  pure result.unwrapped

-- A function that is called writes to a name of the scope in which it was made.
example :
    let writing : Expr := .function ["x"] [.expression (.assign "n" (.name "x"))]
    let program : Program := ⟨[.bind "n" .null, .expression (.call writing [.integer 2]),
      .expression (.name "n")]⟩
    (program.run 0 1 .initial).1 = .ok (.integer 2) := by cbv

end Jet
