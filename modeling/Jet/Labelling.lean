import Jet.Computation

/-!
# Labelled trees

A literal that is not a number is one and the same number however often it is evaluated, and no
other literal is that number.  Labelling a tree gives each such literal a stamp of its own.  Source
texts have no such literals, so only trees that were made in another way need labels.
-/

namespace Jet

open Jet.Computation

/-- Gives a number that is not a number a stamp of its own. -/
def Double.labelled : Double → Computation Double
  | .nan _ => do pure (.nan (← freshStamp))
  | number => pure number

mutual

/-- Labels an expression. -/
def Expr.labelled : Expr → Computation Expr
  | .float value => do pure (.float (← value.labelled))
  | .unary operator operand => do pure (.unary operator (← operand.labelled))
  | .binary left operator right => do
      let left ← left.labelled
      pure (.binary left operator (← right.labelled))
  | .assign name value => do pure (.assign name (← value.labelled))
  | .conditional condition consequence alternative => do
      let condition ← condition.labelled
      let consequence ← labelledStatements consequence
      match alternative with
      | some alternative => do
          pure (.conditional condition consequence (some (← labelledStatements alternative)))
      | none => pure (.conditional condition consequence none)
  | .function parameters body => do pure (.function parameters (← labelledStatements body))
  | .call callee arguments => do
      let callee ← callee.labelled
      pure (.call callee (← labelledAll arguments))
  | .array elements => do pure (.array (← labelledAll elements))
  | .index collection position => do
      let collection ← collection.labelled
      pure (.index collection (← position.labelled))
  | .hash pairs => do pure (.hash (← labelledPairs pairs))
  | .name name => pure (.name name)
  | .integer value => pure (.integer value)
  | .boolean value => pure (.boolean value)
  | .string value => pure (.string value)
  | .null => pure .null

/-- Labels expressions in order. -/
def labelledAll : List Expr → Computation (List Expr)
  | [] => pure []
  | expression :: rest => do
      let expression ← expression.labelled
      pure (expression :: (← labelledAll rest))

/-- Labels the keys and values of a hash literal in order. -/
def labelledPairs : List (Expr × Expr) → Computation (List (Expr × Expr))
  | [] => pure []
  | (key, value) :: rest => do
      let key ← key.labelled
      let value ← value.labelled
      pure ((key, value) :: (← labelledPairs rest))

/-- Labels a statement. -/
def Stmt.labelled : Stmt → Computation Stmt
  | .bind name value => do pure (.bind name (← value.labelled))
  | .return none => pure (.return none)
  | .return (some value) => do pure (.return (some (← value.labelled)))
  | .expression value => do pure (.expression (← value.labelled))
  | .block body => do pure (.block (← labelledStatements body))

/-- Labels statements in order. -/
def labelledStatements : List Stmt → Computation (List Stmt)
  | [] => pure []
  | statement :: rest => do
      let statement ← statement.labelled
      pure (statement :: (← labelledStatements rest))

end

/-- Labels a program. -/
def Program.labelled (program : Program) : Computation Program := do
  pure ⟨← labelledStatements program.statements⟩

end Jet
