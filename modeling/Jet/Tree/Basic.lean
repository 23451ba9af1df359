import Jet.Number.Double

/-!
# Program trees

Expressions, statements and programs.  A block is the list of its statements.  Operators are kept
as they are spelled: the grammar only ever builds trees with the operators of the language, but a
tree may hold any.
-/

namespace Jet

mutual

/-- An expression. -/
inductive Expr where
  | name (name : String)
  | integer (value : Int)
  | float (value : Double)
  | boolean (value : Bool)
  | string (value : String)
  | null
  | unary (operator : String) (operand : Expr)
  | binary (left : Expr) (operator : String) (right : Expr)
  | assign (name : String) (value : Expr)
  | conditional (condition : Expr) (consequence : List Stmt) (alternative : Option (List Stmt))
  | function (parameters : List String) (body : List Stmt)
  | call (callee : Expr) (arguments : List Expr)
  | array (elements : List Expr)
  | index (collection : Expr) (position : Expr)
  | hash (pairs : List (Expr × Expr))

/-- A statement. -/
inductive Stmt where
  | bind (name : String) (value : Expr)
  | return (value : Option Expr)
  | expression (value : Expr)
  | block (body : List Stmt)

end

/-- A block or the body of a function. -/
abbrev Block := List Stmt

/-- A whole program. -/
structure Program where
  statements : List Stmt

instance : Inhabited Expr := ⟨.null⟩

instance : Inhabited Stmt := ⟨.block []⟩

/-- Whether a statement introduces a name. -/
def Stmt.isBinding : Stmt → Bool
  | .bind .. => true
  | _ => false

end Jet
