import Jet.Token.Kind

/-!
# Binding powers

How tightly a token binds the expression on its left when it stands inside an expression, and how
tightly its right operand must bind.  All operators group to the left but the assignment, which
groups to the right.
-/

namespace Jet

/-- The side to which operators of equal power group. -/
inductive Associativity where
  | left
  | right
deriving DecidableEq, Repr

/-- The power below that of every operator. -/
def lowestPower : Nat := 1

/-- The power with which a unary operator binds its operand. -/
def unaryPower : Nat := 9

namespace Kind

/-- The power of a token inside an expression; one that cannot stand there has the lowest. -/
def power : Kind → Nat
  | assign => 2
  | or => 3
  | and => 4
  | equal | notEqual => 5
  | less | greater | lessEqual | greaterEqual => 6
  | plus | minus => 7
  | asterisk | slash | percent => 8
  | leftParen => 10
  | leftBracket => 11
  | _ => lowestPower

/-- The side to which an operator groups. -/
def associativity : Kind → Associativity
  | assign => .right
  | _ => .left

/-- The power that the operators inside a right operand have to exceed. -/
def rightPower (kind : Kind) : Nat :=
  match kind.associativity with
  | .left => kind.power
  | .right => kind.power - 1

/-- Whether a token may stand at the start of an expression, if only to be refused there. -/
def startsExpression : Kind → Bool
  | identifier | integer | float | string | trueWord | falseWord | nullWord | illegal | bang
  | minus | ifWord | fnWord | leftBrace | leftParen | leftBracket => true
  | _ => false

/-- Whether a token may follow an expression and go on with it. -/
def continuesExpression (kind : Kind) : Bool :=
  lowestPower < kind.power

end Kind

end Jet
