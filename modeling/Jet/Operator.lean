import Jet.Number.Literal
import Jet.Value.Basic

/-!
# Operators

The operators on values that were already computed.  Two integers stay integers; if one of two
numbers is a double, arithmetic is done in double precision while comparisons stay exact.

A remainder with an infinite dividend has no value at all: it stops the evaluation for good, where
every other misuse of an operator gives an error value.
-/

namespace Jet

/-- Why an evaluation was cut off without a result. -/
inductive Halt where
  /-- Calls were nested beyond the limit. -/
  | depthExceeded
  /-- A remainder with an infinite dividend was asked for. -/
  | undefinedRemainder
deriving DecidableEq, Repr

/-- A comparison of two values. -/
inductive Comparison where
  | less
  | greater
  | lessEqual
  | greaterEqual
  | equal
  | notEqual
deriving DecidableEq, Repr

/-- An operator on two values. -/
inductive BinaryOperator where
  | add
  | subtract
  | multiply
  | divide
  | remainder
  | compare (comparison : Comparison)
deriving DecidableEq, Repr

/-- The operator that a symbol stands for. -/
def BinaryOperator.ofSymbol? : String → Option BinaryOperator
  | "+" => some .add
  | "-" => some .subtract
  | "*" => some .multiply
  | "/" => some .divide
  | "%" => some .remainder
  | "<" => some (.compare .less)
  | ">" => some (.compare .greater)
  | "<=" => some (.compare .lessEqual)
  | ">=" => some (.compare .greaterEqual)
  | "==" => some (.compare .equal)
  | "!=" => some (.compare .notEqual)
  | _ => none

/-! ## Integers -/

/-- The number of binary digits of the absolute value of an integer. -/
def bitLength (value : Int) : Nat :=
  if value = 0 then 0 else value.natAbs.log2 + 1

/--
Whether an integer has more than a number of decimal digits.  The comparison with a power of ten is
made only if the number of binary digits does not rule it out.
-/
def exceedsDigits (limit : Nat) (value : Int) : Bool :=
  3 * limit < bitLength value && Nat.pow 10 limit ≤ value.natAbs

/--
An integer, refused if it has more decimal digits than a limit allows; a limit of zero allows any
number of them.
-/
def limitedInteger (limit : Nat) (value : Int) : Value :=
  if limit ≠ 0 && exceedsDigits limit value then .error (.integerTooLarge limit) else .integer value

/-- An integer result, refused if it could not be shown. -/
def checkedInteger (value : Int) : Value :=
  limitedInteger digitLimit value

theorem checkedInteger_eq (value : Int) :
    checkedInteger value =
      if exceedsDigits digitLimit value then .error (.integerTooLarge digitLimit)
      else .integer value := rfl

/-- How a comparison of integers comes out. -/
def Comparison.ofInts (left right : Int) : Comparison → Bool
  | .less => left < right
  | .greater => right < left
  | .lessEqual => left ≤ right
  | .greaterEqual => right ≤ left
  | .equal => left == right
  | .notEqual => left != right

/--
The quotient of two integers rounded toward zero: that of their absolute values, which counts as
negative if exactly one of the two is below zero.
-/
def truncatedQuotient (dividend divisor : Int) : Int :=
  let quotient : Nat := dividend.natAbs / divisor.natAbs
  if 0 ≤ dividend ↔ 0 ≤ divisor then quotient else -quotient

theorem truncatedQuotient_eq_tdiv (dividend divisor : Int) :
    truncatedQuotient dividend divisor = dividend.tdiv divisor := by
  unfold truncatedQuotient
  cases dividend with
  | ofNat above =>
      cases divisor with
      | ofNat below => simp
      | negSucc below => simp [Int.tdiv]
  | negSucc above =>
      cases divisor with
      | ofNat below => simp [Int.tdiv]
      | negSucc below => simp [Int.tdiv]

/-- An operator on two integers; a remainder is what the rounded quotient leaves over. -/
def BinaryOperator.onIntegers (left right : Int) : BinaryOperator → Value
  | .add => checkedInteger (left + right)
  | .subtract => checkedInteger (left - right)
  | .multiply => checkedInteger (left * right)
  | .divide =>
      if right = 0 then .error .divisionByZero else .integer (truncatedQuotient left right)
  | .remainder =>
      if right = 0 then .error .divisionByZero
      else .integer (left - right * truncatedQuotient left right)
  | .compare comparison => .boolean (comparison.ofInts left right)

/-! ## Numbers of both kinds -/

/-- A number of either kind. -/
inductive Number where
  | integer (value : Int)
  | double (value : Double)
deriving DecidableEq, Repr

namespace Number

/-- The number that a value is, if it is one. -/
def ofValue? : Value → Option Number
  | .integer value => some (.integer value)
  | .float value => some (.double value)
  | _ => none

/-- The exact value of a number. -/
def exact : Number → Exact
  | .integer value => .ofInt value
  | .double value => .ofDouble value

/-- The number as a double, unless it is an integer beyond the range. -/
def toDouble? : Number → Option Double
  | .integer value => Double.ofInt? value
  | .double value => some value

/-- Whether a number is zero. -/
def isZero : Number → Bool
  | .integer value => value == 0
  | .double value => value.isZero

end Number

/-- How a comparison of exact values comes out. -/
def Comparison.ofExact (left right : Exact) : Comparison → Bool
  | .less => left.less right
  | .greater => right.less left
  | .lessEqual => left.lessEqual right
  | .greaterEqual => right.lessEqual left
  | .equal => left.equal right
  | .notEqual => !left.equal right

/-- A double as the result of an operator. -/
def floatResult (value : Double) : Except Halt Value :=
  .ok (.float value)

/--
An operator on two numbers of which at least one is a double; the fault is given if an integer is
beyond the range of doubles.
-/
def BinaryOperator.onNumbers (overflow : Fault) (left right : Number) :
    BinaryOperator → Except Halt Value
  | .compare comparison => .ok (.boolean (comparison.ofExact left.exact right.exact))
  | .add => converted fun left right => floatResult (left.add right)
  | .subtract => converted fun left right => floatResult (left.sub right)
  | .multiply => converted fun left right => floatResult (left.mul right)
  | .divide =>
      if right.isZero then .ok (.error .divisionByZero)
      else converted fun left right => floatResult (left.div right)
  | .remainder =>
      if right.isZero then .ok (.error .divisionByZero)
      else
        converted fun left right =>
          match left.remainder? right with
          | some rest => floatResult rest
          | none => .error .undefinedRemainder
where
  /-- Goes on with both operands as doubles. -/
  converted (operation : Double → Double → Except Halt Value) : Except Halt Value :=
    match left.toDouble?, right.toDouble? with
    | some left, some right => operation left right
    | _, _ => .ok (.error overflow)

/-! ## Strings and other values -/

/-- How a comparison of strings comes out; strings are ordered by their characters. -/
def Comparison.ofStrings (left right : String) : Comparison → Bool
  | .less => left < right
  | .greater => right < left
  | .lessEqual => !decide (right < left)
  | .greaterEqual => !decide (left < right)
  | .equal => left == right
  | .notEqual => left != right

/-- The error for an operator that has no meaning for two values. -/
def refusedBinary (operator : String) (left right : Value) : Value :=
  if left.kind = right.kind then .error (.unknownBinary left.kind operator right.kind)
  else .error (.typeMismatch left.kind operator right.kind)

/-- Whether two values can be tested for being the same: null can be tested against anything. -/
def areTestable (left right : Value) : Bool :=
  left.kind == right.kind || left.kind == .null || right.kind == .null

/-- An operator on two values that are neither two numbers nor two strings. -/
def otherBinary (operator : String) (left right : Value) : Value :=
  match BinaryOperator.ofSymbol? operator, areTestable left right with
  | some (.compare .equal), true => .boolean (left.isSame right)
  | some (.compare .notEqual), true => .boolean !left.isSame right
  | _, _ => refusedBinary operator left right

/-- An operator on two values. -/
def binaryOperation (operator : String) (left right : Value) : Except Halt Value :=
  match left, right with
  | .integer left, .integer right =>
      match BinaryOperator.ofSymbol? operator with
      | some operation => .ok (operation.onIntegers left right)
      | none => .ok (.error (.unknownBinary .integer operator .integer))
  | .string left, .string right =>
      match BinaryOperator.ofSymbol? operator with
      | some .add => .ok (.string (left ++ right))
      | some (.compare comparison) => .ok (.boolean (comparison.ofStrings left right))
      | _ => .ok (.error (.unknownBinary .string operator .string))
  | left, right =>
      match Number.ofValue? left, Number.ofValue? right with
      | some leftNumber, some rightNumber =>
          match BinaryOperator.ofSymbol? operator with
          | some operation =>
              operation.onNumbers (.numericOverflow left.kind operator right.kind) leftNumber
                rightNumber
          | none => .ok (.error (.unknownBinary .float operator .float))
      | _, _ => .ok (otherBinary operator left right)

/--
An operator with one value as both operands.  A signal has no stamp to be told by, so that only here
it is known to be the same as itself.
-/
def selfOperation (operator : String) (value : Value) : Except Halt Value :=
  match BinaryOperator.ofSymbol? operator, value.isSignal with
  | some (.compare .equal), true => .ok (.boolean true)
  | some (.compare .notEqual), true => .ok (.boolean false)
  | _, _ => binaryOperation operator value value

/-- An operator on one value. -/
def unaryOperation (operator : String) (operand : Value) : Value :=
  match operator, operand with
  | "!", operand => .boolean !operand.isTruthy
  | "-", .integer value => .integer (-value)
  | "-", .float value => .float value.neg
  | operator, operand => .error (.unknownUnary operator operand.kind)

/-! ## Indexing -/

/-- The element at an index, counted from the end if the index is negative. -/
def elementAt (elements : List Value) (index : Int) : Value :=
  let position := if index < 0 then index + elements.length else index
  if position < 0 then .null else elements.getD position.toNat .null

/-- The value found in a collection. -/
def indexOperation (collection index : Value) : Value :=
  match collection with
  | .array _ elements =>
      match index with
      | .integer value => elementAt elements value
      | index => .error (.arrayIndex index.kind)
  | .hash _ entries =>
      match index.key? with
      | some key => (Entry.find? key entries).getD .null
      | none => .error (.unusableKey index.kind)
  | collection => .error (.notIndexable collection.kind)

end Jet
