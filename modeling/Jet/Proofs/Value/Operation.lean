import Jet.Proofs.Value.Correspondence

/-!
# Operations on matching values

Whatever an operator, an index or a builtin does with values, it does with the values that match
them, and the results match.  What an operator gives is only known up to the stamp of a number that
is not a number: it may give one with a stamp that stands for nothing, which is made anew behind it.
-/

namespace Jet

variable {numbering : Renumbering}

/-! ## Numbers -/

namespace Double

/-- Whether two doubles are the same, or both not a number. -/
def Alike (left right : Double) : Prop :=
  left = right ∨ left.isNaN = true ∧ right.isNaN = true

/-- Whether an operation on doubles gives what is not a number for what is not a number. -/
structure Absorbs (operation : Double → Double → Double) : Prop where
  left : ∀ left right, left.isNaN = true → (operation left right).isNaN = true
  right : ∀ left right, right.isNaN = true → (operation left right).isNaN = true

/-- Such an operation gives what is alike for what is alike. -/
theorem Absorbs.alike {operation : Double → Double → Double} {left right other another : Double}
    (absorbs : Absorbs operation) (first : left.Alike other) (second : right.Alike another) :
    (operation left right).Alike (operation other another) := by
  rcases first with rfl | ⟨leftNaN, otherNaN⟩
  · rcases second with rfl | ⟨rightNaN, anotherNaN⟩
    · exact .inl rfl
    · exact .inr ⟨absorbs.right _ _ rightNaN, absorbs.right _ _ anotherNaN⟩
  · exact .inr ⟨absorbs.left _ _ leftNaN, absorbs.left _ _ otherNaN⟩

theorem absorbs_add : Absorbs add := by
  constructor <;> rintro (_ | _ | _) (_ | _ | _) <;> first | exact fun _ => rfl | exact nofun

theorem absorbs_sub : Absorbs sub := by
  constructor <;> rintro (_ | _ | _) (_ | _ | _) <;> first | exact fun _ => rfl | exact nofun

theorem absorbs_mul : Absorbs mul := by
  constructor <;> rintro (_ | _ | _) (_ | _ | _) <;> first | exact fun _ => rfl | exact nofun

theorem absorbs_div : Absorbs div := by
  constructor <;> rintro (_ | _ | _) (_ | _ | _) <;> first | exact fun _ => rfl | exact nofun

/-- The remainders of what is alike are alike, and there are none for the same operands. -/
theorem Alike.remainder? {left right other another : Double}
    (first : left.Alike other) (second : right.Alike another) :
    Option.Rel Alike (left.remainder? right) (other.remainder? another) := by
  have notANumber (tag otherTag : Nat) : Alike (.nan tag) (.nan otherTag) := .inr ⟨rfl, rfl⟩
  have same (result : Option Double) : Option.Rel Alike result result := by
    cases result with
    | none => exact .none
    | some number => exact .some (.inl rfl)
  rcases first with rfl | ⟨leftNaN, otherNaN⟩
  · rcases second with rfl | ⟨rightNaN, anotherNaN⟩
    · exact same _
    · cases right <;> cases rightNaN
      cases another <;> cases anotherNaN
      cases left <;> exact .some (notANumber _ _)
  · cases left <;> cases leftNaN
    cases other <;> cases otherNaN
    exact .some (notANumber _ _)

end Double

namespace Number

/-- Whether two numbers are the same, or both doubles that are not a number. -/
inductive Alike : Number → Number → Prop where
  | integer (value : Int) : Alike (.integer value) (.integer value)
  | double {left right : Double} (alike : left.Alike right) : Alike (.double left) (.double right)

namespace Alike

variable {left right other another : Number}

theorem isZero (alike : left.Alike other) :
    left.isZero = other.isZero := by
  rcases alike with _ | (rfl | ⟨leftNaN, otherNaN⟩)
  · rfl
  · rfl
  · rename_i left other
    cases left <;> cases leftNaN
    cases other <;> cases otherNaN
    rfl

theorem toDouble? (alike : left.Alike other) :
    Option.Rel Double.Alike left.toDouble? other.toDouble? := by
  cases alike with
  | integer value =>
      change Option.Rel Double.Alike (Double.ofInt? value) (Double.ofInt? value)
      cases Double.ofInt? value with
      | none => exact .none
      | some double => exact .some (.inl rfl)
  | double alike => exact .some alike

theorem exact_eq_or (alike : left.Alike other) :
    left.exact = other.exact ∨ ∃ tag otherTag, left.exact = .nan tag ∧ other.exact = .nan otherTag := by
  rcases alike with _ | (rfl | ⟨leftNaN, otherNaN⟩)
  · exact .inl rfl
  · exact .inl rfl
  · rename_i left other
    cases left <;> cases leftNaN
    cases other <;> cases otherNaN
    exact .inr ⟨_, _, rfl, rfl⟩

/-- What is alike compares alike, as what is not a number compares to nothing. -/
theorem compare (first : left.Alike other) (second : right.Alike another) (comparison : Comparison) :
    comparison.ofExact left.exact right.exact = comparison.ofExact other.exact another.exact := by
  have before (tag : Nat) (exact : Exact) :
      comparison.ofExact (.nan tag) exact = (comparison == .notEqual) := by
    cases comparison <;> cases exact <;> rfl
  have behind (tag : Nat) (exact : Exact) :
      comparison.ofExact exact (.nan tag) = (comparison == .notEqual) := by
    cases comparison <;> cases exact <;> rfl
  rcases first.exact_eq_or with same | ⟨tag, otherTag, isNaN, otherIsNaN⟩
  · rcases second.exact_eq_or with sameRight | ⟨tag, otherTag, isNaN, otherIsNaN⟩
    · rw [same, sameRight]
    · rw [isNaN, otherIsNaN, behind, behind]
  · rw [isNaN, otherIsNaN, before, before]

end Alike

end Number

/-! ## Operators -/

/-- Whether two computations ended with related results, or both without for the same reason. -/
inductive SameEnd {ε α β : Type} (related : α → β → Prop) : Except ε α → Except ε β → Prop where
  | ok {value : α} {other : β}
      (results : related value other) :
      SameEnd related (.ok value) (.ok other)
  | error (reason : ε) : SameEnd related (.error reason) (.error reason)

theorem SameEnd.imp {ε α β : Type} {related weaker : α → β → Prop} {result : Except ε α}
    {other : Except ε β} (implies : ∀ value other, related value other → weaker value other)
    (ends : SameEnd related result other) :
    SameEnd weaker result other := by
  cases ends with
  | ok results => exact .ok (implies _ _ results)
  | error reason => exact .error reason

/-- Whether two values match, or are doubles that are not a number with any stamps. -/
inductive Value.Resembles (numbering : Renumbering) : Value → Value → Prop where
  | matched {value other : Value}
      (values : value.Matches numbering other) :
      Resembles numbering value other
  | float {left right : Double}
      (alike : left.Alike right) :
      Resembles numbering (.float left) (.float right)

theorem Double.Matches.alike {number other : Double} (numbers : number.Matches numbering other) :
    number.Alike other := by
  cases numbers with
  | stamped => exact .inr ⟨rfl, rfl⟩
  | plain => exact .inl rfl

section

variable {left right other another : Value}

theorem matches_checkedInteger (value : Int) :
    (checkedInteger value).Matches numbering (checkedInteger value) := by
  rw [checkedInteger_eq]
  split
  · exact .error _
  · exact .integer _

theorem BinaryOperator.matches_onIntegers (left right : Int) (operation : BinaryOperator) :
    (operation.onIntegers left right).Matches numbering (operation.onIntegers left right) := by
  cases operation with
  | add | subtract | multiply => exact matches_checkedInteger _
  | divide | remainder =>
      unfold onIntegers
      dsimp only
      split
      · exact .error _
      · exact .integer _
  | compare comparison => exact .boolean _

theorem BinaryOperator.resembles_converted {overflow : Fault} {left right other another : Number}
    {operation : Double → Double → Except Halt Value} (first : left.Alike other)
    (second : right.Alike another)
    (results : ∀ left right other another : Double, left.Alike other → right.Alike another →
      SameEnd (Value.Resembles numbering) (operation left right) (operation other another)) :
    SameEnd (Value.Resembles numbering) (onNumbers.converted overflow left right operation)
      (onNumbers.converted overflow other another operation) := by
  have firsts := first.toDouble?
  have seconds := second.toDouble?
  unfold onNumbers.converted
  generalize left.toDouble? = leftDouble, other.toDouble? = otherDouble at firsts
  generalize right.toDouble? = rightDouble, another.toDouble? = anotherDouble at seconds
  cases firsts with
  | none => exact .ok (.matched (.error _))
  | some first =>
      cases seconds with
      | none => exact .ok (.matched (.error _))
      | some second => exact results _ _ _ _ first second

/-- Operators on numbers give results that resemble each other. -/
theorem BinaryOperator.resembles_onNumbers {left right other another : Number}
    (first : left.Alike other) (second : right.Alike another) (overflow : Fault)
    (operation : BinaryOperator) :
    SameEnd (Value.Resembles numbering) (operation.onNumbers overflow left right)
      (operation.onNumbers overflow other another) := by
  have absorbing {arithmetic : Double → Double → Double} (absorbs : Double.Absorbs arithmetic) :
      SameEnd (Value.Resembles numbering)
        (onNumbers.converted overflow left right fun left right =>
          floatResult (arithmetic left right))
        (onNumbers.converted overflow other another fun left right =>
          floatResult (arithmetic left right)) :=
    resembles_converted first second fun _ _ _ _ first second =>
      .ok (.float (absorbs.alike first second))
  cases operation with
  | add => exact absorbing Double.absorbs_add
  | subtract => exact absorbing Double.absorbs_sub
  | multiply => exact absorbing Double.absorbs_mul
  | divide =>
      unfold onNumbers
      dsimp only
      rw [second.isZero]
      split
      · exact .ok (.matched (.error _))
      · exact absorbing Double.absorbs_div
  | remainder =>
      unfold onNumbers
      dsimp only
      rw [second.isZero]
      split
      · exact .ok (.matched (.error _))
      · refine resembles_converted first second fun left right other another first second => ?_
        have rests := first.remainder? second
        generalize left.remainder? right = rest, other.remainder? another = otherRest at rests
        cases rests with
        | none => exact .error _
        | some alike => exact .ok (.float alike)
  | compare comparison =>
      unfold onNumbers
      dsimp only
      rw [first.compare second]
      exact .ok (.matched (.boolean _))

/-- So do the operators that symbols stand for, if they stand for any. -/
theorem resembles_numbers {left right other another : Number} (first : left.Alike other)
    (second : right.Alike another) (overflow : Fault) (operator : String) :
    SameEnd (Value.Resembles numbering)
      (match BinaryOperator.ofSymbol? operator with
        | some operation => operation.onNumbers overflow left right
        | none => .ok (.error (.unknownBinary .float operator .float)))
      (match BinaryOperator.ofSymbol? operator with
        | some operation => operation.onNumbers overflow other another
        | none => .ok (.error (.unknownBinary .float operator .float))) := by
  split
  · exact BinaryOperator.resembles_onNumbers first second overflow _
  · exact .ok (.matched (.error _))

theorem matches_refusedBinary (operator : String) (left right : Value) :
    (refusedBinary operator left right).Matches numbering (refusedBinary operator left right) := by
  unfold refusedBinary
  split <;> exact .error _

theorem matches_otherBinary (increasing : numbering.IsIncreasing)
    (first : left.Matches numbering other) (second : right.Matches numbering another)
    (operator : String) :
    (otherBinary operator left right).Matches numbering (otherBinary operator other another) := by
  have refused : refusedBinary operator left right = refusedBinary operator other another := by
    rw [refusedBinary, refusedBinary, first.kind, second.kind]
  have testable : areTestable left right = areTestable other another := by
    rw [areTestable, areTestable, first.kind, second.kind]
  unfold otherBinary
  rw [testable, first.isSame increasing second, refused]
  split
  · exact .boolean _
  · exact .boolean _
  · exact matches_refusedBinary _ _ _

/-- Operators on matching operands give results that resemble each other. -/
theorem resembles_binaryOperation (increasing : numbering.IsIncreasing)
    (first : left.Matches numbering other) (second : right.Matches numbering another)
    (operator : String) :
    SameEnd (Value.Resembles numbering) (binaryOperation operator left right)
      (binaryOperation operator other another) := by
  have others := matches_otherBinary increasing first second operator
  cases first with
  | integer value =>
      cases second with
      | integer other =>
          unfold binaryOperation
          dsimp only
          split
          · exact .ok (.matched (BinaryOperator.matches_onIntegers _ _ _))
          · exact .ok (.matched (.error _))
      | float doubles => exact resembles_numbers (.integer value) (.double doubles.alike) _ operator
      | _ => exact .ok (.matched others)
  | float doubles =>
      cases second with
      | integer other => exact resembles_numbers (.double doubles.alike) (.integer other) _ operator
      | float otherDoubles =>
          exact resembles_numbers (.double doubles.alike) (.double otherDoubles.alike) _ operator
      | _ => exact .ok (.matched others)
  | string value =>
      cases second with
      | string other =>
          unfold binaryOperation
          dsimp only
          split
          · exact .ok (.matched (.string _))
          · exact .ok (.matched (.boolean _))
          · exact .ok (.matched (.error _))
      | _ => exact .ok (.matched others)
  | _ => exact .ok (.matched others)

/-- An operator on one value, by the operators that there are. -/
theorem unaryOperation_eq (operator : String) (operand : Value) :
    unaryOperation operator operand =
      if operator = "!" then .boolean !operand.isTruthy
      else if operator = "-" then
        match operand with
        | .integer value => .integer (-value)
        | .float value => .float value.neg
        | other => .error (.unknownUnary operator other.kind)
      else .error (.unknownUnary operator operand.kind) := by
  unfold unaryOperation
  split
  · rfl
  · rfl
  · rfl
  · rename_i notBang notInteger notFloat
    split
    · rename_i isBang
      exact absurd isBang notBang
    · split
      · rename_i isMinus
        split
        · exact absurd rfl (notInteger _ isMinus)
        · exact absurd rfl (notFloat _ isMinus)
        · rfl
      · rfl

/-- The results of an operator on one value resemble each other as well. -/
theorem resembles_unaryOperation (matched : left.Matches numbering other) (operator : String) :
    (unaryOperation operator left).Resembles numbering (unaryOperation operator other) := by
  rw [unaryOperation_eq, unaryOperation_eq, matched.isTruthy, matched.kind]
  split
  · exact .matched (.boolean _)
  · split
    · cases matched with
      | integer value => exact .matched (.integer _)
      | float numbers =>
          cases numbers with
          | stamped => exact .float (.inr ⟨rfl, rfl⟩)
          | plain => exact .float (.inl rfl)
      | _ => exact .matched (.error _)
    · exact .matched (.error _)

/-! ## Indexing -/

theorem getElem?_of_forall₂ {elements others : List Value}
    (inside : List.Forall₂ (Value.Matches numbering) elements others) (index : Nat) :
    Option.Rel (Value.Matches numbering) elements[index]? others[index]? := by
  induction inside generalizing index with
  | nil => exact .none
  | cons first behind induction =>
      cases index with
      | zero => exact .some first
      | succ index => exact induction index

/-- Found or not, null stands in for what is missing. -/
theorem matches_getD {found other : Option Value}
    (matched : Option.Rel (Value.Matches numbering) found other) :
    (found.getD .null).Matches numbering (other.getD .null) := by
  cases matched with
  | none => exact .null
  | some values => exact values

theorem matches_elementAt {elements others : List Value}
    (inside : List.Forall₂ (Value.Matches numbering) elements others) (index : Int) :
    (elementAt elements index).Matches numbering (elementAt others index) := by
  unfold elementAt
  rw [inside.length_eq]
  dsimp only
  generalize ite (index < 0) _ _ = position
  split
  · exact .null
  · rw [List.getD_eq_getElem?_getD, List.getD_eq_getElem?_getD]
    exact matches_getD (getElem?_of_forall₂ inside _)

/-- What is found in matching collections at matching places matches. -/
theorem matches_indexOperation (increasing : numbering.IsIncreasing)
    (first : left.Matches numbering other) (second : right.Matches numbering another) :
    (indexOperation left right).Matches numbering (indexOperation other another) := by
  cases first with
  | array stamps inside =>
      cases second with
      | integer index => exact matches_elementAt (Value.allMatch_iff.mp inside) index
      | _ => exact .error _
  | hash stamps inside =>
      have keys := second.key?
      unfold indexOperation
      dsimp only
      rw [second.kind]
      generalize right.key? = key, another.key? = otherKey at keys
      cases keys with
      | none => exact .error _
      | some keys =>
          exact matches_getD (Entry.Matches.find? increasing keys (Entry.allMatch_iff.mp inside))
  | _ => exact .error _

/-! ## Builtins -/

theorem matches_length (matched : left.Matches numbering other) :
    (Builtin.length left).Matches numbering (Builtin.length other) := by
  cases matched with
  | string value => exact .integer _
  | array stamps inside =>
      unfold Builtin.length
      dsimp only
      rw [(Value.allMatch_iff.mp inside).length_eq]
      exact .integer _
  | hash stamps inside =>
      unfold Builtin.length
      dsimp only
      rw [(Entry.allMatch_iff.mp inside).length_eq]
      exact .integer _
  | _ => exact .error _

end

end Jet
