import Jet.Proofs.Grammar.Soundness
import Jet.Proofs.Token.Scanning
import Jet.Proofs.Tree.Part

/-!
# What texts can say

The trees that are read from texts have only names that are words and no keywords, only operators of
the language, only integer literals that are not negative and can be shown, only float literals that
are numbers, and no bare blocks.
`Part.IsTextual` says this of one part; by induction on the spelling, every part of a tree that is
spelled by the tokens of a text is like this.  Since all float literals of a text can be read, every
text has a reading.
-/

namespace Jet

variable {literal : String}

/-- Whether an integer may be the value of a literal. -/
def IsLiteralValue (value : Int) : Prop :=
  0 ≤ value ∧ value.natAbs < 10 ^ digitLimit

/-- What a part of a tree is like that was read from a text. -/
def Part.IsTextual : Part → Prop
  | .expression (.name name) => isName name = true
  | .expression (.integer value) => IsLiteralValue value
  | .expression (.float value) => value.isNaN = false
  | .expression (.unary operator _) =>
      ∃ kind : Kind, kind.isUnary = true ∧ kind.symbol? = some operator
  | .expression (.binary _ operator _) =>
      ∃ kind : Kind, kind.isBinary = true ∧ kind.symbol? = some operator
  | .expression (.assign name _) => isName name = true
  | .expression (.function parameters _) => ∀ name ∈ parameters, isName name = true
  | .statement (.bind name _) => isName name = true
  | .statement (.block _) => False
  | _ => True

/-- What a phrase is like whose tokens come from a text. -/
def Phrase.IsTextual : Phrase → Prop
  | .expression _ _ tree | .conditional tree => Part.Obeys Part.IsTextual (.expression tree)
  | .alternative trees => ∀ block ∈ trees, Part.Obeys Part.IsTextual (.block block)
  | .block trees | .statements trees => Part.Obeys Part.IsTextual (.block trees)
  | .statement tree => Part.Obeys Part.IsTextual (.statement tree)
  | .items trees | .moreItems trees =>
      ∀ tree ∈ trees, Part.Obeys Part.IsTextual (.expression tree)
  | .pairs trees =>
      ∀ pair ∈ trees, Part.Obeys Part.IsTextual (.expression pair.1) ∧
        Part.Obeys Part.IsTextual (.expression pair.2)
  | .names texts | .moreNames texts => ∀ name ∈ texts, isName name = true

namespace Kind

theorem symbol?_of_isUnary {kind : Kind}
    (unary : kind.isUnary = true) (fits : kind.Fits literal) :
    kind.symbol? = some literal := by
  cases kind <;> simp_all [isUnary, Fits, symbol?]

theorem symbol?_of_isBinary {kind : Kind}
    (binary : kind.isBinary = true) (fits : kind.Fits literal) :
    kind.symbol? = some literal := by
  cases kind <;> simp_all [isBinary, power, lowestPower, unaryPower, Fits, symbol?]

end Kind

namespace Spells

open Jet.Part

/-- A token that is an expression on its own is one that a text can say. -/
theorem isTextual_of_atom {tree : Expr} {token : Token}
    (reads : token.atom? = some tree) (fits : token.kind.Fits token.literal) :
    Part.Obeys IsTextual (.expression tree) := by
  unfold Token.atom? at reads
  split at reads
  case h_1 isName =>
      rw [isName] at fits
      cases reads
      exact .leaf fits rfl
  case h_2 isInteger =>
      rw [isInteger] at fits
      rcases Option.map_eq_some_iff.mp reads with ⟨value, read, rfl⟩
      exact .leaf (Literal.range_of_integer? fits read) rfl
  case h_3 isFloat =>
      rw [isFloat] at fits
      rcases Option.map_eq_some_iff.mp reads with ⟨value, read, rfl⟩
      rcases Literal.double?_eq_ofDecimal fits with ⟨digits, power, decimal⟩
      cases read.symm.trans decimal
      exact .leaf (Literal.isNaN_ofDecimal false digits power) rfl
  case h_8 => cases reads
  all_goals
    cases reads
    exact .leaf trivial rfl

/-- Whatever is spelled by the tokens of a text is made of parts that a text can say. -/
theorem isTextual {phrase : Phrase} {nesting : Nat} {tokens : List Token}
    (spelled : Spells phrase nesting tokens)
    (fits : ∀ token ∈ tokens, token.kind.Fits token.literal) :
    phrase.IsTextual := by
  induction spelled with
  | atom reads => exact isTextual_of_atom reads (fits _ List.mem_cons_self)
  | unary operator operand tight textual =>
      rw [List.forall_mem_cons] at fits
      exact .one ⟨_, operator, Kind.symbol?_of_isUnary operator fits.1⟩ rfl (textual fits.2)
  | group opens inner closes textual =>
      simp only [List.forall_mem_cons, List.forall_mem_append] at fits
      exact textual fits.2.1
  | choice begins inner textual =>
      rw [List.forall_mem_cons] at fits
      exact textual fits.2
  | function begins opens parameters closes body namesTextual bodyTextual =>
      simp only [List.forall_mem_cons, List.forall_mem_append] at fits
      exact .one (namesTextual fits.2.2.1) rfl (bodyTextual fits.2.2.2.2)
  | array opens elements closes textual =>
      simp only [List.forall_mem_cons, List.forall_mem_append] at fits
      exact obeys_iff.mpr ⟨trivial, List.forall_mem_map.mpr (textual fits.2.1)⟩
  | hash opens entries closes textual =>
      simp only [List.forall_mem_cons, List.forall_mem_append] at fits
      exact obeys_iff.mpr ⟨trivial, Part.forall_mem_children_hash.mpr (textual fits.2.1)⟩
  | binary left operator leftTight right rightTight leftTextual rightTextual =>
      simp only [List.forall_mem_cons, List.forall_mem_append] at fits
      exact .two ⟨_, operator, Kind.symbol?_of_isBinary operator fits.2.1⟩ rfl
        (leftTextual fits.1) (rightTextual fits.2.2)
  | assign target operator value targetTextual valueTextual =>
      simp only [List.forall_mem_cons, List.forall_mem_append] at fits
      exact .one (targetTextual fits.1).holds rfl (valueTextual fits.2.2)
  | call callee tight opens arguments closes calleeTextual argumentsTextual =>
      simp only [List.forall_mem_cons, List.forall_mem_append] at fits
      refine obeys_iff.mpr ⟨trivial, List.forall_mem_cons.mpr ⟨calleeTextual fits.1, ?_⟩⟩
      exact List.forall_mem_map.mpr (argumentsTextual fits.2.2.1)
  | index collection tight opens position closes collectionTextual positionTextual =>
      simp only [List.forall_mem_cons, List.forall_mem_append] at fits
      exact .two trivial rfl (collectionTextual fits.1) (positionTextual fits.2.2.1)
  | conditional opens condition closes consequence alternative textual blockTextual
      otherTextual =>
      simp only [List.forall_mem_cons, List.forall_mem_append] at fits
      exact obeys_iff.mpr ⟨trivial, Part.forall_mem_children_conditional.mpr
        ⟨textual fits.2.1, blockTextual fits.2.2.2.1, otherTextual fits.2.2.2.2⟩⟩
  | noAlternative => exact fun block none => nomatch none
  | elseBlock begins inner textual =>
      rw [List.forall_mem_cons] at fits
      rintro block ⟨⟩
      exact textual fits.2
  | elseIf begins goesOn inner textual =>
      simp only [List.forall_mem_cons] at fits
      rintro block ⟨⟩
      exact .one trivial rfl (.one trivial rfl (textual fits.2.2))
  | block opens inner closes textual =>
      simp only [List.forall_mem_cons, List.forall_mem_append] at fits
      exact textual fits.2.1
  | bind begins named equals value textual =>
      simp only [List.forall_mem_cons] at fits
      have name := fits.2.1
      rw [named] at name
      exact .one name rfl (textual fits.2.2.2)
  | returnNothing begins => exact .leaf trivial rfl
  | returnValue begins value textual =>
      rw [List.forall_mem_cons] at fits
      exact .one trivial rfl (textual fits.2)
  | expression value textual => exact .one trivial rfl (textual fits)
  | noStatements => exact .leaf trivial rfl
  | semicolon stray others textual =>
      rw [List.forall_mem_cons] at fits
      exact textual fits.2
  | someStatements first apart others firstTextual othersTextual =>
      rw [List.forall_mem_append] at fits
      refine obeys_iff.mpr ⟨trivial, List.forall_mem_cons.mpr ⟨firstTextual fits.1, ?_⟩⟩
      exact (obeys_iff.mp (othersTextual fits.2)).2
  | noItems | noMoreItems | noPairs | noNames | noMoreNames =>
      exact fun _ member => absurd member List.not_mem_nil
  | someItems first others firstTextual othersTextual =>
      rw [List.forall_mem_append] at fits
      exact List.forall_mem_cons.mpr ⟨firstTextual fits.1, othersTextual fits.2⟩
  | someMoreItems separates first others firstTextual othersTextual =>
      simp only [List.forall_mem_cons, List.forall_mem_append] at fits
      exact List.forall_mem_cons.mpr ⟨firstTextual fits.2.1, othersTextual fits.2.2⟩
  | lastPair key separates value keyTextual valueTextual =>
      simp only [List.forall_mem_cons, List.forall_mem_append] at fits
      rintro pair member
      cases List.mem_singleton.mp member
      exact ⟨keyTextual fits.1, valueTextual fits.2.2⟩
  | somePairs key separates value goesOn others keyTextual valueTextual othersTextual =>
      simp only [List.forall_mem_cons, List.forall_mem_append] at fits
      refine List.forall_mem_cons.mpr ⟨⟨keyTextual fits.1, valueTextual fits.2.2.1⟩, ?_⟩
      exact othersTextual fits.2.2.2.2
  | someNames named others textual =>
      rw [List.forall_mem_cons] at fits
      have name := fits.1
      rw [named] at name
      exact List.forall_mem_cons.mpr ⟨name, textual fits.2⟩
  | someMoreNames separates named others textual =>
      simp only [List.forall_mem_cons] at fits
      have name := fits.2.1
      rw [named] at name
      exact List.forall_mem_cons.mpr ⟨name, textual fits.2.2⟩

end Spells

/-! ## Readings of texts -/

/-- Every text has a reading. -/
theorem parseSource_eq_ok (source : String) :
    ∃ reading, parseSource source = .ok reading := by
  rw [parseSource, Parser.parse_eq_program]
  refine Parser.program_eq_ok _ _ fun token member isFloat => ?_
  have fits := tokenize_fits source token ((List.takeWhile_prefix _).subset member)
  rw [isFloat] at fits
  rcases Literal.double?_eq_ofDecimal fits with ⟨digits, power, decimal⟩
  exact decimal ▸ Option.some_ne_none _

/-- Whatever is read from a text, also with problems, is made of parts that a text can say. -/
theorem isTextual_of_parseSource {source : String} {reading : Reading}
    (parsed : parseSource source = .ok reading) :
    Part.Obeys Part.IsTextual (.block reading.program.statements) := by
  rw [parseSource, Parser.parse_eq_program] at parsed
  refine obeys_iff.mpr ⟨trivial, List.forall_mem_map.mpr fun tree member => ?_⟩
  rcases Parser.program_statement_sound parsed member with ⟨consumed, nesting, among, _, spelled⟩
  exact spelled.isTextual fun token member =>
    tokenize_fits source token ((List.takeWhile_prefix _).subset (among member))

/-! ## Operators -/

/-- The operators between two operands. -/
def binaryOperators : List String :=
  ["+", "-", "*", "/", "%", "<", ">", "<=", ">=", "==", "!=", "&&", "||"]

/-- The operators in front of one operand. -/
def unaryOperators : List String :=
  ["!", "-"]

/-- Whether the operator of a part, if it has one, is an operator of the language. -/
def Part.HasKnownOperator : Part → Prop
  | .expression (.unary operator _) => operator ∈ unaryOperators
  | .expression (.binary _ operator _) => operator ∈ binaryOperators
  | _ => True

/-- A text can say no other operators. -/
theorem Part.IsTextual.hasKnownOperator {part : Part}
    (textual : part.IsTextual) :
    part.HasKnownOperator := by
  unfold HasKnownOperator
  split
  · rcases textual with ⟨kind, isUnary, symbol⟩
    cases kind <;> cases isUnary <;> cases symbol <;> decide
  · rcases textual with ⟨kind, isBinary, symbol⟩
    cases kind <;> cases isBinary <;> cases symbol <;> decide
  · trivial

end Jet
