import Jet.Proofs.Grammar.Extent

/-!
# What a problem is blamed on

The cause of a problem says something about the token that could not be accepted: a token with which
an expression can start is never refused as the start of one, only an integer is an unreadable one,
and only an illegal token is an unterminated string or an illegal character.  `Cause.Suits` says
this of one cause, and `Blames` of one result of a parser; the theorems below prove it for each
parser, from the expressions one level down to whole programs.
-/

namespace Jet

/-- Whether a cause can be why a token was not accepted. -/
def Cause.Suits (token : Token) : Cause → Prop
  | expected _ => True
  | noExpression => token.kind.startsExpression = false
  | unreadableInteger => token.kind = .integer ∧ Literal.integer? token.literal = none
  | unterminatedString => token.kind = .illegal ∧ token.literal.toList.head? = some '"'
  | illegalCharacter => token.kind = .illegal ∧ token.literal.toList.head? ≠ some '"'
  | invalidTarget => token.kind = .assign
  | nestedTooDeeply => True

namespace Parser

/-- Whether a parser that gives up has a cause that suits its token, or the end behind them all. -/
def Blames {α : Type} (finish : Token) : Parsed α → Prop
  | .error (.failure cause stuck) => cause.Suits (stuck.headD finish)
  | _ => True

variable {finish : Token}

/-- Two steps have a suitable cause if each of them does. -/
theorem Blames.bind {α β : Type} {first : Parsed (α × List Token)}
    {next : α × List Token → Parsed β} (blames : Blames finish first)
    (nextBlames : ∀ value rest, Blames finish (next (value, rest))) :
    Blames finish (first >>= next) := by
  match first, blames with
  | .ok (value, rest), _ => exact nextBlames value rest
  | .error (.failure _ _), suits => exact suits
  | .error (.unreadableFloat _), _ => trivial

theorem Blames.ok {α : Type} (value : α) : Blames finish (.ok value : Parsed α) :=
  trivial

theorem expect_blames (kind : Kind) (tokens : List Token) :
    Blames finish (expect kind tokens) := by
  cases tokens with
  | nil => trivial
  | cons token rest =>
      rw [expect]
      split <;> trivial

theorem moreNames_blames (fuel : Nat) (tokens : List Token) :
    Blames finish (moreNames fuel tokens) := by
  induction fuel generalizing tokens with
  | zero => trivial
  | succ fuel induction =>
      unfold moreNames
      split
      · refine (expect_blames _ _).bind fun name rest => ?_
        exact (induction rest).bind fun _ _ => .ok _
      · trivial

theorem parameters_blames (tokens : List Token) :
    Blames finish (parameters tokens) := by
  refine (expect_blames _ _).bind fun opening rest => ?_
  dsimp only
  split
  · trivial
  · refine (expect_blames _ _).bind fun name rest => ?_
    refine (moreNames_blames _ _).bind fun others rest => ?_
    exact (expect_blames _ _).bind fun _ _ => .ok _

section

variable {operand : Operand} (operandBlames : ∀ power tokens, Blames finish (operand power tokens))

include operandBlames

theorem statement_blames (tokens : List Token) :
    Blames finish (statement operand tokens) := by
  unfold statement
  split
  · refine (expect_blames _ _).bind fun name rest => ?_
    refine (expect_blames _ _).bind fun equals rest => ?_
    exact (operandBlames _ _).bind fun _ _ => .ok _
  · split
    · trivial
    · trivial
    · trivial
    · exact (operandBlames _ _).bind fun _ _ => .ok _
  · exact (operandBlames _ _).bind fun _ _ => .ok _

theorem statements_blames (fuel : Nat) (tokens : List Token) :
    Blames finish (statements operand fuel tokens) := by
  induction fuel generalizing tokens with
  | zero => trivial
  | succ fuel induction =>
      unfold statements
      split
      · trivial
      · trivial
      · exact induction _
      · refine (statement_blames operandBlames tokens).bind fun first rest => ?_
        exact (induction rest).bind fun _ _ => .ok _

theorem block_blames (tokens : List Token) :
    Blames finish (block operand tokens) :=
  (expect_blames _ _).bind fun _ rest => statements_blames operandBlames _ rest

theorem moreItems_blames (fuel : Nat) (tokens : List Token) :
    Blames finish (moreItems operand fuel tokens) := by
  induction fuel generalizing tokens with
  | zero => trivial
  | succ fuel induction =>
      unfold moreItems
      split
      · refine (operandBlames _ _).bind fun item rest => ?_
        exact (induction rest).bind fun _ _ => .ok _
      · trivial

theorem items_blames (closing : Kind) (tokens : List Token) :
    Blames finish (items operand closing tokens) := by
  unfold items
  split
  · trivial
  · refine (operandBlames _ _).bind fun item rest => ?_
    refine (moreItems_blames operandBlames _ rest).bind fun others rest => ?_
    exact (expect_blames _ _).bind fun _ _ => .ok _

theorem pairs_blames (fuel : Nat) (tokens : List Token) :
    Blames finish (pairs operand fuel tokens) := by
  induction fuel generalizing tokens with
  | zero => trivial
  | succ fuel induction =>
      unfold pairs
      split
      · trivial
      · refine (operandBlames _ _).bind fun key rest => ?_
        refine (expect_blames _ _).bind fun colon rest => ?_
        refine (operandBlames _ _).bind fun value rest => ?_
        dsimp only
        split
        · exact (induction rest).bind fun _ _ => .ok _
        · refine (expect_blames _ _).bind fun comma rest => ?_
          exact (induction rest).bind fun _ _ => .ok _

theorem alternative_blames {nested : List Token → Parsed (Expr × List Token)}
    (nestedBlames : ∀ tokens, Blames finish (nested tokens)) (tokens : List Token) :
    Blames finish (alternative operand nested tokens) := by
  unfold alternative
  split
  · exact (nestedBlames _).bind fun _ _ => .ok _
  · exact (block_blames operandBlames _).bind fun _ _ => .ok _
  · trivial

theorem conditional_blames (fuel : Nat) (tokens : List Token) :
    Blames finish (conditional operand fuel tokens) := by
  induction fuel generalizing tokens with
  | zero => trivial
  | succ fuel induction =>
      rw [conditional_succ]
      refine (expect_blames _ _).bind fun opening rest => ?_
      refine (operandBlames _ _).bind fun condition rest => ?_
      refine (expect_blames _ _).bind fun closing rest => ?_
      refine (block_blames operandBlames rest).bind fun consequence rest => ?_
      exact (alternative_blames operandBlames induction rest).bind fun _ _ => .ok _

/-- Only a kind of token with which no expression starts is refused as such. -/
theorem start_blames (ending : finish.kind = .endOfInput) (tokens : List Token) :
    Blames finish (start operand tokens) := by
  cases tokens with
  | nil => exact congrArg Kind.startsExpression ending
  | cons token rest =>
      rw [start]
      split
      · trivial
      · rename_i isInteger
        split
        · trivial
        · rename_i unreadable
          exact ⟨isInteger, unreadable⟩
      · split <;> trivial
      · trivial
      · trivial
      · trivial
      · trivial
      · rename_i isIllegal
        split
        · rename_i quote
          exact ⟨isIllegal, quote⟩
        · rename_i noQuote
          exact ⟨isIllegal, noQuote⟩
      · exact (operandBlames _ _).bind fun _ _ => .ok _
      · exact (operandBlames _ _).bind fun _ _ => .ok _
      · refine (operandBlames _ _).bind fun value rest => ?_
        exact (expect_blames _ _).bind fun _ _ => .ok _
      · exact conditional_blames operandBlames _ rest
      · refine (parameters_blames rest).bind fun names rest => ?_
        exact (block_blames operandBlames rest).bind fun _ _ => .ok _
      · exact (items_blames operandBlames _ rest).bind fun _ _ => .ok _
      · exact (pairs_blames operandBlames _ rest).bind fun _ _ => .ok _
      · have refused : token.kind.startsExpression = false := by
          generalize token.kind = kind at *
          cases kind <;> simp_all [Kind.startsExpression]
        exact refused

theorem continuation_blames (ending : finish.kind = .endOfInput) (left : Expr)
    (tokens : List Token) :
    Blames finish (continuation operand left tokens) := by
  cases tokens with
  | nil => exact congrArg Kind.startsExpression ending
  | cons token rest =>
      unfold continuation
      dsimp only
      split
      · exact (items_blames operandBlames _ rest).bind fun _ _ => .ok _
      · refine (operandBlames _ _).bind fun position rest => ?_
        exact (expect_blames _ _).bind fun _ _ => .ok _
      · rename_i isAssign
        split
        · exact (operandBlames _ _).bind fun _ _ => .ok _
        · exact isAssign
      · exact (operandBlames _ _).bind fun _ _ => .ok _

end

/-- Expressions and their continuations have a suitable cause at every depth. -/
theorem expression_and_continuations_blame (ending : finish.kind = .endOfInput) (depth : Nat) :
    (∀ power tokens, Blames finish (expression depth power tokens)) ∧
      ∀ power left tokens, Blames finish (continuations depth power left tokens) := by
  induction depth with
  | zero =>
      refine ⟨fun power tokens => ?_, fun power left tokens => ?_⟩
      · rw [expression]
        trivial
      · rw [continuations]
        split <;> trivial
  | succ depth induction =>
      rcases induction with ⟨expressionBlames, continuationsBlame⟩
      refine ⟨fun power tokens => ?_, fun power left tokens => ?_⟩
      · rw [expression]
        exact (start_blames expressionBlames ending tokens).bind
          fun left rest => continuationsBlame power left rest
      · rw [continuations]
        split
        · exact (continuation_blames expressionBlames ending left tokens).bind
            fun whole rest => continuationsBlame power whole rest
        · trivial

/--
The causes of all problems of a program suit their tokens.  The induction is on the turns, each of
which adds at most the problem of one statement.
-/
theorem program_blames {fuel : Nat} {tokens : List Token} {reading : Reading}
    (ending : finish.kind = .endOfInput) (parsed : program finish fuel tokens = .ok reading) :
    ∀ problem ∈ reading.problems, problem.cause.Suits problem.token := by
  induction fuel generalizing tokens reading with
  | zero =>
      cases parsed
      exact List.forall_mem_nil _
  | succ fuel induction =>
      cases tokens with
      | nil =>
          cases parsed
          exact List.forall_mem_nil _
      | cons token rest =>
          rcases program_cases parsed with
            ⟨_, read⟩ |
            ⟨_, ⟨tree, others, later, first, read, rfl⟩ | ⟨cause, stuck, later, first, read, rfl⟩⟩
          · exact induction read
          · have others := induction read
            exact others
          · have blames := statement_blames
              (expression_and_continuations_blame ending maxNesting).1 (token :: rest)
            rw [first] at blames
            exact List.forall_mem_cons.mpr ⟨blames, induction read⟩

end Parser

end Jet
