import Jet.Proofs.Grammar.Extent

/-!
# Reading with one token of lookahead

The grammar again, read from a stream of which only two adjacent tokens are seen at a time.  The
reader moves a window over the stream, one token a step, and cannot step back.  At the end of the
stream the window supplies end tokens, but nothing keeps it from moving past an end token that
stands in the middle.  The window counts the open braces up to its current token and the levels of
the expression being read.

No loop here counts how often it goes around, and none stops because it did so often enough.  The
fuel says how many calls may be nested, a loop calling itself for each time it goes around; a reader
that needs more gives nothing at all.  So reading comes to an end if all fuel from some amount on
gives the same result, which is what `Settles` says.
-/

namespace Jet

/-- Two adjacent tokens of a stream, and what is behind them. -/
structure Window where
  current : Token
  next : Token
  /-- The tokens behind the next one. -/
  unread : List Token
  /-- The number of open braces, up to and including the current token. -/
  balance : Int
  /-- The levels of the expression that is being read. -/
  nesting : Nat
deriving DecidableEq, Repr

namespace Window

/--
Takes the next token from a stream, given the one before.  At its end the stream goes on with end
tokens: with the last token itself if that is one, else with one that stands right behind it.
-/
def pull (last : Option Token) : List Token → Token × List Token
  | token :: rest => (token, rest)
  | [] =>
      match last with
      | some last =>
          if last.kind = .endOfInput then (last, [])
          else (⟨.endOfInput, "", last.line, last.column + last.literal.length⟩, [])
      | none => (⟨.endOfInput, "", 1, 1⟩, [])

/-- The window at the start of a stream. -/
def ofTokens (tokens : List Token) : Window :=
  let (current, rest) := pull none tokens
  let (next, rest) := pull (some current) rest
  ⟨current, next, rest, current.kind.braceStep, 0⟩

/-- The window one token further on. -/
def advance (window : Window) : Window :=
  let (next, rest) := pull (some window.next) window.unread
  { window with
    current := window.next
    next := next
    unread := rest
    balance := window.balance + window.next.kind.braceStep }

/-- The window at the first token of a statement, of which alone the braces are then counted. -/
def beginStatement (window : Window) : Window :=
  { window with balance := if window.current.kind = .leftBrace then 1 else 0 }

/-- The window at another level. -/
def atLevel (window : Window) (level : Nat) : Window :=
  { window with nesting := level }

/-- All tokens from the current one on. -/
def stream (window : Window) : List Token :=
  window.current :: window.next :: window.unread

/-- The tokens from the current one on that stand in front of an end token. -/
def ahead (window : Window) : List Token :=
  Parser.beforeEnd window.stream

end Window

namespace Lookahead

/-! ## Fuel -/

/-- Whether there is an amount of fuel from which on there is always the same result. -/
def Settles {α : Type} (attempt : Nat → Option α) (result : α) : Prop :=
  ∃ enough, ∀ fuel, enough ≤ fuel → attempt fuel = some result

namespace Settles

variable {α β : Type} {attempt : Nat → Option α} {result other : α}

/-- What needs no fuel settles at once. -/
theorem of_eq
    (gives : ∀ fuel, attempt fuel = some result) :
    Settles attempt result :=
  ⟨0, fun fuel _ => gives fuel⟩

/-- A call settles if what it does with the fuel that is left for it settles. -/
theorem succ
    (settles : Settles (fun fuel => attempt (fuel + 1)) result) :
    Settles attempt result := by
  rcases settles with ⟨enough, gives⟩
  refine ⟨enough + 1, fun fuel within => ?_⟩
  rcases Nat.exists_eq_add_one_of_ne_zero (Nat.ne_zero_of_lt within) with ⟨fuel, rfl⟩
  exact gives fuel (Nat.le_of_succ_le_succ within)

theorem map {change : α → β}
    (settles : Settles attempt result) :
    Settles (fun fuel => (attempt fuel).map change) (change result) := by
  rcases settles with ⟨enough, gives⟩
  exact ⟨enough, fun fuel within => congrArg (Option.map change) (gives fuel within)⟩

/-- If a result settles, and what is done with it does, then both together do. -/
theorem bind {next : Nat → α → Option β} {last : β}
    (settles : Settles attempt result) (goesOn : Settles (fun fuel => next fuel result) last) :
    Settles (fun fuel => (attempt fuel).bind (next fuel)) last := by
  rcases settles with ⟨enough, gives⟩
  rcases goesOn with ⟨more, goesOn⟩
  refine ⟨max enough more, fun fuel within => ?_⟩
  dsimp only
  rw [gives fuel (Nat.le_trans (Nat.le_max_left ..) within), Option.bind_some]
  exact goesOn fuel (Nat.le_trans (Nat.le_max_right ..) within)

/-- There is only one result. -/
theorem unique
    (settles : Settles attempt result) (settlesOther : Settles attempt other) :
    result = other := by
  rcases settles with ⟨enough, gives⟩
  rcases settlesOther with ⟨more, givesOther⟩
  have same := gives (max enough more) (Nat.le_max_left ..)
  rw [givesOther _ (Nat.le_max_right ..)] at same
  exact (Option.some.inj same).symm

end Settles

/-! ## Refusals -/

/-- Why the reader stopped. -/
inductive Refusal where
  | problem (problem : Problem)
  /-- The literal of a float token is not a number, which ends all reading. -/
  | unreadableFloat (literal : String)
deriving DecidableEq, Repr

/-- A step of the reader, which moves the window and is left as soon as the reader stops. -/
abbrev Looking :=
  ExceptT Refusal (StateT Window Option)

/-! ## Steps -/

/-- Gives nothing, for lack of fuel. -/
def exhausted {α : Type} : Looking α :=
  StateT.lift none

/-- Moves the window. -/
def advance : Looking Unit :=
  modify Window.advance

/-- Stops because of a token. -/
def refuse {α : Type} (cause : Cause) (token : Token) : Looking α :=
  throw (.problem ⟨cause, token⟩)

/-- Moves on to the next token, which has to be of a kind. -/
def expectNext (kind : Kind) : Looking Token := do
  let window ← get
  if window.next.kind = kind then do
    advance
    pure window.next
  else refuse (.expected kind) window.next

/-- Moves on to the next token if it is a semicolon. -/
def passSemicolon : Looking Unit := do
  if (← get).next.kind = .semicolon then advance

/-- Moves on to the comma behind a pair, unless a closing brace comes next. -/
def passComma : Looking Unit := do
  if (← get).next.kind ≠ .rightBrace then
    let _ ← expectNext .comma

/-- Goes one level down in the expression that is being read. -/
def descend : Looking Unit := do
  modify fun window => window.atLevel (window.nesting + 1)
  let window ← get
  if maxNesting < window.nesting then refuse .nestedTooDeeply window.current

/-! ## Lists of names -/

/-- The names after the first one, each behind a comma. -/
def moreNames : Nat → Looking (List String)
  | 0 => exhausted
  | fuel + 1 => do
      if (← get).next.kind = .comma then
        advance
        let name ← expectNext .identifier
        let others ← moreNames fuel
        pure (name.literal :: others)
      else pure []

/-- The parameters of a function in parentheses, from the next token on. -/
def parameters (fuel : Nat) : Looking (List String) := do
  let _ ← expectNext .leftParen
  if (← get).next.kind = .rightParen then
    advance
    pure []
  else
    let name ← expectNext .identifier
    let others ← moreNames fuel
    let _ ← expectNext .rightParen
    pure (name.literal :: others)

/-! ## Statements and expressions -/

mutual

/-- A statement that begins at the current token, and a semicolon behind it if there is one. -/
def statement : Nat → Looking Stmt
  | 0 => exhausted
  | fuel + 1 => do
      let window ← get
      match window.current.kind with
      | .letWord => do
          let name ← expectNext .identifier
          let _ ← expectNext .assign
          advance
          let value ← expression fuel lowestPower
          passSemicolon
          pure (.bind name.literal value)
      | .returnWord =>
          match window.next.kind with
          | .semicolon | .rightBrace | .endOfInput => do
              passSemicolon
              pure (.return none)
          | _ => do
              advance
              let value ← expression fuel lowestPower
              passSemicolon
              pure (.return (some value))
      | _ => do
          let value ← expression fuel lowestPower
          passSemicolon
          pure (.expression value)

/-- Statements and semicolons up to a closing brace, from the current token on. -/
def statements : Nat → Looking (List Stmt)
  | 0 => exhausted
  | fuel + 1 => do
      let window ← get
      match window.current.kind with
      | .rightBrace => pure []
      | .endOfInput => refuse (.expected .rightBrace) window.current
      | .semicolon => do
          advance
          statements fuel
      | _ => do
          let first ← statement fuel
          advance
          let others ← statements fuel
          pure (first :: others)

/-- A block in braces, from the next token on. -/
def block : Nat → Looking Block
  | 0 => exhausted
  | fuel + 1 => do
      let _ ← expectNext .leftBrace
      advance
      statements fuel

/-- The expressions after the first one, each behind a comma. -/
def moreItems : Nat → Looking (List Expr)
  | 0 => exhausted
  | fuel + 1 => do
      if (← get).next.kind = .comma then
        advance
        advance
        let item ← expression fuel lowestPower
        let others ← moreItems fuel
        pure (item :: others)
      else pure []

/-- Expressions separated by commas up to a closing token, with the window on the opening one. -/
def items : Nat → Kind → Looking (List Expr)
  | 0, _ => exhausted
  | fuel + 1, closing => do
      if (← get).next.kind = closing then
        advance
        pure []
      else
        advance
        let item ← expression fuel lowestPower
        let others ← moreItems fuel
        let _ ← expectNext closing
        pure (item :: others)

/-- The pairs of a hash up to its closing brace, from the next token on. -/
def pairs : Nat → Looking (List (Expr × Expr))
  | 0 => exhausted
  | fuel + 1 => do
      if (← get).next.kind = .rightBrace then
        let _ ← expectNext .rightBrace
        pure []
      else
        advance
        let key ← expression fuel lowestPower
        let _ ← expectNext .colon
        advance
        let value ← expression fuel lowestPower
        passComma
        let others ← pairs fuel
        pure ((key, value) :: others)

/-- A conditional, with the window on its `if`. -/
def conditional : Nat → Looking Expr
  | 0 => exhausted
  | fuel + 1 => do
      let _ ← expectNext .leftParen
      advance
      let condition ← expression fuel lowestPower
      let _ ← expectNext .rightParen
      let consequence ← block fuel
      let others ← alternative fuel
      pure (.conditional condition consequence others)

/-- What may follow the first block of a conditional, with the window on its closing brace. -/
def alternative : Nat → Looking (Option Block)
  | 0 => exhausted
  | fuel + 1 => do
      if (← get).next.kind = .elseWord then
        advance
        if (← get).next.kind = .ifWord then
          advance
          let nested ← conditional fuel
          pure (some [.expression nested])
        else
          let trees ← block fuel
          pure (some trees)
      else pure none

/-- An expression up to its first continuation, from the current token on. -/
def start : Nat → Looking Expr
  | 0 => exhausted
  | fuel + 1 => do
      let token := (← get).current
      match token.kind with
      | .identifier => pure (.name token.literal)
      | .integer =>
          match Literal.integer? token.literal with
          | some value => pure (.integer value)
          | none => refuse .unreadableInteger token
      | .float =>
          match Literal.double? token.literal with
          | some value => pure (.float value)
          | none => throw (.unreadableFloat token.literal)
      | .string => pure (.string token.literal)
      | .trueWord => pure (.boolean true)
      | .falseWord => pure (.boolean false)
      | .nullWord => pure .null
      | .illegal =>
          if token.literal.toList.head? = some '"' then refuse .unterminatedString token
          else refuse .illegalCharacter token
      | .bang | .minus => do
          advance
          let value ← expression fuel unaryPower
          pure (.unary token.literal value)
      | .leftParen => do
          advance
          let value ← expression fuel lowestPower
          let _ ← expectNext .rightParen
          pure value
      | .ifWord => conditional fuel
      | .fnWord => do
          let names ← parameters fuel
          let body ← block fuel
          pure (.function names body)
      | .leftBracket => do
          let elements ← items fuel .rightBracket
          pure (.array elements)
      | .leftBrace => do
          let entries ← pairs fuel
          pure (.hash entries)
      | _ => refuse .noExpression token

/-- One continuation of the expression on the left, with the window on its first token. -/
def continuation : Nat → Expr → Looking Expr
  | 0, _ => exhausted
  | fuel + 1, left => do
      let token := (← get).current
      match token.kind with
      | .leftParen => do
          let arguments ← items fuel .rightParen
          pure (.call left arguments)
      | .leftBracket => do
          advance
          let position ← expression fuel lowestPower
          let _ ← expectNext .rightBracket
          pure (.index left position)
      | .assign =>
          match left with
          | .name name => do
              advance
              let value ← expression fuel token.kind.rightPower
              pure (.assign name value)
          | _ => refuse .invalidTarget token
      | kind => do
          advance
          let right ← expression fuel kind.rightPower
          pure (.binary left token.literal right)

/-- The continuations that bind tighter than a power, with the window on the end of the left. -/
def continuations : Nat → Nat → Expr → Looking Expr
  | 0, _, _ => exhausted
  | fuel + 1, power, left => do
      if power < (← get).next.kind.power then
        advance
        descend
        let whole ← continuation fuel left
        continuations fuel power whole
      else pure left

/-- An expression with its continuations, one level down. -/
def chain : Nat → Nat → Looking Expr
  | 0, _ => exhausted
  | fuel + 1, power => do
      descend
      let left ← start fuel
      continuations fuel power left

/--
An expression whose operators bind tighter than a power, from the current token on.  However it
comes out, the level is what it was before.
-/
def expression : Nat → Nat → Looking Expr
  | 0, _ => exhausted
  | fuel + 1, power => ExceptT.mk do
      let entry := (← get).nesting
      let result ← (chain fuel power).run
      modify fun window => window.atLevel entry
      pure result

end

/-! ## Programs -/

/-- Moves the window just past the next boundary of a statement that failed. -/
def synchronize : Nat → StateT Window Option Unit
  | 0 => StateT.lift none
  | fuel + 1 => do
      let window ← get
      if window.current.kind = .endOfInput then pure ()
      else if window.balance ≤ 0 ∧
          (window.current.kind = .semicolon ∨ window.current.kind = .rightBrace) then
        modify Window.advance
      else
        modify Window.advance
        synchronize fuel

/--
One turn of reading a program: past a semicolon, past a statement, or past one that fails.  It
gives what has to be put in front of the reading of the rest.
-/
def turn (fuel : Nat) : ExceptT String (StateT Window Option) (Reading → Reading) := do
  let window : Window ← get
  if window.current.kind = .semicolon then
    modify Window.advance
    pure id
  else
    modify Window.beginStatement
    match ← (statement fuel).run with
    | .ok tree =>
        modify Window.advance
        pure (Reading.addStatement tree)
    | .error (.problem problem) =>
        synchronize fuel
        pure (Reading.addProblem problem)
    | .error (.unreadableFloat literal) => throw literal

/-- Turns up to the end of the input. -/
def program : Nat → ExceptT String (StateT Window Option) Reading
  | 0 => StateT.lift none
  | fuel + 1 => do
      if (← getThe Window).current.kind = .endOfInput then pure ⟨⟨[]⟩, []⟩
      else
        let front ← turn fuel
        let later ← program fuel
        pure (front later)

/-- Reads a token list through a window, if the fuel is enough for that. -/
def parse (fuel : Nat) (tokens : List Token) : Option (Except String Reading) :=
  ((program fuel).run.run (.ofTokens tokens)).map Prod.fst

end Lookahead

end Jet
