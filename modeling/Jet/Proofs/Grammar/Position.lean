import Jet.Proofs.Grammar.Lookahead

/-!
# Where the window is

`Shows` says that a stream begins with some tokens up to an end, whatever stands behind it: either
one of its tokens is the end, or it has no end token and the end is the one that it implies.  A
window that moves on shows one token less, and the window at the start of a token list shows all
tokens in front of the first end.

`Stands` adds how the tokens belong to the statement that is being read, how many braces are open
and how deep the expression is.  A parser of the grammar hands on the tokens behind what it has
read, while the window is left on the last token that was read: `Ends` is `Stands` for that
convention.
-/

namespace Jet

namespace Lookahead

open Jet.Parser (headKind beforeEnd endToken impliedEnd braceBalance)

/-! ## What a window shows -/

/-- Whether some tokens, and then an end, are what a stream begins with. -/
inductive Shows (finish : Token) : List Token → List Token → Prop where
  /-- The end is one of the tokens of the stream. -/
  | stated (tokens more : List Token) : Shows finish (tokens ++ finish :: more) tokens
  /-- The stream has no end token, so that it ends behind its last token. -/
  | implied {tokens : List Token}
      (nonempty : tokens ≠ [])
      (behind : finish = impliedEnd tokens) :
      Shows finish tokens tokens

section

variable {finish token : Token} {tokens rest : List Token} {window : Window}

/-- The first of the tokens is the current one, and at their end it is the end. -/
theorem Shows.current_eq
    (shows : Shows finish window.stream tokens) :
    window.current = tokens.headD finish := by
  generalize ahead : window.stream = stream at shows
  cases shows with
  | stated tokens more =>
      cases tokens with
      | nil => exact (List.cons.inj ahead).1
      | cons token rest => exact (List.cons.inj ahead).1
  | implied nonempty =>
      subst ahead
      rfl

/-- What is behind the current token begins with the next one. -/
theorem Shows.next_eq
    (shows : Shows finish window.stream (token :: rest)) :
    window.next = rest.headD finish := by
  generalize ahead : window.stream = stream at shows
  generalize all : token :: rest = tokens at shows
  cases shows with
  | stated tokens more =>
      subst all
      have behind := (List.cons.inj ahead).2
      cases rest with
      | nil => exact (List.cons.inj behind).1
      | cons second rest => exact (List.cons.inj behind).1
  | implied nonempty =>
      subst all
      rw [← (List.cons.inj ahead).2]
      rfl

/-- Behind an end token the stream goes on with it. -/
theorem pull_nil_of_isEnd
    (isEnd : token.kind = .endOfInput) :
    Window.pull (some token) [] = (token, []) :=
  if_pos isEnd

/-- Behind any other last token the stream goes on with the end that it implies. -/
theorem pull_nil_of_noEnd
    (noEnd : token.kind ≠ .endOfInput) :
    Window.pull (some token) [] = (impliedEnd [token], []) :=
  if_neg noEnd

/-- The window one token further on shows one token less. -/
theorem Shows.advance
    (isEnd : finish.kind = .endOfInput)
    (noEnd : ∀ token ∈ rest, token.kind ≠ .endOfInput)
    (shows : Shows finish window.stream (token :: rest)) :
    Shows finish window.advance.stream rest := by
  rcases window with ⟨current, next, unread, balance, nesting⟩
  generalize ahead : Window.stream _ = stream at shows
  generalize all : token :: rest = tokens at shows
  cases shows with
  | stated tokens more =>
      subst all
      have behind : next :: unread = rest ++ finish :: more := (List.cons.inj ahead).2
      cases unread with
      | cons second unread =>
          rw [Window.stream, Window.advance, Window.pull, behind]
          exact .stated rest more
      | nil =>
          cases rest with
          | nil =>
              cases behind
              rw [Window.stream, Window.advance, pull_nil_of_isEnd isEnd]
              exact .stated [] [finish]
          | cons second rest => simp at behind
  | implied nonempty behind =>
      subst all
      rcases List.cons.inj ahead with ⟨rfl, rfl⟩
      cases unread with
      | cons second unread =>
          refine Shows.implied (List.cons_ne_nil _ _) ?_
          rw [behind]
          exact Parser.impliedEnd_append [current] next (second :: unread)
      | nil =>
          have finishes : finish = impliedEnd [next] :=
            behind.trans (Parser.impliedEnd_append [current] next [])
          rw [Window.stream, Window.advance,
            pull_nil_of_noEnd (noEnd next List.mem_cons_self), finishes]
          exact .stated [next] []

/-- A stream that has a token shows all of its tokens in front of the first end. -/
theorem shows_beforeEnd (nonempty : tokens ≠ []) :
    Shows (endToken tokens) tokens (beforeEnd tokens) := by
  cases found : tokens.find? Parser.isEnd with
  | some finish =>
      rcases List.find?_eq_some_iff_append.mp found with ⟨isEnd, front, more, rfl, noEnd⟩
      have isEnd : finish.kind = .endOfInput := by simpa [Parser.isEnd] using isEnd
      have front_eq : beforeEnd (front ++ finish :: more) = front :=
        Parser.beforeEnd_append (by simpa [Parser.isEnd] using noEnd) isEnd
      rw [endToken, found, front_eq]
      exact .stated front more
  | none =>
      have noEnd : ∀ token ∈ tokens, token.kind ≠ .endOfInput := by
        simpa [Parser.isEnd] using found
      rw [endToken, found, Parser.beforeEnd_of_noEnd noEnd]
      exact .implied nonempty rfl

/-- The window at the start of a stream shows all tokens in front of the first end. -/
theorem ofTokens_shows (tokens : List Token) :
    Shows (endToken tokens) (Window.ofTokens tokens).stream (beforeEnd tokens) := by
  match tokens with
  | [] => exact .stated [] [_]
  | [token] =>
      change Shows _ (token :: (Window.pull (some token) []).1 :: (Window.pull (some token) []).2) _
      by_cases isEnd : token.kind = .endOfInput
      · have front : beforeEnd [token] = [] := by simp [beforeEnd, Parser.isEnd, isEnd]
        have finish : endToken [token] = token := by simp [endToken, Parser.isEnd, isEnd]
        rw [pull_nil_of_isEnd isEnd, front, finish]
        exact .stated [] [token]
      · have front : beforeEnd [token] = [token] := by simp [beforeEnd, Parser.isEnd, isEnd]
        have finish : endToken [token] = impliedEnd [token] := by
          simp [endToken, Parser.isEnd, isEnd]
        rw [pull_nil_of_noEnd isEnd, front, finish]
        exact .stated [token] []
  | first :: second :: rest => exact shows_beforeEnd (List.cons_ne_nil _ _)

end

/-! ## Where the window is -/

/-- The tokens of a program from the first one of a statement on, up to their end. -/
structure Span where
  tokens : List Token
  finish : Token
  /-- What the window counts as open on the last of the tokens. -/
  balance : Int
  isEnd : finish.kind = .endOfInput
  noEnd : ∀ token ∈ tokens, token.kind ≠ .endOfInput

/--
Whether the window is on the first of some tokens, or on the end if there are none, at a level of
the expression.
-/
structure Stands (span : Span) (level : Nat) (window : Window) (tokens : List Token) : Prop where
  suffix : tokens <:+ span.tokens
  shows : Shows span.finish window.stream tokens
  balance : window.balance + braceBalance tokens.tail = span.balance
  level : window.nesting = level

/-- Whether the window is on a token that some tokens are behind. -/
def Ends (span : Span) (level : Nat) (window : Window) (rest : List Token) : Prop :=
  Stands span level window (window.current :: rest)

variable {span : Span} {level : Nat} {window : Window} {token : Token} {tokens rest : List Token}

/-- What comes first of some tokens is the end if there are none. -/
theorem Span.headKind_eq (span : Span) (tokens : List Token) :
    headKind tokens = (tokens.headD span.finish).kind := by
  cases tokens with
  | nil => exact span.isEnd.symm
  | cons token rest => rfl

theorem Stands.headKind
    (stands : Stands span level window tokens) :
    headKind tokens = window.current.kind := by
  rw [stands.shows.current_eq, span.headKind_eq]

theorem Stands.current_eq
    (stands : Stands span level window (token :: rest)) :
    window.current = token :=
  stands.shows.current_eq

theorem Stands.ends
    (stands : Stands span level window (token :: rest)) :
    Ends span level window rest := by
  rw [Ends, stands.current_eq]
  exact stands

/-- The window is on the end exactly if there are no tokens. -/
theorem Stands.eq_nil
    (stands : Stands span level window tokens) (ended : window.current.kind = .endOfInput) :
    tokens = [] := by
  cases tokens with
  | nil => rfl
  | cons token rest =>
      rw [stands.current_eq] at ended
      exact absurd ended (span.noEnd token (stands.suffix.subset List.mem_cons_self))

theorem Ends.next_eq
    (ends : Ends span level window rest) :
    window.next = rest.headD span.finish :=
  ends.shows.next_eq

theorem Ends.headKind
    (ends : Ends span level window rest) :
    headKind rest = window.next.kind := by
  rw [ends.next_eq, span.headKind_eq]

/-- The window moves on to what is behind its current token. -/
theorem Ends.advance
    (ends : Ends span level window rest) :
    Stands span level window.advance rest := by
  have suffix : rest <:+ span.tokens := (List.suffix_cons _ _).trans ends.suffix
  refine ⟨suffix, ends.shows.advance span.isEnd fun token member =>
    span.noEnd token (suffix.subset member), ?_, ends.level⟩
  have balance : window.balance + braceBalance rest = span.balance := ends.balance
  have moved : window.advance.balance = window.balance + window.next.kind.braceStep := rfl
  rw [moved, ends.next_eq, ← balance]
  cases rest with
  | nil => simp [span.isEnd, Kind.braceStep]
  | cons token rest => simp [Int.add_assoc]

theorem Ends.pass
    (ends : Ends span level window (token :: rest)) :
    Ends span level window.advance rest :=
  ends.advance.ends

end Lookahead

end Jet
