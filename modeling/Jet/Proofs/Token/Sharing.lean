import Jet.Proofs.Token.Tiling

/-!
# Sharing a scanner

One scanner may serve any number of readers: some that ask for single tokens, some that hold an
iteration and take one token of it at a time, and some that run through a whole new iteration.  All
of them move the same cursor.  What tells an iteration to stop is noted in the scanner, and an
iteration looks at it only when it is asked for its next token.

Whatever the order in which they are served, the readers are handed the tokens of the text, each of
them once and in order, and then the end token.  For this every request is seen as some number of
tokens that are read in a row.  All iterations together are given one end token at most, as the
first one that meets it stops them all.
-/

namespace Jet

/-- Whether a token is an end token. -/
def Token.isEnd (token : Token) : Bool :=
  decide (token.kind = .endOfInput)

/-- The token at the end of a text. -/
def endToken (source : String) : Token :=
  .behind .endOfInput "" source.toList

theorem Tile.length_tokens (before : List Char) (tiles : List Tile) :
    (tokens before tiles).length = tiles.length := by
  induction tiles generalizing before with
  | nil => rfl
  | cons tile tiles induction => rw [tokens, List.length_cons, List.length_cons, induction]

/-! ## Reading in a row -/

namespace Cursor

/-- So many tokens in a row, end tokens included, and the cursor behind them. -/
def read : Nat → Cursor → List Token × Cursor
  | 0, cursor => ([], cursor)
  | count + 1, cursor =>
      (cursor.next.1 :: (read count cursor.next.2).1, (read count cursor.next.2).2)

/-- Tokens in a row are read in two turns as they are in one. -/
theorem read_add (first second : Nat) (cursor : Cursor) :
    read (first + second) cursor =
      ((read first cursor).1 ++ (read second (read first cursor).2).1,
        (read second (read first cursor).2).2) := by
  induction first generalizing cursor with
  | zero =>
      rw [Nat.zero_add]
      rfl
  | succ first induction =>
      rw [Nat.add_right_comm, read, induction, read]
      rfl

/-- To take tokens up to the end is to read them in a row. -/
theorem take_eq_read (count : Nat) (cursor : Cursor) :
    cursor.take count = cursor.read (cursor.take count).1.length := by
  induction count generalizing cursor with
  | zero => rfl
  | succ count induction =>
      rw [take]
      dsimp only
      split
      · rfl
      · have later := induction cursor.next.2
        rw [List.length_cons, read, ← later]

/-- At the end of a text the end token is read again and again. -/
theorem read_behind_nil (source : List Char) (count : Nat) :
    (read count (behind source [])).1 =
      List.replicate count (.behind .endOfInput "" source) := by
  have again : next (behind source []) = (.behind .endOfInput "" source, behind source []) := by
    have next := next_behind_closing (.none []) source
    rwa [List.append_nil] at next
  induction count with
  | zero => rfl
  | succ count induction => rw [read, again, induction, List.replicate_succ]

/-- Tokens in a row are those of the text, and then the end token again and again. -/
theorem read_behind {source closing : List Char} {tiles : List Tile}
    (tiling : Tiles source tiles closing) (before : List Char) {count more : Nat}
    (enough : count ≤ more) :
    (read count (behind before source)).1 =
      (Tile.allTokens before tiles source ++
        List.replicate more (Token.behind .endOfInput "" (before ++ source))).take count := by
  induction tiling generalizing before count with
  | @closing closing layout =>
      cases count with
      | zero => rfl
      | succ count =>
          have ended := read_behind_nil (before ++ closing) count
          rw [read, next_behind_closing layout, ended]
          change _ = _ :: (List.replicate more _).take count
          rw [List.take_replicate, Nat.min_eq_left (Nat.le_of_succ_le enough)]
  | @tile tile rest closing tiles layout longest later induction =>
      cases count with
      | zero => rfl
      | succ count =>
          have behind := induction (before ++ tile.text) (Nat.le_of_succ_le enough)
          rw [read, next_behind layout longest, behind, Tile.allTokens_cons, List.cons_append,
            List.take_succ_cons, List.append_assoc]

/-- Whether a cursor stands somewhere in a text. -/
def StandsIn (source : List Char) (cursor : Cursor) : Prop :=
  ∃ before rest, source = before ++ rest ∧ cursor = behind before rest

/-- The next token is read from one place of a text to another. -/
theorem StandsIn.next {source : List Char} {cursor : Cursor}
    (stands : cursor.StandsIn source) :
    cursor.next.2.StandsIn source := by
  rcases stands with ⟨before, rest, rfl, rfl⟩
  rcases Tiles.exists_tiles rest with ⟨tiles, closing, tiling⟩
  cases tiling with
  | closing layout =>
      rw [next_behind_closing layout]
      exact ⟨before ++ rest, [], (List.append_nil _).symm, rfl⟩
  | tile layout longest later =>
      rw [next_behind layout longest]
      exact ⟨_, _, (List.append_assoc _ _ _).symm, rfl⟩

theorem StandsIn.read {source : List Char} {cursor : Cursor}
    (stands : cursor.StandsIn source) (count : Nat) :
    (cursor.read count).2.StandsIn source := by
  induction count generalizing cursor with
  | zero => exact stands
  | succ count induction => exact induction stands.next

/-- A cursor in a text knows how much of it was passed, and the line and the column there. -/
theorem StandsIn.place {source : List Char} {cursor : Cursor}
    (stands : cursor.StandsIn source) :
    cursor.position ≤ source.length ∧ cursor.rest = source.drop cursor.position ∧
      cursor.line = lineAfter (source.take cursor.position) ∧
      cursor.column = columnAfter (source.take cursor.position) := by
  rcases stands with ⟨before, rest, rfl, rfl⟩
  change before.length ≤ _ ∧ rest = (before ++ rest).drop before.length ∧
    lineAfter before = lineAfter ((before ++ rest).take before.length) ∧
    columnAfter before = columnAfter ((before ++ rest).take before.length)
  rw [List.drop_left, List.take_left, List.length_append]
  exact ⟨Nat.le_add_right _ _, rfl, rfl, rfl⟩

/-- Behind as many tokens as a text has, and the end token, is the end of the text. -/
theorem read_all {source closing : List Char} {tiles : List Tile}
    (tiling : Tiles source tiles closing) (before : List Char) :
    (read (tiles.length + 1) (behind before source)).2 = behind (before ++ source) [] := by
  induction tiling generalizing before with
  | closing layout =>
      rw [read, next_behind_closing layout]
      rfl
  | tile layout longest later induction =>
      rw [List.length_cons, read, next_behind layout longest]
      dsimp only
      rw [induction, List.append_assoc]

/-- What is left from some place of a text goes on to its end, and the end token is only there. -/
theorem StandsIn.drain {source : String} {cursor : Cursor}
    (stands : cursor.StandsIn source.toList) :
    ∃ tokens, cursor.drain = (tokens ++ [endToken source], behind source.toList []) ∧
      ∀ token ∈ tokens, token.kind ≠ .endOfInput := by
  rcases stands with ⟨before, rest, equal, rfl⟩
  rcases Tiles.exists_tiles rest with ⟨tiles, closing, tiling⟩
  refine ⟨Tile.tokens before tiles, ?_, tiling.ne_endOfInput before⟩
  have taken := take_behind tiling (Nat.lt_succ_of_le tiling.length_le) before
  have length : (take (rest.length + 1) (behind before rest)).1.length = tiles.length + 1 := by
    rw [taken, List.length_append, Tile.length_tokens]
    rfl
  apply Prod.ext
  · rw [endToken, equal]
    exact taken
  · change (take (rest.length + 1) (behind before rest)).2 = _
    rw [take_eq_read, length, read_all tiling, equal]

/-- Where the end token is read, it is read again and again. -/
theorem StandsIn.next_of_end {source : String} {cursor : Cursor}
    (stands : cursor.StandsIn source.toList) (atEnd : cursor.next.1.kind = .endOfInput) :
    cursor.next.2.next = (endToken source, cursor.next.2) := by
  rcases stands with ⟨before, rest, equal, rfl⟩
  rcases Tiles.exists_tiles rest with ⟨tiles, closing, tiling⟩
  cases tiling with
  | closing layout =>
      have again := next_behind_closing (.none []) (before ++ rest)
      rw [next_behind_closing layout]
      dsimp only
      rw [again, List.append_nil, endToken, equal]
  | tile layout longest later =>
      rw [next_behind layout longest] at atEnd
      exact absurd atEnd (Lexeme.notEnd_of_first? longest.first?)

end Cursor

/-! ## Requests -/

/-- What readers ask of a scanner. -/
inductive Scanner.Request where
  /-- A token outside of all iterations. -/
  | next
  /-- The next token of one of the iterations, which are told apart by numbers. -/
  | pull (iteration : Nat)
  /-- All tokens of a new iteration. -/
  | drain
deriving DecidableEq, Repr

/-- A scanner, and the iterations over it that have come to their end. -/
structure Readers where
  scanner : Scanner
  exhausted : List Nat

namespace Readers

open Jet.Scanner

/-- A scanner at the start of a text, with no iteration at its end. -/
def ofText (source : String) : Readers :=
  ⟨.ofText source, []⟩

/--
The tokens that are handed out for one request.  An iteration that has come to its end once does not
look at the scanner any more.
-/
def serve (readers : Readers) : Request → List Token × Readers
  | .next => ([readers.scanner.next.1], { readers with scanner := readers.scanner.next.2 })
  | .pull iteration =>
      if iteration ∈ readers.exhausted then ([], readers)
      else
        match readers.scanner.pull with
        | (some token, scanner) => ([token], { readers with scanner })
        | (none, scanner) => ([], ⟨scanner, iteration :: readers.exhausted⟩)
  | .drain => (readers.scanner.drain.1, { readers with scanner := readers.scanner.drain.2 })

/-- The tokens that are handed out for each of some requests. -/
def serveAll : List Request → Readers → List (List Token) × Readers
  | [], readers => ([], readers)
  | request :: rest, readers =>
      ((readers.serve request).1 :: (serveAll rest (readers.serve request).2).1,
        (serveAll rest (readers.serve request).2).2)

/-- What was handed out to iterations, of all that was handed out for some requests. -/
def iterated : List Request → List (List Token) → List Token
  | request :: rest, tokens :: others =>
      (if request = .next then [] else tokens) ++ iterated rest others
  | _, _ => []

/-- A request is served by reading some tokens in a row. -/
theorem serve_eq_read (readers : Readers) (request : Request) :
    ∃ count, (readers.serve request).1 = (readers.scanner.cursor.read count).1 ∧
      (readers.serve request).2.scanner.cursor = (readers.scanner.cursor.read count).2 := by
  cases request with
  | next => exact ⟨1, rfl, rfl⟩
  | pull iteration =>
      rw [serve, Scanner.pull]
      split
      · exact ⟨0, rfl, rfl⟩
      · cases finished : readers.scanner.finished with
        | true => exact ⟨0, rfl, rfl⟩
        | false => exact ⟨1, rfl, rfl⟩
  | drain =>
      rw [serve, Scanner.drain]
      cases finished : readers.scanner.finished with
      | true => exact ⟨0, rfl, rfl⟩
      | false =>
          have whole := Cursor.take_eq_read (readers.scanner.cursor.rest.length + 1)
            readers.scanner.cursor
          exact ⟨_, congrArg Prod.fst whole, congrArg Prod.snd whole⟩

/-- So all requests together are served by reading tokens in a row. -/
theorem serveAll_eq_read (requests : List Request) (readers : Readers) :
    ∃ count, (serveAll requests readers).1.flatten = (readers.scanner.cursor.read count).1 ∧
      (serveAll requests readers).2.scanner.cursor = (readers.scanner.cursor.read count).2 := by
  induction requests generalizing readers with
  | nil => exact ⟨0, rfl, rfl⟩
  | cons request rest induction =>
      rcases serve_eq_read readers request with ⟨first, handed, moved⟩
      rcases induction (readers.serve request).2 with ⟨second, others, last⟩
      refine ⟨first + second, ?_, ?_⟩
      · rw [serveAll, List.flatten_cons, others, handed, moved, Cursor.read_add]
      · rw [serveAll, last, moved, Cursor.read_add]

/-! ## The end token -/

/--
What is known while readers are served: the cursor is in the text, it stays at the end token once an
iteration has met it, and no iteration comes to its end before.
-/
structure AreSound (source : String) (readers : Readers) : Prop where
  stands : readers.scanner.cursor.StandsIn source.toList
  ended : readers.scanner.finished = true →
    readers.scanner.cursor.next = (endToken source, readers.scanner.cursor)
  exhausted : ∀ iteration ∈ readers.exhausted, readers.scanner.finished = true

theorem areSound_ofText (source : String) :
    (ofText source).AreSound source :=
  ⟨⟨[], source.toList, rfl, rfl⟩, nofun, nofun⟩

variable {source : String} {readers : Readers}

theorem AreSound.serve
    (sound : readers.AreSound source) (request : Request) :
    (readers.serve request).2.AreSound source := by
  have stands : (readers.serve request).2.scanner.cursor.StandsIn source.toList := by
    rcases serve_eq_read readers request with ⟨count, _, moved⟩
    rw [moved]
    exact sound.stands.read count
  rcases sound.stands.drain with ⟨tokens, drained, _⟩
  rcases readers with ⟨⟨cursor, finished⟩, exhausted⟩
  cases request with
  | next =>
      refine ⟨stands, fun isFinished => ?_, sound.exhausted⟩
      have stays := sound.ended isFinished
      change cursor.next = (endToken source, cursor) at stays
      change cursor.next.2.next = (endToken source, cursor.next.2)
      rw [stays]
      exact stays
  | pull iteration =>
      rw [Readers.serve, Scanner.pull] at stands ⊢
      split at stands
      · rw [if_pos (by assumption)]
        exact sound
      · rw [if_neg (by assumption)]
        cases finished with
        | true => exact ⟨stands, sound.ended, fun _ _ => rfl⟩
        | false =>
            refine ⟨stands, fun isFinished => ?_, fun other member => ?_⟩
            · exact sound.stands.next_of_end (of_decide_eq_true isFinished)
            · cases sound.exhausted other member
  | drain =>
      rw [Readers.serve, Scanner.drain] at stands ⊢
      cases finished with
      | true => exact sound
      | false =>
          refine ⟨stands, fun _ => ?_, fun _ _ => rfl⟩
          have again := Cursor.next_behind_closing (.none []) source.toList
          change cursor.drain.2.next = (endToken source, cursor.drain.2)
          rw [List.append_nil] at again
          rw [drained, again]
          rfl

/-- Once an iteration has met the end token, only single requests are given it. -/
theorem serve_of_finished
    (sound : readers.AreSound source) (finished : readers.scanner.finished = true)
    (request : Request) :
    (readers.serve request).1 = (if request = .next then [endToken source] else []) ∧
      (readers.serve request).2.scanner.finished = true := by
  have stays := sound.ended finished
  cases request with
  | next =>
      rw [serve, Scanner.next, stays]
      exact ⟨rfl, finished⟩
  | pull iteration =>
      rw [serve, Scanner.pull, finished]
      split
      · exact ⟨rfl, finished⟩
      · exact ⟨rfl, finished⟩
  | drain =>
      rw [serve, Scanner.drain, finished]
      exact ⟨rfl, finished⟩

theorem serveAll_of_finished
    (sound : readers.AreSound source) (finished : readers.scanner.finished = true)
    (requests : List Request) :
    (serveAll requests readers).1 =
      requests.map fun request => if request = .next then [endToken source] else [] := by
  induction requests generalizing readers with
  | nil => rfl
  | cons request rest induction =>
      rcases serve_of_finished sound finished request with ⟨handed, stillFinished⟩
      rw [serveAll, List.map_cons, handed, induction (sound.serve request) stillFinished]

/-- Until an iteration meets the end token, each is given one, and a whole one all that is left. -/
theorem serve_of_unfinished
    (sound : readers.AreSound source) (unfinished : readers.scanner.finished = false) :
    (∀ iteration, ∃ token, (readers.serve (.pull iteration)).1 = [token]) ∧
      ∃ tokens, (readers.serve .drain).1 = tokens ++ [endToken source] ∧
        ∀ token ∈ tokens, token.kind ≠ .endOfInput := by
  constructor
  · intro iteration
    have isOpen : iteration ∉ readers.exhausted := fun member =>
      Bool.false_ne_true (unfinished.symm.trans (sound.exhausted iteration member))
    rw [serve, if_neg isOpen, Scanner.pull, unfinished]
    exact ⟨_, rfl⟩
  · rcases sound.stands.drain with ⟨tokens, drained, noEnd⟩
    rw [serve, Scanner.drain, unfinished]
    exact ⟨tokens, congrArg Prod.fst drained, noEnd⟩

/-- The scanner notes the end token that is handed out to an iteration. -/
theorem countP_serve
    (sound : readers.AreSound source) (request : Request) :
    (if request = .next then [] else (readers.serve request).1).countP Token.isEnd +
        readers.scanner.finished.toNat =
      (readers.serve request).2.scanner.finished.toNat := by
  rcases sound.stands.drain with ⟨tokens, drained, noEnd⟩
  have exhausted := sound.exhausted
  rcases readers with ⟨⟨cursor, finished⟩, ended⟩
  cases request with
  | next => exact Nat.zero_add _
  | pull iteration =>
      rw [if_neg nofun, serve, Scanner.pull]
      cases finished with
      | true =>
          split
          · rfl
          · rfl
      | false =>
          rw [if_neg fun member => Bool.false_ne_true (exhausted iteration member)]
          change List.countP Token.isEnd [cursor.next.1] + 0 = (Token.isEnd cursor.next.1).toNat
          rw [List.countP_singleton]
          cases cursor.next.1.isEnd <;> rfl
  | drain =>
      rw [if_neg nofun, serve, Scanner.drain]
      cases finished with
      | true => rfl
      | false =>
          have none : tokens.countP Token.isEnd = 0 :=
            List.countP_eq_zero.mpr fun token member => by
              rw [Token.isEnd, decide_eq_true_iff]
              exact noEnd token member
          change cursor.drain.1.countP Token.isEnd + 0 = 1
          rw [drained, List.countP_append, none]
          rfl

theorem countP_iterated
    (sound : readers.AreSound source) (requests : List Request) :
    (iterated requests (serveAll requests readers).1).countP Token.isEnd +
        readers.scanner.finished.toNat =
      (serveAll requests readers).2.scanner.finished.toNat := by
  induction requests generalizing readers with
  | nil => exact Nat.zero_add _
  | cons request rest induction =>
      have first := countP_serve sound request
      have others := induction (sound.serve request)
      rw [serveAll, iterated, List.countP_append, ← others, ← first]
      omega

theorem AreSound.serveAll
    (sound : readers.AreSound source) (requests : List Request) :
    (serveAll requests readers).2.AreSound source := by
  induction requests generalizing readers with
  | nil => exact sound
  | cons request rest induction => exact induction (sound.serve request)

/--
However many readers share the scanner of a text, and in whatever order they are served, what they
are handed is, all together and in order, the tokens of the text and then the end token as often as
it is asked for.  Every single request is handed one token.  So is every iteration that is asked for
one, and a whole iteration all that is left up to the end token, until an iteration is given the end
token.  This happens once at most; after it the iterations are given nothing, whether they began
before or not, while every single request is still given the end token.  The scanner never leaves the
text, and it knows the line and the column of the place where it is.
-/
theorem serveAll_ofText (source : String) (requests : List Request) :
    let handed := (serveAll requests (ofText source)).1
    let after := (serveAll requests (ofText source)).2
    (∃ tokens, tokenize source = tokens ++ [endToken source] ∧
        (endToken source).kind = .endOfInput ∧ ∀ token ∈ tokens, token.kind ≠ .endOfInput) ∧
      (∃ count, handed.flatten <+: tokenize source ++ List.replicate count (endToken source)) ∧
      (∃ token, (after.serve .next).1 = [token]) ∧
      ((∀ token ∈ iterated requests handed, token.kind ≠ .endOfInput) →
        (∀ iteration, ∃ token, (after.serve (.pull iteration)).1 = [token]) ∧
          ∃ tokens, (after.serve .drain).1 = tokens ++ [endToken source] ∧
            ∀ token ∈ tokens, token.kind ≠ .endOfInput) ∧
      (iterated requests handed).countP Token.isEnd ≤ 1 ∧
      ((∃ token ∈ iterated requests handed, token.kind = .endOfInput) → ∀ more,
        (serveAll more after).1 =
          more.map fun request => if request = .next then [endToken source] else []) ∧
      after.scanner.cursor.position ≤ source.length ∧
      after.scanner.cursor.rest = source.toList.drop after.scanner.cursor.position ∧
      after.scanner.cursor.line = lineAfter (source.toList.take after.scanner.cursor.position) ∧
      after.scanner.cursor.column =
        columnAfter (source.toList.take after.scanner.cursor.position) := by
  intro handed after
  have begins := areSound_ofText source
  have sound : after.AreSound source := begins.serveAll requests
  have ends : (iterated requests handed).countP Token.isEnd = after.scanner.finished.toNat :=
    countP_iterated begins requests
  refine ⟨?_, ?_, ⟨_, rfl⟩, ?_, ?_, ?_, sound.stands.place⟩
  · rcases begins.stands.drain with ⟨tokens, drained, noEnd⟩
    exact ⟨tokens, congrArg Prod.fst drained, rfl, noEnd⟩
  · rcases serveAll_eq_read requests (ofText source) with ⟨count, equal, _⟩
    rcases Tiles.exists_tiles source.toList with ⟨tiles, closing, tiling⟩
    refine ⟨count, ?_⟩
    change (serveAll requests (ofText source)).1.flatten <+: _
    have taken := Cursor.read_behind tiling [] (Nat.le_refl count)
    rw [equal, tiling.tokenize]
    exact taken ▸ List.take_prefix _ _
  · intro noEnd
    have none : (iterated requests handed).countP Token.isEnd = 0 :=
      List.countP_eq_zero.mpr fun token member => by
        rw [Token.isEnd, decide_eq_true_iff]
        exact noEnd token member
    rw [none] at ends
    exact serve_of_unfinished sound (Bool.toNat_eq_zero.mp ends.symm)
  · rw [ends]
    exact Bool.toNat_le _
  · rintro ⟨token, member, isEnd⟩ more
    have some : 0 < (iterated requests handed).countP Token.isEnd :=
      List.countP_pos_iff.mpr ⟨token, member, decide_eq_true isEnd⟩
    have finished : after.scanner.finished = true := by
      cases finished : after.scanner.finished with
      | true => rfl
      | false =>
          rw [finished] at ends
          exact absurd ends (Nat.ne_of_gt some)
    exact serveAll_of_finished sound finished more

-- Two tokens are taken by different readers; the iteration that was left open ends with the list.
example :
    (serveAll [.next, .pull 0, .drain, .pull 0, .next] (ofText "a;")).1.map (List.map Token.kind) =
      [[.identifier], [.semicolon], [.endOfInput], [], [.endOfInput]] := by cbv

end Readers

end Jet
