import Jet.Proofs.Token.Scanning
import Jet.Proofs.Token.Spacing
import Jet.Tree.Canonical

/-!
# Reading a text piece by piece

How the tokens of a text are found when the text is made of pieces.  `Cursor.Reads` says that some
tokens come next in front of another place of the text, with blanks wherever they like to stand.
`Finds text good` says that a piece of text, whatever separates itself from it behind, is read as
tokens of some form; such pieces can be put together one lexeme at a time.

A word or a number goes on for as long as it can, so what follows it has to separate itself; a
delimiter is read as itself in front of everything, and a quoted string is read back as the string
that was quoted.
-/

namespace Jet

namespace Lexeme

/-- What the first lexeme of a text that begins with a character is like. -/
structure Begins (char : Char) (lexeme : Lexeme) : Prop where
  notEnd : lexeme.kind ≠ .endOfInput
  covers : ∃ others, lexeme.text = char :: others
  literal : lexeme.kind = .string ∨ lexeme.literal = String.ofList lexeme.text

theorem Begins.verbatim {char : Char} {kind : Kind} {text others : List Char}
    (notEnd : kind ≠ .endOfInput) (covers : text = char :: others) :
    Begins char (verbatim kind text) :=
  ⟨notEnd, ⟨others, covers⟩, .inr rfl⟩

theorem word_begins {char : Char} (rest : List Char)
    (letter : isLetter char = true) :
    Begins char (word (char :: rest)) := by
  refine .verbatim (fun isEnd => ?_)
    (List.takeWhile_cons_of_pos (isWordChar_of_isLetter letter))
  rcases Kind.ofWord_eq_identifier_or (String.ofList ((char :: rest).takeWhile isWordChar)) with
    name | keyword
  · cases isEnd.symm.trans name
  · exact absurd (isEnd ▸ keyword) (by decide)

theorem number_begins {char : Char} (rest : List Char)
    (digit : isDigit char = true) :
    Begins char (number (char :: rest)) := by
  have whole : (char :: rest).takeWhile isDigit = char :: rest.takeWhile isDigit :=
    List.takeWhile_cons_of_pos digit
  unfold number
  dsimp only
  rw [whole]
  split
  · split
    · exact .verbatim nofun rfl
    · exact .verbatim nofun rfl
  · exact .verbatim nofun rfl

theorem string_begins (char : Char) (rest : List Char) :
    Begins char (string (char :: rest)) := by
  unfold string
  split
  · exact ⟨nofun, ⟨_, rfl⟩, .inl rfl⟩
  · exact .verbatim nofun rfl

theorem symbol_begins (char : Char) (rest : List Char) :
    Begins char (symbol char rest) := by
  have single : Kind.ofSymbol char ≠ .endOfInput := by
    intro isEnd
    rcases Kind.ofSymbol_eq_illegal_or char with illegal | known
    · cases isEnd.symm.trans illegal
    · rw [isEnd] at known
      cases known
  unfold symbol
  split
  · split
    · rename_i pair
      refine .verbatim (fun isEnd => ?_) rfl
      rw [isEnd] at pair
      cases Kind.symbol?_of_ofPair? pair
    · exact .verbatim single rfl
  · exact .verbatim single rfl

/-- The first lexeme of a text covers the first character, and perhaps more. -/
theorem begins_of_first? {char : Char} {rest : List Char} {lexeme : Lexeme}
    (comesFirst : first? (char :: rest) = some lexeme) :
    lexeme.Begins char := by
  rw [first?] at comesFirst
  split at comesFirst
  · rename_i letter
    cases comesFirst
    exact word_begins rest letter
  · split at comesFirst
    · rename_i digit
      cases comesFirst
      exact number_begins rest digit
    · split at comesFirst
      · cases comesFirst
        exact string_begins char rest
      · cases comesFirst
        exact symbol_begins char rest

theorem notEnd_of_first? {source : List Char} {lexeme : Lexeme}
    (comesFirst : first? source = some lexeme) :
    lexeme.kind ≠ .endOfInput := by
  cases source with
  | nil => cases comesFirst
  | cons char rest => exact (begins_of_first? comesFirst).notEnd

/-- A lexeme with a symbol begins with the first character of its symbol. -/
theorem head?_of_first? {char : Char} {rest : List Char} {lexeme : Lexeme} {symbol : String}
    (comesFirst : first? (char :: rest) = some lexeme)
    (known : lexeme.kind.symbol? = some symbol) :
    symbol.toList.head? = some char := by
  have begins := begins_of_first? comesFirst
  rcases begins.literal with isString | literal
  · rw [isString] at known
    cases known
  · rcases begins.covers with ⟨others, covers⟩
    rw [← Kind.eq_symbol_of_fits (fits_of_first? comesFirst) known, literal, covers,
      String.toList_ofList]
    rfl

/-- A digit is no letter. -/
theorem isLetter_of_isDigit {char : Char}
    (digit : isDigit char = true) :
    isLetter char = false := by
  have range := isDigit_iff.mp digit
  refine Bool.eq_false_iff.mpr fun letter => ?_
  simp only [isLetter, Bool.or_eq_true, Bool.and_eq_true, decide_eq_true_iff, beq_iff_eq] at letter
  rcases letter with (rfl | ⟨lower, _⟩) | ⟨upper, _⟩
  · contradiction
  · have low : 0x61 ≤ char.toNat := lower
    omega
  · have low : 0x41 ≤ char.toNat := upper
    omega

end Lexeme

namespace Cursor

theorem rest_step {cursor : Cursor} {char : Char} {rest : List Char}
    (begins : cursor.rest = char :: rest) :
    cursor.step.rest = rest := by
  unfold step
  rw [begins]
  split
  · contradiction
  · rename_i equal
    cases equal
    rfl
  · rename_i equal
    cases equal
    rfl

theorem rest_advance {cursor : Cursor} {text rest : List Char}
    (begins : cursor.rest = text ++ rest) :
    (advance text.length cursor).rest = rest := by
  induction text generalizing cursor with
  | nil => exact begins
  | cons char text induction =>
      rw [List.length_cons, advance]
      exact induction (rest_step begins)

/-- What is left behind some characters is what is left in front of them without these. -/
theorem rest_advance_eq_drop (count : Nat) (cursor : Cursor) :
    (advance count cursor).rest = cursor.rest.drop count := by
  induction count generalizing cursor with
  | zero => rfl
  | succ count induction =>
      rw [advance, induction]
      cases begins : cursor.rest with
      | nil =>
          have same : cursor.step = cursor := by
            unfold step
            rw [begins]
          rw [same, begins, List.drop_nil, List.drop_nil]
      | cons char rest => rw [rest_step begins, List.drop_succ_cons]

/-- A blank in front makes no difference to the next token. -/
theorem next_of_isBlank {cursor : Cursor} {char : Char} {rest : List Char}
    (begins : cursor.rest = char :: rest) (blank : isBlank char = true) :
    cursor.next = cursor.step.next := by
  have same : cursor.skipLayout = cursor.step.skipLayout := by
    rw [skipLayout, skipLayout, rest_step begins, begins, layoutLength, if_pos blank]
    rfl
  rw [next, next, same]

/-- A lexeme without layout in front is the next token. -/
theorem next_lexeme {cursor : Cursor} {lexeme : Lexeme} {rest : List Char}
    (begins : cursor.rest = lexeme.text ++ rest)
    (noLayout : layoutLength false (lexeme.text ++ rest) = 0)
    (comesFirst : Lexeme.first? (lexeme.text ++ rest) = some lexeme) :
    cursor.next = (⟨lexeme.kind, lexeme.literal, cursor.line, cursor.column⟩,
      cursor.advance lexeme.text.length) := by
  have start : cursor.skipLayout = cursor := by
    rw [skipLayout, begins, noLayout]
    rfl
  rw [next, start, begins, comesFirst]

/-- Every token but the end takes some of the text. -/
theorem length_next_lt (cursor : Cursor)
    (notEnd : cursor.next.1.kind ≠ .endOfInput) :
    cursor.next.2.rest.length < cursor.rest.length := by
  unfold next at *
  dsimp only at *
  split at notEnd
  · exact absurd rfl notEnd
  · rename_i lexeme comesFirst
    have shorter : cursor.skipLayout.rest.length ≤ cursor.rest.length := by
      rw [skipLayout, rest_advance_eq_drop, List.length_drop]
      exact Nat.sub_le _ _
    rw [rest_advance_eq_drop, List.length_drop]
    cases start : cursor.skipLayout.rest with
    | nil =>
        rw [start] at comesFirst
        cases comesFirst
    | cons char rest =>
        rw [start] at comesFirst shorter
        rcases (Lexeme.begins_of_first? comesFirst).covers with ⟨others, covers⟩
        rw [covers]
        simp only [List.length_cons] at shorter ⊢
        omega

/--
From one place of a text to another by some tokens, with blanks in front of each of them and behind
the last one.
-/
inductive Reads : Cursor → List Token → Cursor → Prop where
  | done (cursor : Cursor) : Reads cursor [] cursor
  | blank {cursor after : Cursor} {char : Char} {rest : List Char} {tokens : List Token}
      (begins : cursor.rest = char :: rest)
      (blank : isBlank char = true)
      (later : Reads cursor.step tokens after) :
      Reads cursor tokens after
  | token {cursor between after : Cursor} {token : Token} {tokens : List Token}
      (next : cursor.next = (token, between))
      (notEnd : token.kind ≠ .endOfInput)
      (later : Reads between tokens after) :
      Reads cursor (token :: tokens) after

theorem Reads.append {cursor between after : Cursor} {tokens others : List Token}
    (first : Reads cursor tokens between) (second : Reads between others after) :
    Reads cursor (tokens ++ others) after := by
  induction first with
  | done => exact second
  | blank begins blank later induction => exact .blank begins blank (induction second)
  | token next notEnd later induction => exact .token next notEnd (induction second)

/-- There are no more tokens than characters. -/
theorem Reads.length_le {cursor after : Cursor} {tokens : List Token}
    (reads : Reads cursor tokens after) :
    tokens.length ≤ cursor.rest.length := by
  induction reads with
  | done => exact Nat.zero_le _
  | blank begins blank later induction =>
      rw [rest_step begins] at induction
      rw [begins]
      exact Nat.le_succ_of_le induction
  | @token cursor _ _ _ _ next notEnd later induction =>
      have shorter := length_next_lt cursor (by rw [next]; exact notEnd)
      rw [next] at shorter
      exact Nat.lt_of_le_of_lt induction shorter

/-- Tokens up to the end of a text are all that is taken, and then the end. -/
theorem Reads.take {cursor after : Cursor} {tokens : List Token}
    (reads : Reads cursor tokens after) (ended : after.rest = [])
    {count : Nat} (enough : tokens.length < count) :
    ∃ finish, finish.kind = .endOfInput ∧ (cursor.take count).1 = tokens ++ [finish] := by
  induction reads generalizing count with
  | done cursor =>
      rcases Nat.exists_eq_add_one_of_ne_zero (Nat.ne_zero_of_lt enough) with ⟨count, rfl⟩
      have start : cursor.skipLayout = cursor := by
        rw [skipLayout, ended]
        rfl
      have atEnd : cursor.next = (⟨.endOfInput, "", cursor.line, cursor.column⟩, cursor) := by
        rw [next, start, ended]
        rfl
      refine ⟨⟨.endOfInput, "", cursor.line, cursor.column⟩, rfl, ?_⟩
      rw [Cursor.take, atEnd]
      rfl
  | blank begins blank later induction =>
      rcases Nat.exists_eq_add_one_of_ne_zero (Nat.ne_zero_of_lt enough) with ⟨count, rfl⟩
      rcases induction ended enough with ⟨finish, isEnd, taken⟩
      refine ⟨finish, isEnd, ?_⟩
      rw [Cursor.take] at taken ⊢
      rw [next_of_isBlank begins blank, taken]
  | token next notEnd later induction =>
      rcases Nat.exists_eq_add_one_of_ne_zero (Nat.ne_zero_of_lt enough) with ⟨count, rfl⟩
      rcases induction ended (Nat.lt_of_succ_lt_succ enough) with ⟨finish, isEnd, taken⟩
      refine ⟨finish, isEnd, ?_⟩
      rw [Cursor.take, next]
      dsimp only
      rw [if_neg notEnd]
      dsimp only
      rw [taken]
      rfl

end Cursor

/-- Tokens up to the end of a text are its tokens, and then the end. -/
theorem tokenize_of_reads {source : String} {tokens : List Token} {after : Cursor}
    (reads : (Cursor.ofText source).Reads tokens after) (ended : after.rest = []) :
    ∃ finish, finish.kind = .endOfInput ∧ tokenize source = tokens ++ [finish] :=
  reads.take ended (Nat.lt_succ_of_le reads.length_le)

/-! ## Pieces of text -/

/-- Whether a text does not go on with a symbol in front of it. -/
def endsSymbol : List Char → Bool
  | [] => true
  | char :: _ => char != '=' && char != '&' && char != '|'

/-- Whether a text goes on with nothing that may stand in front of it. -/
def separates : List Char → Bool
  | [] => true
  | char :: rest => !isWordChar char && char != '.' && endsSymbol (char :: rest)

theorem separates_of_isBlank {char : Char}
    (blank : isBlank char = true) (rest : List Char) :
    separates (char :: rest) = true := by
  simp only [isBlank, Bool.or_eq_true, beq_iff_eq] at blank
  rcases blank with ((rfl | rfl) | rfl) | rfl <;> rfl

theorem separates_append {text rest : List Char}
    (first : separates text = true) (second : separates rest = true) :
    separates (text ++ rest) = true := by
  cases text with
  | nil => exact second
  | cons char text => exact first

theorem endsSymbol_append {text rest : List Char}
    (first : endsSymbol text = true) (second : separates rest = true) :
    endsSymbol (text ++ rest) = true := by
  cases text with
  | nil =>
      cases rest with
      | nil => rfl
      | cons char rest =>
          rw [separates, Bool.and_eq_true] at second
          exact second.2
  | cons char text => exact first

theorem Lexeme.symbol_eq_verbatim {char : Char} {source : List Char}
    (single : ∀ next ∈ source.head?, Kind.ofPair? char next = none) :
    symbol char source = verbatim (.ofSymbol char) [char] := by
  cases source with
  | nil => rfl
  | cons next rest => rw [symbol, single next rfl]

theorem Kind.ofPair?_of_endsSymbol {source : List Char}
    (ends : endsSymbol source = true) (char : Char) :
    ∀ next ∈ source.head?, ofPair? char next = none := by
  intro next member
  cases source with
  | nil => cases member
  | cons other rest =>
      cases member
      unfold ofPair?
      split
      case h_7 => rfl
      all_goals cases ends

/-- A symbol is read as itself in front of a text that does not go on with it. -/
theorem Lexeme.first?_symbol {kind : Kind} {symbol : String}
    (known : kind.symbol? = some symbol) (source : List Char)
    (single : ∀ char, symbol = String.ofList [char] →
      ∀ next ∈ source.head?, Kind.ofPair? char next = none) :
    layoutLength false (symbol.toList ++ source) = 0 ∧
      first? (symbol.toList ++ source) = some (verbatim kind symbol.toList) := by
  have single (char : Char) (equal : symbol = String.ofList [char]) :
      some (Lexeme.symbol char source) = some (verbatim (.ofSymbol char) [char]) :=
    congrArg some (symbol_eq_verbatim (single char equal))
  cases kind <;> cases known
  case lessEqual | greaterEqual | equal | notEqual | and | or => exact ⟨rfl, rfl⟩
  all_goals exact ⟨rfl, single _ rfl⟩

/-- No word and no number reaches into a text that separates itself. -/
theorem takeWhile_of_separates {text rest : List Char} {belongs : Char → Bool}
    (all : ∀ char ∈ text, belongs char = true)
    (isPart : ∀ char, belongs char = true → isWordChar char = true)
    (apart : separates rest = true) :
    (text ++ rest).takeWhile belongs = text ∧ (text ++ rest).dropWhile belongs = rest := by
  rw [List.takeWhile_append_of_pos all, List.dropWhile_append_of_pos all]
  cases rest with
  | nil => exact ⟨List.append_nil _, rfl⟩
  | cons char rest =>
      simp only [separates, Bool.and_eq_true, Bool.not_eq_true'] at apart
      have ends : ¬belongs char = true := fun belongs =>
        Bool.false_ne_true (apart.1.1.symm.trans (isPart char belongs))
      rw [List.takeWhile_cons_of_neg ends, List.dropWhile_cons_of_neg ends]
      exact ⟨List.append_nil _, rfl⟩

/-- A quoted string is read back as the string that was quoted, up to its closing quote. -/
theorem stringBody?_flatMap_escapeChar (contents rest : List Char) :
    stringBody? (contents.flatMap escapeChar ++ '"' :: rest) =
      some (contents, (contents.flatMap escapeChar).length + 1) := by
  induction contents with
  | nil => rfl
  | cons char contents induction =>
      rw [List.flatMap_cons, List.append_assoc]
      generalize contents.flatMap escapeChar = escaped at induction ⊢
      unfold escapeChar
      split
      case h_4 notBackslash notQuote notBreak =>
          rw [List.singleton_append, stringBody?, if_neg notQuote, induction]
          · simp
          · exact fun isBackslash _ => notBackslash isBackslash
          · exact fun _ _ isBackslash _ => notBackslash isBackslash
      all_goals
        simp only [List.cons_append, List.nil_append, stringBody?, induction, Option.map_some,
          List.length_cons]
        rfl

theorem Lexeme.string_quoted (contents : String) (rest : List Char) :
    string ('"' :: (contents.toList.flatMap escapeChar ++ '"' :: rest)) =
      ⟨.string, contents, '"' :: (contents.toList.flatMap escapeChar ++ ['"'])⟩ := by
  rw [string, List.tail_cons, stringBody?_flatMap_escapeChar]
  dsimp only
  rw [String.ofList_toList, List.take_succ_cons, List.take_length_add_append]
  rfl

/--
Whether a piece of text is read as tokens of some form, in front of whatever separates itself from
it.
-/
def Finds (text : List Char) (good : List Token → Prop) : Prop :=
  ∀ (cursor : Cursor) (rest : List Char), cursor.rest = text ++ rest → separates rest = true →
    ∃ tokens after, cursor.Reads tokens after ∧ after.rest = rest ∧ good tokens

namespace Finds

variable {text more : List Char} {good others : List Token → Prop}

theorem nil
    (holds : good []) :
    Finds [] good :=
  fun cursor _ begins _ => ⟨[], cursor, .done cursor, begins, holds⟩

theorem mono
    (finds : Finds text others) (implies : ∀ tokens, others tokens → good tokens) :
    Finds text good := by
  intro cursor rest begins apart
  rcases finds cursor rest begins apart with ⟨tokens, after, reads, left, holds⟩
  exact ⟨tokens, after, reads, left, implies tokens holds⟩

/-- A blank in front of a piece. -/
theorem blank {char : Char}
    (isBlank : isBlank char = true) (later : Finds text good) :
    Finds (char :: text) good := by
  intro cursor rest begins apart
  rcases later cursor.step rest (Cursor.rest_step begins) apart with
    ⟨tokens, after, reads, left, holds⟩
  exact ⟨tokens, after, .blank begins isBlank reads, left, holds⟩

/-- One piece behind another that it separates itself from. -/
theorem append
    (first : Finds text others) (apart : separates more = true)
    (later : ∀ front, others front → Finds more fun back => good (front ++ back)) :
    Finds (text ++ more) good := by
  intro cursor rest begins restApart
  rw [List.append_assoc] at begins
  rcases first cursor (more ++ rest) begins (separates_append apart restApart) with
    ⟨front, between, readsFront, between_rest, goodFront⟩
  rcases later front goodFront between rest between_rest restApart with
    ⟨back, after, readsBack, left, goodBack⟩
  exact ⟨front ++ back, after, readsFront.append readsBack, left, goodBack⟩

/-- The first token, if it has a symbol, is what a piece begins with. -/
theorem head {char : Char}
    (noLayout : ∀ rest, layoutLength false (char :: rest) = 0)
    (finds : Finds (char :: text) good) :
    Finds (char :: text) fun tokens => good tokens ∧
      ∀ token ∈ tokens.head?, ∀ symbol, token.kind.symbol? = some symbol →
        symbol.toList.head? = some char := by
  intro cursor rest begins apart
  rcases finds cursor rest begins apart with ⟨tokens, after, reads, left, holds⟩
  refine ⟨tokens, after, reads, left, holds, ?_⟩
  have none := noLayout (text ++ rest)
  cases reads with
  | done => exact fun _ member => nomatch member
  | blank hasBlank blank =>
      cases hasBlank.symm.trans begins
      rw [layoutLength, if_pos blank] at none
      cases none
  | token next =>
      rintro token ⟨⟩ symbol known
      have start : cursor.skipLayout = cursor := by
        rw [Cursor.skipLayout, begins, List.cons_append, none]
        rfl
      rw [Cursor.next, start, begins] at next
      split at next
      · cases next
        cases known
      · rename_i comesFirst
        cases next
        exact Lexeme.head?_of_first? comesFirst known

/-- A lexeme in front of a piece, if it is what is read there. -/
theorem lexeme (lexeme : Lexeme)
    (comesFirst : ∀ rest, separates rest = true →
      layoutLength false (lexeme.text ++ (text ++ rest)) = 0 ∧
        Lexeme.first? (lexeme.text ++ (text ++ rest)) = some lexeme)
    (later : ∀ token : Token, token.kind = lexeme.kind → token.literal = lexeme.literal →
      Finds text fun tokens => good (token :: tokens)) :
    Finds (lexeme.text ++ text) good := by
  intro cursor rest begins apart
  rw [List.append_assoc] at begins
  rcases comesFirst rest apart with ⟨noLayout, first⟩
  have next := Cursor.next_lexeme begins noLayout first
  rcases later ⟨lexeme.kind, lexeme.literal, cursor.line, cursor.column⟩ rfl rfl _ rest
      (Cursor.rest_advance begins) apart with
    ⟨tokens, after, reads, left, holds⟩
  exact ⟨_, after, .token next (Lexeme.notEnd_of_first? first) reads, left, holds⟩

/-- A word in front of a piece that separates itself. -/
theorem word (letters : List Char)
    (isWord : isWord letters = true) (apart : separates text = true)
    (later : ∀ token : Token, token.kind = .ofWord (String.ofList letters) →
      token.literal = String.ofList letters → Finds text fun tokens => good (token :: tokens)) :
    Finds (letters ++ text) good := by
  refine lexeme (.verbatim (.ofWord (String.ofList letters)) letters) ?_ later
  intro rest restApart
  change layoutLength false (letters ++ (text ++ rest)) = 0 ∧
    Lexeme.first? (letters ++ (text ++ rest)) = _
  cases letters with
  | nil => cases isWord
  | cons char letters =>
      rw [Jet.isWord, Bool.and_eq_true, List.all_eq_true] at isWord
      have all : ∀ other ∈ char :: letters, isWordChar other = true :=
        List.forall_mem_cons.mpr ⟨isWordChar_of_isLetter isWord.1, isWord.2⟩
      have taken := (takeWhile_of_separates all (fun _ belongs => belongs)
        (separates_append apart restApart)).1
      refine ⟨layoutLength_of_isWordChar (isWordChar_of_isLetter isWord.1) _, ?_⟩
      rw [List.cons_append, Lexeme.first?, if_pos isWord.1, ← List.cons_append, Lexeme.word, taken]

/-- A numeral in front of a piece that separates itself. -/
theorem numeral {digits : String}
    (numeral : isNumeral digits = true) (apart : separates text = true)
    (later : ∀ token : Token, token.kind = .integer → token.literal = digits →
      Finds text fun tokens => good (token :: tokens)) :
    Finds (digits.toList ++ text) good := by
  rw [isNumeral, Bool.and_eq_true, Bool.not_eq_true', List.isEmpty_eq_false_iff,
    List.all_eq_true] at numeral
  rcases numeral with ⟨nonempty, all⟩
  refine lexeme (.verbatim .integer digits.toList) ?_ fun token isInteger literal =>
    later token isInteger (literal.trans String.ofList_toList)
  intro rest restApart
  change layoutLength false (digits.toList ++ (text ++ rest)) = 0 ∧
    Lexeme.first? (digits.toList ++ (text ++ rest)) = _
  have between := separates_append apart restApart
  rcases takeWhile_of_separates all
    (fun _ digit => isWordChar_of_isDigit digit) between with ⟨taken, dropped⟩
  have number : Lexeme.number (digits.toList ++ (text ++ rest)) =
      .verbatim .integer digits.toList := by
    rw [Lexeme.number, taken, dropped]
    split
    · rename_i equal
      rw [equal] at between
      cases between
    · rfl
  rcases List.exists_cons_of_ne_nil nonempty with ⟨char, others, equal⟩
  rw [equal, List.forall_mem_cons] at all
  rw [equal, List.cons_append] at number ⊢
  exact ⟨layoutLength_of_isWordChar (isWordChar_of_isDigit all.1) _, by
    rw [Lexeme.first?, Lexeme.isLetter_of_isDigit all.1, if_neg Bool.false_ne_true,
      if_pos all.1, number]⟩

/-- A symbol in front of a piece that does not go on with it. -/
theorem symbol {kind : Kind} {symbol : String}
    (known : kind.symbol? = some symbol) (apart : endsSymbol text = true)
    (later : ∀ token : Token, token.kind = kind → token.literal = symbol →
      Finds text fun tokens => good (token :: tokens)) :
    Finds (symbol.toList ++ text) good := by
  refine lexeme (.verbatim kind symbol.toList) ?_ fun token isKind literal =>
    later token isKind (literal.trans String.ofList_toList)
  intro rest restApart
  exact Lexeme.first?_symbol known (text ++ rest) fun char _ =>
    Kind.ofPair?_of_endsSymbol (endsSymbol_append apart restApart) char

/-- A symbol that no symbol of two characters begins with, in front of any piece. -/
theorem mark {char : Char} (kind : Kind)
    (known : kind.symbol? = some (String.ofList [char]))
    (single : ∀ next, Kind.ofPair? char next = none)
    (later : ∀ token : Token, token.kind = kind → Finds text fun tokens => good (token :: tokens)) :
    Finds (char :: text) good := by
  refine lexeme (.verbatim kind [char]) ?_ fun token isKind _ => later token isKind
  intro rest _
  have first := Lexeme.first?_symbol known (text ++ rest) fun other equal next _ => by
    cases String.ofList_injective equal
    exact single next
  rwa [String.toList_ofList] at first

/-- A quoted string in front of any piece. -/
theorem quoted (contents : String)
    (later : ∀ token : Token, token.kind = .string → token.literal = contents →
      Finds text fun tokens => good (token :: tokens)) :
    Finds ((quoteString contents).toList ++ text) good := by
  rw [quoteString, String.toList_ofList]
  refine lexeme ⟨.string, contents, '"' :: contents.toList.flatMap escapeChar ++ ['"']⟩ ?_ later
  intro rest _
  simp only [List.cons_append, List.append_assoc, List.nil_append]
  exact ⟨rfl, congrArg some (Lexeme.string_quoted contents (text ++ rest))⟩

end Finds

end Jet
