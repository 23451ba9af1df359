import Jet.Emoji
import Jet.Markup.Argument
import Jet.Markup.Style
import Jet.Terminal.Text
import Jet.Text.Quoted

/-!
# Console markup

A prompt from the settings may hold style tags in square brackets, which a plain console leaves out.
A tag begins with a lower-case letter or one of `#`, `/` and `@`; brackets around anything else are
text.  A backslash in front of a bracket takes its meaning away.  A tag that begins with a slash
closes the last open tag, or the last one of its style, and there must be one.  Emoji codes are
replaced in each stretch of text between tags.
-/

namespace Jet.Markup

/-- What is wrong with a text with markup. -/
inductive Fault where
  /-- A tag closes a style that is not open. -/
  | notOpen (tag : String) (position : Nat)
  /-- A tag closes the last open tag, but none is open. -/
  | nothingOpen (position : Nat)
  /-- The tag of an action is closed, and its argument cannot be given to the action. -/
  | badArgument (given argument : String) (complaint : Argument.Complaint)
  /-- A share of a colour is not a number at all. -/
  | noNumber (text : String)
deriving DecidableEq, Repr

/-- The message of a fault. -/
def Fault.message : Fault → String
  | notOpen tag position =>
      "closing tag '[" ++ tag ++ "]' at position " ++ toString position ++
        " doesn't match any open tag"
  | nothingOpen position =>
      "closing tag '[/]' at position " ++ toString position ++ " has nothing to close"
  | badArgument given argument complaint =>
      let place :=
        if complaint.isAboutForm then Text.quoted given ++ " in " ++ Text.quoted argument
        else Text.quoted argument
      "error parsing " ++ place ++ "; " ++ complaint.message
  | noNumber text =>
      if digitLimit < text.length then tooManyDigitsMessage text.length
      else "invalid literal for int() with base 10: " ++ Text.quoted text

/-! ## Pieces -/

/-- A part of a text with markup; a tag is given by its place and what is between its brackets. -/
inductive Piece where
  | plain (text : List Char)
  | tag (position : Nat) (inner : List Char)
deriving DecidableEq, Repr

/-- A character that a tag may begin with. -/
def startsTag (char : Char) : Bool :=
  ('a' ≤ char && char ≤ 'z') || char == '#' || char == '/' || char == '@'

/-- The tag whose opening bracket was just read, and what follows its closing bracket. -/
def tagAt? (chars : List Char) : Option (List Char × List Char) :=
  let inner := chars.takeWhile fun char => char != '[' && char != ']'
  match inner, chars.drop inner.length with
  | first :: _, ']' :: rest => if startsTag first then some (inner, rest) else none
  | _, _ => none

/-- Takes away the backslash in front of each opening bracket. -/
def unescape : List Char → List Char
  | [] => []
  | '\\' :: '[' :: rest => '[' :: unescape rest
  | char :: rest => char :: unescape rest

/-- The pieces for a tag behind a number of backslashes, of which every second one stays. -/
def tagPieces (position backslashes : Nat) (inner : List Char) : List Piece :=
  let slashes := List.replicate (backslashes / 2) '\\'
  if backslashes % 2 = 1 then [.plain (slashes ++ '[' :: inner ++ [']'])]
  else [.plain slashes, .tag (position + backslashes) inner]

/--
The pieces of a text from a position on, given the plain text in front in reverse; the fuel bounds
its length.
-/
def pieces : Nat → Nat → List Char → List Char → List Piece
  | 0, _, seen, chars => [.plain (unescape (seen.reverse ++ chars))]
  | _, _, seen, [] => [.plain (unescape seen.reverse)]
  | fuel + 1, position, seen, char :: rest =>
      let slashes := (char :: rest).takeWhile (· == '\\')
      match (char :: rest).drop slashes.length with
      | '[' :: behind =>
          match tagAt? behind with
          | some (inner, rest) =>
              .plain (unescape seen.reverse) :: tagPieces position slashes.length inner ++
                pieces fuel (position + slashes.length + inner.length + 2) [] rest
          | none =>
              pieces fuel (position + slashes.length + 1) ('[' :: slashes ++ seen) behind
      | _ => pieces fuel (position + 1) (char :: seen) rest

/-! ## Tags -/

/--
A tag that is open: its canonical name, its argument if it has one, and where its text begins.
-/
structure OpenTag where
  name : String
  argument : Option String
  start : Nat
deriving DecidableEq, Repr

/-- The text that describes the style of a tag. -/
def OpenTag.styleText (tag : OpenTag) : String :=
  match tag.argument with
  | none => tag.name
  | some argument => tag.name ++ " " ++ argument

/-- A stretch of the printed text, and the text that describes its style. -/
structure Span where
  start : Nat
  stop : Nat
  style : String
deriving DecidableEq, Repr

/--
The tags that are open, the last one first, the spans of those that were closed, the last one first,
and the number of characters that are printed in front.
-/
structure State where
  opened : List OpenTag
  spans : List Span
  position : Nat

namespace State

/-- Before the first piece. -/
def initial : State :=
  ⟨[], [], 0⟩

/-- Adds the span of a tag up to here. -/
def addSpan (state : State) (tag : OpenTag) : State :=
  { state with spans := ⟨tag.start, state.position, tag.styleText⟩ :: state.spans }

/-- Goes on behind a text. -/
def behind (state : State) (text : List Char) : State :=
  { state with position := state.position + text.countP fun char => !Terminal.isDropped char }

end State

/-- The canonical name of a tag, or what is wrong with it. -/
def nameOf (name : List Char) : Except Fault String :=
  match canonicalName (String.ofList name) with
  | .ok canonical => .ok canonical
  | .error (.noNumber text) => .error (.noNumber text)
  | .error .noStyle => .ok (String.ofList name)

/-- Closes a tag for good: that of an action needs a proper argument. -/
def close (tag : OpenTag) (state : State) : Except Fault State :=
  if tag.name.toList.head? = some '@' then
    match tag.argument with
    | none => .ok state
    | some "" => .ok state
    | some argument =>
        let given := Argument.given (Text.strip argument).toList
        match Argument.complaint? given with
        | none => .ok state
        | some complaint => .error (.badArgument (String.ofList given) argument complaint)
  else .ok (state.addSpan tag)

/-- Takes a tag. -/
def takeTag (position : Nat) (inner : List Char) (state : State) : Except Fault State := do
  let name := inner.takeWhile (· != '=')
  let argument := (inner.drop name.length).tail
  match name with
  | '/' :: closed =>
      if (Text.stripChars Text.isSpace closed).isEmpty then
        match state.opened with
        | [] => throw (.nothingOpen position)
        | tag :: rest => close tag { state with opened := rest }
      else
        let canonical ← nameOf (Text.stripChars Text.isSpace closed)
        match state.opened.find? fun tag => tag.name == canonical with
        | none => throw (.notOpen (String.ofList inner) position)
        | some tag => close tag { state with opened := state.opened.erase tag }
  | name =>
      let given := if name.length < inner.length then some (String.ofList argument) else none
      pure { state with opened := ⟨← nameOf name, given, state.position⟩ :: state.opened }

/-- The plain text of some pieces, and the state behind them. -/
def plainText : State → List Piece → Except Fault (List Char × State)
  | state, [] => .ok ([], state)
  | state, .plain text :: rest => do
      let text := Emoji.replace text
      let (behind, state) ← plainText (state.behind text) rest
      pure (text ++ behind, state)
  | state, .tag position inner :: rest => do
      plainText (← takeTag position inner state) rest

/-! ## Styles of stretches -/

/--
Whether the style of a span matters for a printed text.  A text that has to be taken apart, because
it has several lines or tabs, keeps a span only on characters other than line ends.
-/
def Span.matters (span : Span) (printed : List Char) : Bool :=
  if printed.contains '\n' || printed.contains '\t' then
    ((printed.take span.stop).drop span.start).any (· != '\n')
  else true

/-- Looks at the styles of spans, which must not have a share of a colour that is no number. -/
def checkStyles : List Span → Except Fault Unit
  | [] => .ok ()
  | span :: rest =>
      match Style.ofText span.style with
      | .error (.noNumber text) => .error (.noNumber text)
      | _ => checkStyles rest

/-- The spans of a text, those of tags that are still open included, by where they begin. -/
def State.allSpans (state : State) : List Span :=
  let final := state.opened.foldl State.addSpan state
  final.spans.mergeSort fun left right => left.start ≤ right.start

/-- What a plain console shows of a text with markup. -/
def render (text : String) : Except Fault String := do
  let (plain, state) ← plainText .initial (pieces (text.length + 1) 0 [] text.toList)
  let printed := plain.filter fun char => !Terminal.isDropped char
  checkStyles (state.allSpans.filter fun span => span.matters printed)
  pure (String.ofList plain)

end Jet.Markup
