import Jet.Markup.Color
import Jet.Text.Blank

/-!
# Styles

The style that the name of a tag describes, and the canonical text of a style.  Two tags have the
same style if the canonical texts are the same.
-/

namespace Jet.Markup

/-- What can be turned on or off in a style. -/
inductive Feature where
  | bold
  | dim
  | italic
  | underline
  | blink
  | blink2
  | reverse
  | conceal
  | strike
  | underline2
  | frame
  | encircle
  | overline
deriving DecidableEq, Repr

namespace Feature

/-- Every feature, in the order of canonical texts. -/
def all : List Feature :=
  [bold, dim, italic, underline, blink, blink2, reverse, conceal, strike, underline2, frame,
    encircle, overline]

/-- The name of a feature. -/
def name : Feature → String
  | bold => "bold"
  | dim => "dim"
  | italic => "italic"
  | underline => "underline"
  | blink => "blink"
  | blink2 => "blink2"
  | reverse => "reverse"
  | conceal => "conceal"
  | strike => "strike"
  | underline2 => "underline2"
  | frame => "frame"
  | encircle => "encircle"
  | overline => "overline"

/-- The short words for features. -/
def shortNames : List (String × Feature) :=
  [("b", bold), ("d", dim), ("i", italic), ("u", underline), ("r", reverse), ("c", conceal),
    ("s", strike), ("uu", underline2), ("o", overline)]

/-- The feature that a word stands for. -/
def ofWord? (word : String) : Option Feature :=
  (all.find? fun feature => feature.name == word).or (shortNames.lookup word)

end Feature

/-- A style: what it turns on or off, the last mention first, and its colours and target. -/
structure Style where
  features : List (Feature × Bool)
  color : Option String
  background : Option String
  link : Option String
deriving DecidableEq, Repr

namespace Style

/-- The style that changes nothing. -/
def plain : Style :=
  ⟨[], none, none, none⟩

/-- Turns a feature on or off. -/
def turn (style : Style) (feature : Feature) (on : Bool) : Style :=
  { style with features := (feature, on) :: style.features }

/-- Adds what some words describe to a style. -/
def addWords : Style → List String → Except StyleFault Style
  | style, [] => .ok style
  | style, word :: rest =>
      match Text.lower word, rest with
      | "on", [] => .error .noStyle
      | "on", colorWord :: rest =>
          match Markup.color colorWord with
          | .ok background => addWords { style with background := some background } rest
          | .error fault => .error fault
      | "not", [] => .error .noStyle
      | "not", featureWord :: rest =>
          match Feature.ofWord? featureWord with
          | some feature => addWords (style.turn feature false) rest
          | none => .error .noStyle
      | "link", [] => .error .noStyle
      | "link", target :: rest => addWords { style with link := some target } rest
      | lowered, rest =>
          match Feature.ofWord? lowered with
          | some feature => addWords (style.turn feature true) rest
          | none =>
              match Markup.color lowered with
              | .ok color => addWords { style with color := some color } rest
              | .error fault => .error fault

/-- The style that a text describes. -/
def ofText (text : String) : Except StyleFault Style :=
  if Text.strip text = "none" then .ok plain else plain.addWords (Text.words text)

/-- The words of the canonical text. -/
def canonicalWords (style : Style) : List String :=
  let featureWords := Feature.all.flatMap fun feature =>
    match style.features.lookup feature with
    | some true => [feature.name]
    | some false => ["not", feature.name]
    | none => []
  featureWords ++ style.color.toList ++ (style.background.map fun name => ["on", name]).getD [] ++
    (style.link.map fun target => ["link", target]).getD []

/-- The canonical text of a style. -/
def text (style : Style) : String :=
  match style.canonicalWords with
  | [] => "none"
  | words => String.intercalate " " words

end Style

/-- The canonical name of a tag: that of its style, else its own name in lower case. -/
def canonicalName (name : String) : Except StyleFault String :=
  match Style.ofText name with
  | .ok style => .ok style.text
  | .error .noStyle => .ok (Text.lower (Text.strip name))
  | .error fault => .error fault

end Jet.Markup
