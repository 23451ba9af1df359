import Jet.CommandLine.Options
import Jet.CommandLine.Outcome
import Jet.Markup
import Jet.Terminal.Host
import Jet.Toml.Document

/-!
# A plain terminal

A platform for the tool: a terminal without colours that is as wide as any text, with the readers of
arguments and of documents that belong to this library.
-/

namespace Jet.Terminal

/-- What is wrong with the markup of a prompt, as a failure of the library that reads it. -/
def markupFault (fault : Markup.Fault) : LibraryFault :=
  match fault with
  | .noNumber _ => ⟨"ValueError", fault.message⟩
  | _ => ⟨"MarkupError", fault.message⟩

/-- The console.  Names of emoji are replaced in prompts. -/
def console : Console where
  printed print := shown print.text ++ "\n"
  prompted text := shown (String.ofList (Emoji.replace text.toList))
  asked text :=
    match Markup.render text with
    | .ok rendered => .ok (shown rendered)
    | .error fault => .error (markupFault fault)

/-- The platform. -/
def platform : CommandLine.Platform :=
  ⟨host, console, .ofOptions, Toml.parse⟩

end Jet.Terminal
