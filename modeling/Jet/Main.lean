import Jet.Terminal

/-!
# The command line tool

Reads what the tool needs from the outside and prints what it has to say.  An interaction reads its
lines one by one, so that each prompt is shown before its line is read.
-/

namespace Jet.CommandLine

/--
Looks at a path.  The code 21 tells a directory from a path that leads through a file, and the code
36, which may come with its sign turned, tells of a name that is too long.
-/
def lookAt (path : String) : IO FileState := do
  if Path.isUnnameable path then return .unnameable
  try
    let bytes ← IO.FS.readBinFile (Path.plain path)
    pure (.file (bytes.toList.map UInt8.toNat))
  catch
    | .inappropriateType _ code _ => pure (if code = 21 then .directory else .blocked)
    | .invalidArgument _ code _ => pure (if code = 36 || code = 0 - 36 then .overlong else .missing)
    | _ => pure .missing

/-- Prints an outcome and gives its exit code. -/
def finish (console : Console) (outcome : Outcome) : IO UInt32 := do
  IO.print (console.write outcome.output)
  IO.eprint (console.write outcome.errorOutput)
  if let some breakdown := outcome.breakdown then IO.eprintln breakdown.message
  pure outcome.exitCode.toUInt32

/-- Takes lines from the input, each behind the prompt, until the interaction ends. -/
partial def converse (platform : Platform) (threshold : Level) (settings : InteractionSettings)
    (shown : String) (interaction : Interaction) : IO Interaction := do
  let output ← IO.getStdout
  output.putStr shown
  output.flush
  let line ← (← IO.getStdin).getLine
  if line.isEmpty then pure interaction
  else
    let text := String.intercalate "\n" (Text.linesOf (Text.withPlainNewlines line))
    let next := { interaction with outputs := [], log := [] }.takeLine platform.host settings text
    IO.print (platform.console.write (next.outputs.map (Output.asking "")))
    IO.eprint (logLines threshold next.log)
    if next.left || next.escape.isSome then pure next
    else converse platform threshold settings shown next

/-- Holds an interaction with whoever is at the input. -/
def interactLive (platform : Platform) (threshold : Level) (settings : InteractionSettings) :
    IO UInt32 := do
  match platform.console.asked settings.prompt with
  | .error _ => finish platform.console (interact platform threshold settings [])
  | .ok shown =>
      IO.print (platform.console.write greeting)
      IO.eprint (logLines threshold [Interaction.startEntry])
      let start := Interaction.initial ⟨rootScope, settings.keepsHistory, []⟩ .initial
      let final ← converse platform threshold settings shown start
      match final.escape with
      | some cause => finish platform.console (.broken (.escape cause))
      | none =>
          IO.eprint (logLines threshold [final.endEntry])
          pure 0

/-- Carries an invocation out, given its settings. -/
def carryOut (platform : Platform) (invocation : Invocation) (settings : Settings) :
    IO UInt32 := do
  match platform.arguments.command? invocation.command invocation.arguments with
  | some (.repl echoesProgram) =>
      interactLive platform (invocation.threshold settings)
        (settings.interaction.echoing echoesProgram)
  | some (.run file) =>
      let state ← lookAt file
      finish platform.console (invocation.perform platform settings "" fun _ => state)
  | _ => finish platform.console (invocation.perform platform settings "" fun _ => .missing)

end Jet.CommandLine

open Jet.CommandLine in
/-- The entry point of the tool. -/
def main (arguments : List String) : IO UInt32 := do
  let platform := Jet.Terminal.platform
  let directory := (← IO.currentDir).toString
  match platform.arguments.demand arguments with
  | .invoke invocation =>
      let (path, _) := Jet.Settings.candidate invocation.config directory
      let state ← lookAt path
      match Jet.Settings.resolve platform.documents invocation.config directory fun _ => state with
      | .ok settings => carryOut platform invocation settings
      | .error _ =>
          finish platform.console (perform platform arguments "" directory fun _ => state)
  | _ => finish platform.console (perform platform arguments "" directory fun _ => .missing)
