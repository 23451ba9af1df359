import Jet.Session
import Jet.Text.Blank

/-!
# Interaction

The read, evaluate and print loop: lines are taken one by one behind a prompt and executed in a
session until they end or one of them asks to leave.  Blank lines are passed over.
-/

namespace Jet

/-- How the loop behaves. -/
structure InteractionSettings where
  /-- What is shown in front of each line. -/
  prompt : String
  /-- Whether the canonical program is shown in front of each result. -/
  echoesProgram : Bool
  keepsHistory : Bool
deriving DecidableEq, Repr

/-- The settings with the canonical program shown in any case, if that is asked for. -/
def InteractionSettings.echoing (settings : InteractionSettings) (asked : Bool) :
    InteractionSettings :=
  { settings with echoesProgram := asked || settings.echoesProgram }

/-- What a line of input asks for. -/
inductive Request where
  | nothing
  | leave
  | execute
deriving DecidableEq, Repr

/-- What a line asks for, going by its text without white space at the ends. -/
def Request.ofLine (line : String) : Request :=
  match Text.strip line with
  | "" => nothing
  | "exit" => leave
  | "quit" => leave
  | _ => execute

/-- The state that the loop leaves, and what it gave out and logged. -/
structure Interaction where
  outputs : List Output
  log : List LogEntry
  session : Session
  store : Store
  /-- Why the loop was broken off, if it was. -/
  escape : Option Escape
  /-- Whether a line asked to leave. -/
  left : Bool

namespace Interaction

/-- Before the first line. -/
def initial (session : Session) (store : Store) : Interaction :=
  ⟨[], [], session, store, none, false⟩

/-- Gives something out behind what was given out. -/
def give (interaction : Interaction) (outputs : List Output) : Interaction :=
  { interaction with outputs := interaction.outputs ++ outputs }

/-- Takes one line. -/
def takeLine (host : Host) (settings : InteractionSettings) (interaction : Interaction)
    (line : String) : Interaction :=
  let prompted := interaction.give [.prompt settings.prompt]
  match Request.ofLine line with
  | .nothing => prompted
  | .leave => { prompted with left := true }
  | .execute =>
      match interaction.session.execute host line interaction.store with
      | (.ok execution, session, store) =>
          let report := execution.report host.room settings.echoesProgram
          { prompted.give (report.prints.map .print) with
            log := prompted.log ++ execution.log
            session := session
            store := store
            escape := report.escape }
      | (.error escape, session, store) =>
          { prompted with session := session, store := store, escape := some escape }

/-- Takes lines until they end, one asks to leave, or the loop is broken off. -/
def takeLines (host : Host) (settings : InteractionSettings) :
    Interaction → List String → Interaction
  | interaction, [] => interaction
  | interaction, line :: rest =>
      let next := interaction.takeLine host settings line
      if next.left || next.escape.isSome then next else takeLines host settings next rest

/-- Holds a whole loop over lines that are at hand. -/
def hold (host : Host) (settings : InteractionSettings) (session : Session) (store : Store)
    (lines : List String) : Interaction :=
  (initial session store).takeLines host settings lines

/-- What is logged when the loop starts. -/
def startEntry : LogEntry :=
  ⟨"jet.repl", .debug, "REPL session started"⟩

/-- What is logged when the loop ends of its own accord. -/
def endEntry (interaction : Interaction) : LogEntry :=
  ⟨"jet.repl", .debug,
    "REPL session ended after " ++ toString interaction.session.history.length ++ " input(s)"⟩

/-- All that is logged about a loop: its start, its executions, and its end unless broken off. -/
def fullLog (interaction : Interaction) : List LogEntry :=
  startEntry :: interaction.log ++
    if interaction.escape.isSome then [] else [interaction.endEntry]

end Interaction

end Jet
