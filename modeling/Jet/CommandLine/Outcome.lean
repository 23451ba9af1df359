import Jet.CommandLine.Invocation
import Jet.Settings

/-!
# Outcomes

What the tool does with its arguments: what it gives out on both output streams, and the exit code.
What runs the tool is a `Platform`: a host, a console, and readers of arguments and of documents.
-/

namespace Jet.CommandLine

/-- What the tool is run by. -/
structure Platform where
  host : Host
  console : Console
  arguments : ArgumentReader
  documents : Toml.Reader

/-- What the tool leaves behind. -/
structure Outcome where
  exitCode : Nat
  output : List Output
  errorOutput : List Output
  /-- Why the tool broke off, if it did. -/
  breakdown : Option Breakdown
deriving DecidableEq, Repr

/-- The version of the tool. -/
def version : String := "0.3.0"

/-- The exit code for arguments that make no sense. -/
def misuseCode : Nat := 2

/-- What is given out of a log from a level on. -/
def logged (threshold : Level) (entries : List LogEntry) : List Output :=
  [.verbatim (logLines threshold entries)]

namespace Outcome

/-- An end with an exit code and nothing printed. -/
def silent (exitCode : Nat) : Outcome :=
  ⟨exitCode, [], [], none⟩

/-- An end with a diagnostic. -/
def failed (diagnostic : Diagnostic) : Outcome :=
  ⟨1, [], [.print (.complaint diagnostic.text)], none⟩

/-- A normal end that gives something out. -/
def done (output : List Output) : Outcome :=
  ⟨0, output, [], none⟩

/-- An end without a report. -/
def broken (breakdown : Breakdown) : Outcome :=
  ⟨1, [], [], some breakdown⟩

/-- An end with a report, and with an exit code unless the report was broken off. -/
def reported (exitCode : Nat) (report : Report) (log : List Output) : Outcome :=
  ⟨if report.escape.isSome then 1 else exitCode, report.prints.map .print, log,
    report.escape.map .escape⟩

end Outcome

/-- The diagnostic for a program file that cannot be read. -/
def sourceDiagnostic (file : String) (failure : ReadFailure) : Diagnostic :=
  .ofFile file
    (match failure with
    | .missing => "file not found"
    | .undecodable _ => "file is not valid UTF-8"
    | other => "cannot read file: " ++ other.wording)

/-- Runs a program: its result is shown unless it is null. -/
def runProgram (host : Host) (threshold : Level) (source : String) : Outcome :=
  match (Session.mk rootScope false []).execute host source .initial with
  | (.error cause, _, _) => .broken (.escape cause)
  | (.ok execution, _, _) =>
      let isNull :=
        match execution.value with
        | some .null => true
        | _ => false
      let report :=
        if execution.isOk && isNull then .done [] else execution.report host.room false
      .reported (if execution.isOk then 0 else 1) report (logged threshold execution.log)

/-- Runs a program file. -/
def runFile (host : Host) (threshold : Level) (file : String) (state : FileState) : Outcome :=
  match state.readText with
  | .ok source => runProgram host threshold source
  | .error .unnameable => .broken .unnameable
  | .error failure => .failed (sourceDiagnostic file failure)

/-- Lists the tokens of some texts, which are the lines of one source. -/
def listTokens (sources : List String) : Outcome :=
  .done ((tokenize (String.intercalate "\n" sources)).map fun token =>
    .print (.plain token.listing))

/-- Shows the canonical text of a program, or its problems. -/
def showProgram (host : Host) (threshold : Level) (source : String) : Outcome :=
  if host.room.reads source then
    match parseSource source with
    | .error literal => .broken (.escape (.unreadableFloat literal))
    | .ok reading =>
        let execution : Execution := ⟨reading.program, reading.problems, none⟩
        if execution.isParseError then
          .reported 1 (execution.report host.room false) (logged threshold execution.parsingLog)
        else
          .reported 0
            (.ifRoom (host.room.writes reading.program) (.value reading.program.text)) []
  else .broken (.escape .exhausted)

/-- The lines that open an interaction. -/
def greeting : List Output :=
  (Print.header ("Jet " ++ version) "Type exit or press Ctrl-D to leave.").map .print

/--
Holds an interaction over some lines.  The prompt is one with which lines are asked for; it is also
given out in front of their end.
-/
def interact (platform : Platform) (threshold : Level) (settings : InteractionSettings)
    (lines : List String) : Outcome :=
  let start := Interaction.initial (Session.mk rootScope settings.keepsHistory []) .initial
  match platform.console.asked settings.prompt with
  | .error fault =>
      ⟨1, greeting, logged threshold [Interaction.startEntry], some (.library fault)⟩
  | .ok shown =>
      let final := start.takeLines platform.host settings lines
      let closing := if final.left || final.escape.isSome then [] else [.verbatim shown]
      ⟨if final.escape.isSome then 1 else 0,
        greeting ++ final.outputs.map (Output.asking shown) ++ closing,
        logged threshold final.fullLog, final.escape.map Breakdown.escape⟩

/-- Carries a command out. -/
def Command.perform (platform : Platform) (command : Command) (threshold : Level)
    (settings : Settings) (input : String) (look : String → FileState) : Outcome :=
  match command with
  | help => .done [.verbatim platform.arguments.usage]
  | repl echoesProgram =>
      interact platform threshold (settings.interaction.echoing echoesProgram)
        (Text.linesOf (Text.withPlainNewlines input))
  | run file => runFile platform.host threshold file (look file)
  | lex sources => listTokens sources
  | parse source => showProgram platform.host threshold source

/-- The least level of the log that an invocation shows. -/
def Invocation.threshold (invocation : Invocation) (settings : Settings) : Level :=
  if invocation.verbose then .debug else settings.level

/-- What an invocation does, given its settings. -/
def Invocation.perform (platform : Platform) (invocation : Invocation) (settings : Settings)
    (input : String) (look : String → FileState) : Outcome :=
  match platform.arguments.command? invocation.command invocation.arguments with
  | none => .silent misuseCode
  | some command =>
      command.perform platform (invocation.threshold settings) settings input look

/--
What the tool does, given its arguments, its standard input, the working directory and a view of the
files.  The settings are read before the arguments of the command are looked at.
-/
def perform (platform : Platform) (arguments : List String) (input directory : String)
    (look : String → FileState) : Outcome :=
  match platform.arguments.demand arguments with
  | .misuse => .silent misuseCode
  | .help => .done [.verbatim platform.arguments.usage]
  | .version => .done [.verbatim ("Jet version " ++ version ++ "\n")]
  | .unnameable => .broken .unnameable
  | .invoke invocation =>
      match Settings.resolve platform.documents invocation.config directory look with
      | .error (.reported diagnostic) => .failed diagnostic
      | .error (.broken breakdown) => .broken breakdown
      | .ok settings => invocation.perform platform settings input look

end Jet.CommandLine
