import Jet.Console
import Jet.Evaluation
import Jet.Grammar.Parser
import Jet.Host
import Jet.Log

/-!
# Sessions

A session runs one source text after another in the same root scope.  A text with problems is not
evaluated; an evaluation that fails gives an error value; neither ends the session.  What gets past
the session is an evaluation that has no result at all, and a text for which the host has no room;
and then too the session can go on.
-/

namespace Jet

/-- A session: its root scope, and the source texts it was given if it keeps them. -/
structure Session where
  root : Nat
  keepsHistory : Bool
  history : List String

/-- Why a source text has no outcome, or its outcome is not shown. -/
inductive Escape where
  | unreadableFloat (literal : String)
  | undefinedRemainder
  /-- The stack of the host was exhausted outside of an evaluation. -/
  | exhausted
deriving DecidableEq, Repr

/-- What is printed to show something, and what broke the printing off, if anything did. -/
structure Report where
  prints : List Print
  escape : Option Escape
deriving DecidableEq, Repr

namespace Report

/-- A report of some prints. -/
def done (prints : List Print) : Report :=
  ⟨prints, none⟩

/-- A report of one print, if there is room for putting its text together. -/
def ifRoom (hasRoom : Bool) (print : Print) : Report :=
  if hasRoom then done [print] else ⟨[], some .exhausted⟩

/-- One report behind another, unless that was broken off. -/
def andThen (first next : Report) : Report :=
  match first.escape with
  | none => ⟨first.prints ++ next.prints, next.escape⟩
  | some _ => first

end Report

/-- What became of one source text. -/
structure Execution where
  program : Program
  problems : List Problem
  /-- The result, unless there were problems. -/
  value : Option Value

namespace Execution

/-- Whether the text had problems. -/
def isParseError (execution : Execution) : Bool :=
  !execution.problems.isEmpty

/-- Whether the evaluation ended in an error. -/
def isRuntimeError (execution : Execution) : Bool :=
  match execution.value with
  | some (.error _) => true
  | _ => false

/-- Whether all went well. -/
def isOk (execution : Execution) : Bool :=
  !execution.isParseError && !execution.isRuntimeError

/-- Whether the result is not worth showing, because the text ends by introducing a name. -/
def isSilent (execution : Execution) : Bool :=
  match execution.program.statements.getLast? with
  | some statement => statement.isBinding
  | none => false

/-- The messages that report the problems. -/
def errors (execution : Execution) : List String :=
  execution.problems.map Problem.message

/-- What is logged about reading the text. -/
def parsingLog (execution : Execution) : List LogEntry :=
  execution.errors.map fun message => ⟨"jet.core.parser", .debug, "Parse error: " ++ message⟩

/-- What is logged about the execution. -/
def log (execution : Execution) : List LogEntry :=
  let skipping :=
    if execution.isParseError then
      [⟨"jet.repl", .debug,
        "Skipping evaluation: " ++ toString execution.problems.length ++ " parse error(s)"⟩]
    else []
  let running :=
    match execution.value with
    | some (.error .depthExceeded) =>
        [⟨"jet.repl", .warning, "Evaluation exceeded the interpreter recursion limit"⟩]
    | some (.error fault) =>
        [⟨"jet.core.evaluator", .debug, "Runtime error: " ++ fault.message⟩]
    | _ => []
  execution.parsingLog ++ skipping ++ running

/-- The canonical program, in front of what is reported if it is asked for. -/
def echo (execution : Execution) (room : Room) (echoes : Bool) : Report :=
  if echoes then .ifRoom (room.writes execution.program) (.muted execution.program.text)
  else .done []

/--
What is printed to show the execution: its problems, or else the canonical program if it is asked
for and then the result.  An error is shown in any case, another result unless it is silent.
-/
def report (execution : Execution) (room : Room) (echoes : Bool) : Report :=
  if execution.isParseError then .done (Print.problems execution.errors)
  else
    (execution.echo room echoes).andThen <|
      match execution.value with
      | some (.error fault) => .done [.failure (Value.error fault).display]
      | some value =>
          if execution.isSilent then .done [] else .ifRoom (room.shows value) (.value value.display)
      | none => .done []

end Execution

namespace Session

/-- A session whose root is a new scope of a store. -/
def start (keepsHistory : Bool) (store : Store) : Session × Store :=
  let (root, after) := store.openScope none
  (⟨root, keepsHistory, []⟩, after)

/-- Notes a source text in the history, if it is kept. -/
def note (session : Session) (source : String) : Session :=
  if session.keepsHistory then { session with history := session.history ++ [source] }
  else session

/-- What a session makes of the end of an evaluation: running out of calls is an error like others. -/
def answer : Except Halt Value → Except Escape Value
  | .ok value => .ok value
  | .error .depthExceeded => .ok (.error .depthExceeded)
  | .error .undefinedRemainder => .error .undefinedRemainder

/-- Evaluates a program in the root scope, within a limit of nested calls. -/
def evaluate (session : Session) (limit : Nat) (program : Program) (store : Store) :
    Except Escape Value × Store :=
  let ended := program.run session.root limit store
  (answer ended.1, ended.2)

/-- Reads a source text and, if it has no problems, evaluates it. -/
def execute (session : Session) (host : Host) (source : String) (store : Store) :
    Except Escape Execution × Session × Store :=
  let noted := session.note source
  if host.room.reads source then
    match parseSource source with
    | .error literal => (.error (.unreadableFloat literal), noted, store)
    | .ok ⟨program, []⟩ =>
        let evaluated := session.evaluate host.callLimit program store
        (evaluated.1.map fun value => ⟨program, [], some value⟩, noted, evaluated.2)
    | .ok ⟨program, problems⟩ => (.ok ⟨program, problems, none⟩, noted, store)
  else (.error .exhausted, noted, store)

end Session

end Jet
