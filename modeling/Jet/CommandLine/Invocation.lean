import Jet.Host

/-!
# Invocations

What the arguments of the tool ask for.  General options come first, then the name of a command,
then the options and arguments of the command.  A library takes the arguments apart; it is known here
only by what it makes of them.
-/

namespace Jet.CommandLine

/-- The commands by name. -/
inductive CommandName where
  | repl
  | run
  | lex
  | parse
deriving DecidableEq, Repr

/-- What the general part asks for; the arguments of the command are not looked at yet. -/
structure Invocation where
  config : Option String
  verbose : Bool
  command : CommandName
  arguments : List String
deriving DecidableEq, Repr

/-- What all arguments together ask for. -/
inductive Demand where
  | help
  | version
  | invoke (invocation : Invocation)
  /-- The path of the settings is one that no file can have. -/
  | unnameable
  /-- The arguments make no sense. -/
  | misuse
deriving DecidableEq, Repr

/-- A command with its arguments. -/
inductive Command where
  | help
  | repl (echoesProgram : Bool)
  | run (file : String)
  | lex (sources : List String)
  | parse (source : String)
deriving DecidableEq, Repr

/-- A reader of arguments. -/
structure ArgumentReader where
  /-- What all arguments together ask for. -/
  demand : List String → Demand
  /-- A command from its name and arguments; `none` if they make no sense. -/
  command? : CommandName → List String → Option Command
  /-- A summary of the arguments. -/
  usage : String

end Jet.CommandLine
