import Jet.CommandLine.Invocation
import Jet.Path

/-!
# Options

Taking options off a list of arguments.  An option has a long form of two dashes and may have a
short form of one; short forms can be joined behind one dash, and an option that takes a value takes
the rest of its argument or else the next argument, whatever that looks like.  Two dashes alone end
the options.

What is left of the arguments goes by their places: first the name of a command, then what the
command takes.
-/

namespace Jet.CommandLine

/-- An option that can be given. -/
structure OptionSpec where
  long : String
  short : Option Char
  takesValue : Bool
deriving DecidableEq, Repr

/-- An option that was given, by its long form. -/
structure GivenOption where
  long : String
  value : Option String
deriving DecidableEq, Repr

/-- The options that were given, in order, and the other arguments. -/
structure Arguments where
  options : List GivenOption
  positional : List String
deriving DecidableEq, Repr

namespace Arguments

/-- Whether an option was given. -/
def has (arguments : Arguments) (long : String) : Bool :=
  arguments.options.any fun option => option.long == long

/-- The value of an option, the last one if it was given more than once. -/
def value? (arguments : Arguments) (long : String) : Option String :=
  (arguments.options.reverse.find? fun option => option.long == long).bind GivenOption.value

end Arguments

/-- The options joined behind one dash, and the arguments that are left; `none` on misuse. -/
def shortOptions? (specs : List OptionSpec) :
    List Char → List String → Option (List GivenOption × List String)
  | [], rest => some ([], rest)
  | char :: chars, rest =>
      match specs.find? fun spec => spec.short == some char with
      | none => none
      | some spec =>
          if spec.takesValue then
            match chars, rest with
            | [], [] => none
            | [], value :: rest => some ([⟨spec.long, some value⟩], rest)
            | chars, rest => some ([⟨spec.long, some (String.ofList chars)⟩], rest)
          else
            (shortOptions? specs chars rest).map fun (options, rest) =>
              (⟨spec.long, none⟩ :: options, rest)

/-- The text in front of the first equals sign, and the text behind it if there is one. -/
def splitValue (text : List Char) : String × Option String :=
  let name := String.ofList (text.takeWhile (· != '='))
  match text.dropWhile (· != '=') with
  | [] => (name, none)
  | _ :: value => (name, some (String.ofList value))

/-- The option of two dashes, and the arguments that are left; `none` on misuse. -/
def longOption? (specs : List OptionSpec) (text : List Char) (rest : List String) :
    Option (GivenOption × List String) :=
  let (name, value) := splitValue text
  match specs.find? fun spec => spec.long == name with
  | none => none
  | some spec =>
      match spec.takesValue, value, rest with
      | false, none, rest => some (⟨name, none⟩, rest)
      | false, some _, _ => none
      | true, some value, rest => some (⟨name, some value⟩, rest)
      | true, none, value :: rest => some (⟨name, some value⟩, rest)
      | true, none, [] => none

/--
Takes the options off some arguments; `none` on misuse.  Options may stand between and behind other
arguments if `mixed` says so, else they end at the first other argument.  The fuel bounds the number
of arguments.
-/
def take? (specs : List OptionSpec) (mixed : Bool) : Nat → List String → Option Arguments
  | 0, arguments => some ⟨[], arguments⟩
  | _, [] => some ⟨[], []⟩
  | fuel + 1, argument :: rest =>
      match argument.toList with
      | ['-', '-'] => some ⟨[], rest⟩
      | '-' :: '-' :: _ =>
          match longOption? specs argument.toList rest with
          | none => none
          | some (option, rest) =>
              (take? specs mixed fuel rest).map fun arguments =>
                { arguments with options := option :: arguments.options }
      | '-' :: char :: chars =>
          match shortOptions? specs (char :: chars) rest with
          | none => none
          | some (options, rest) =>
              (take? specs mixed fuel rest).map fun arguments =>
                { arguments with options := options ++ arguments.options }
      | _ =>
          if mixed then
            (take? specs mixed fuel rest).map fun arguments =>
              { arguments with positional := argument :: arguments.positional }
          else some ⟨[], argument :: rest⟩

/-- The options and other arguments in a list; `none` on misuse. -/
def read? (specs : List OptionSpec) (mixed : Bool) (arguments : List String) : Option Arguments :=
  take? specs mixed arguments.length arguments

/-! ## The arguments of the tool -/

/-- The command of a name. -/
def CommandName.ofText? : String → Option CommandName
  | "repl" => some repl
  | "run" => some run
  | "lex" => some lex
  | "parse" => some parse
  | _ => none

/-- The option that every part has. -/
def helpOption : OptionSpec := ⟨"--help", none, false⟩

/-- The general options. -/
def generalOptions : List OptionSpec :=
  [⟨"--config", some 'c', true⟩, ⟨"--verbose", some 'v', false⟩, ⟨"--version", none, false⟩,
    helpOption]

/-- What the options that end the work at once ask for, the first one given winning. -/
def immediate? (arguments : Arguments) : Option Demand :=
  arguments.options.findSome? fun option =>
    if option.long = "--version" then some .version
    else if option.long = "--help" then some .help
    else none

/-- What the general options ask for together with the name and the arguments of a command. -/
def Demand.ofGeneral (general : Arguments) : Demand :=
  let config := general.value? "--config"
  if config.any Path.isUnnameable then unnameable
  else
    match general.positional with
    | [] => misuse
    | name :: rest =>
        match CommandName.ofText? name with
        | none => misuse
        | some command => invoke ⟨config, general.has "--verbose", command, rest⟩

/-- What the arguments of the tool ask for. -/
def Demand.ofArguments (arguments : List String) : Demand :=
  if arguments.isEmpty then misuse
  else
    match read? generalOptions false arguments with
    | none => misuse
    | some general => (immediate? general).getD (ofGeneral general)

/-- The options of a command. -/
def CommandName.options : CommandName → List OptionSpec
  | repl => [⟨"--echo-ast", none, false⟩, helpOption]
  | _ => [helpOption]

/--
A command from its name and arguments; `none` on misuse.  A file that cannot be named is noticed
before the arguments behind it are counted.
-/
def Command.ofArguments? (name : CommandName) (arguments : List String) : Option Command :=
  match read? name.options true arguments with
  | none => none
  | some taken =>
      if taken.has "--help" then some help
      else
        match name, taken.positional with
        | .repl, [] => some (repl (taken.has "--echo-ast"))
        | .run, file :: others =>
            if others.isEmpty || Path.isUnnameable file then some (run file) else none
        | .lex, source :: sources => some (lex (source :: sources))
        | .parse, [source] => some (parse source)
        | _, _ => none

/-- A summary of the arguments. -/
def summary : String :=
  "Usage: jet [--config PATH] [--verbose] [--version] COMMAND\n\n" ++
    "  repl [--echo-ast]  interactive session\n" ++
    "  run FILE           evaluate a program file\n" ++
    "  lex SOURCE...      print the token stream\n" ++
    "  parse SOURCE       print the canonical program or parser errors\n"

/-- The reader of arguments that goes by these options. -/
def ArgumentReader.ofOptions : ArgumentReader :=
  ⟨Demand.ofArguments, Command.ofArguments?, summary⟩

end Jet.CommandLine
