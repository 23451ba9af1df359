import Jet.Breakdown
import Jet.Diagnostic
import Jet.Disk
import Jet.Interaction
import Jet.Text.Upper
import Jet.Toml.Value

/-!
# Settings

The settings of the command line tool: four values in two tables of a TOML document, each with a
default.  Everything else in the document is passed over.  The document is looked for at a path that
was given, else in the working directory, where it may be missing.  It is read by a `Toml.Reader`.
-/

namespace Jet

/-- All settings. -/
structure Settings where
  interaction : InteractionSettings
  level : Level
  /-- The file that they come from, if any. -/
  source : Option String
deriving DecidableEq, Repr

namespace Settings

/-- The settings without any file. -/
def default : Settings :=
  ⟨⟨">> ", false, true⟩, .warning, none⟩

/-- The name of the file in the working directory. -/
def fileName : String := "jet.toml"

end Settings

/-- What is wrong with the contents of a settings file. -/
inductive SettingsFault where
  | invalidDocument (violation : Toml.Violation)
  | notTable (name : String)
  | wrongType (key expected actual : String)
  | unknownLevel (level : String)
deriving DecidableEq, Repr

/-- The message of a fault. -/
def SettingsFault.message : SettingsFault → String
  | invalidDocument violation => "invalid TOML: " ++ violation.message
  | notTable name => "[" ++ name ++ "] must be a table"
  | wrongType key expected actual =>
      "'" ++ key ++ "' must be a " ++ expected ++ ", got " ++ actual
  | unknownLevel level =>
      "'level' must be one of " ++ String.intercalate ", " (Level.all.map Level.name) ++ ", got " ++
        Text.quoted level

/-- The place in a file that a fault is about: the whole file, unless the reader told more. -/
def SettingsFault.location (path : String) : SettingsFault → Location
  | invalidDocument violation => ⟨path, violation.line, violation.column⟩
  | _ => ⟨path, none, none⟩

/-- A fault as it is reported. -/
def SettingsFault.diagnostic (path : String) (fault : SettingsFault) : Diagnostic :=
  ⟨fault.message, some (fault.location path)⟩

namespace Settings

/-- A table of the document; a missing one is empty. -/
def tableOf (document : Toml.Table) (name : String) : Except SettingsFault Toml.Table :=
  match document.get? name with
  | none => .ok []
  | some (.table entries) => .ok entries
  | some _ => .error (.notTable name)

/--
A value in a table, of the type that has a name and whose values are taken out; a missing one is the
default one.
-/
def typedOf {α : Type} (typeName : String) (take? : Toml.Value → Option α) (table : Toml.Table)
    (key : String) (default : α) : Except SettingsFault α :=
  match table.get? key with
  | none => .ok default
  | some value =>
      match take? value with
      | some content => .ok content
      | none => .error (.wrongType key typeName value.typeName)

/-- A text in a table. -/
def textOf : Toml.Table → String → String → Except SettingsFault String :=
  typedOf "str" Toml.Value.text?

/-- A truth value in a table. -/
def flagOf : Toml.Table → String → Bool → Except SettingsFault Bool :=
  typedOf "bool" Toml.Value.flag?

/-- The level in a table, in any case of letters. -/
def levelOf (table : Toml.Table) : Except SettingsFault Level := do
  let name := Text.upper (← textOf table "level" Settings.default.level.name)
  match Level.ofName? name with
  | some level => pure level
  | none => throw (.unknownLevel name)

/-- The settings of a document, or the first thing that is wrong with them. -/
def ofDocument (source : String) (document : Toml.Table) : Except SettingsFault Settings := do
  let interaction ← tableOf document "repl"
  let logging ← tableOf document "logging"
  let prompt ← textOf interaction "prompt" Settings.default.interaction.prompt
  let echoesProgram ←
    flagOf interaction "echo_ast" Settings.default.interaction.echoesProgram
  let keepsHistory ← flagOf interaction "history" Settings.default.interaction.keepsHistory
  let level ← levelOf logging
  pure ⟨⟨prompt, echoesProgram, keepsHistory⟩, level, some source⟩

end Settings

/-- Why there are no settings. -/
inductive SettingsFailure where
  /-- A failure that is reported with the file it is about. -/
  | reported (diagnostic : Diagnostic)
  /-- A failure that nothing reports. -/
  | broken (breakdown : Breakdown)
deriving DecidableEq, Repr

namespace Settings

/-- The settings in a file that was looked at. -/
def load (reader : Toml.Reader) (path : String) (state : FileState) :
    Except SettingsFailure Settings :=
  let reported (fault : SettingsFault) : Except SettingsFailure Settings :=
    .error (.reported (fault.diagnostic path))
  match state.readText with
  | .error (.undecodable failure) => .error (.broken (.undecodable failure))
  | .error .unnameable => .error (.broken .unnameable)
  | .error failure =>
      .error (.reported (.ofFile path ("cannot read config: " ++ failure.wording)))
  | .ok text =>
      match reader text with
      | .error (.invalid violation) => reported (.invalidDocument violation)
      | .error (.failed fault) => .error (.broken (.library fault))
      | .ok document =>
          match ofDocument (Path.plain path) document with
          | .ok settings => .ok settings
          | .error fault => reported fault

/-- The path at which settings are looked for, and whether they must be there. -/
def candidate (given : Option String) (directory : String) : String × Bool :=
  match given with
  | some path => (path, true)
  | none => (Path.join directory fileName, false)

/-- The settings at the path that was given, else those of the working directory, if any. -/
def resolve (reader : Toml.Reader) (given : Option String) (directory : String)
    (look : String → FileState) : Except SettingsFailure Settings :=
  let (path, isRequired) := candidate given directory
  let state := look path
  if isRequired || state.isPresent then load reader path state
  else if state = .overlong then .error (.broken (.overlong path))
  else .ok .default

end Settings

end Jet
