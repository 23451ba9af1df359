import Jet.Proofs.Text.Utf8
import Jet.Terminal

/-!
# How settings fail

Whatever is at the path where settings are looked for, the outcome is settings or a failure that is
reported with this path, but for three exceptions: the path cannot be one of any file, the bytes of
the file are the encoding of no text, or the reader of documents fails in another way than by
refusing a text.  In these cases nothing reports the failure, and the tool breaks off with it.

Each stage of loading is looked at once, in `FileState.Breaks`: what follows goes by it alone.  The
reader of documents is any one; what a reader that never fails otherwise leaves of the exceptions is
said besides.
-/

namespace Jet

/-! ## Files that break the loading off -/

/-- Whether a reader gives a table for every text, or tells what the text breaks of the rules. -/
def Toml.Reader.NeverFails (reader : Toml.Reader) : Prop :=
  ∀ text fault, reader text ≠ .error (.failed fault)

namespace FileState

/-- What loading the settings breaks off with, in the states of a path in which it does. -/
inductive Breaks (reader : Toml.Reader) : FileState → Breakdown → Prop where
  | unnameable : Breaks reader .unnameable .unnameable
  | undecodable {bytes : List Nat} {failure : Text.Utf8.Failure}
      (refused : Text.Utf8.decode bytes = .error failure) :
      Breaks reader (.file bytes) (.undecodable failure)
  | failed {text : String} {fault : LibraryFault}
      (failed : reader (Text.withPlainNewlines text) = .error (.failed fault)) :
      Breaks reader (.file (Text.Utf8.encode text)) (.library fault)

/-- Whether no text can be read in a state of a path, because no file can have it or be a text. -/
def HoldsNoText (state : FileState) : Prop :=
  state = .unnameable ∨ ∃ bytes, state = .file bytes ∧ ¬ Text.Utf8.IsEncoding bytes

/-- Whether loading the settings breaks off in a state of their path. -/
def BreaksOff (reader : Toml.Reader) (state : FileState) : Prop :=
  state.HoldsNoText ∨
    ∃ text fault, state = .file (Text.Utf8.encode text) ∧
      reader (Text.withPlainNewlines text) = .error (.failed fault)

variable {reader : Toml.Reader} {state : FileState}

theorem exists_breaks_iff :
    (∃ breakdown, state.Breaks reader breakdown) ↔ state.BreaksOff reader := by
  constructor
  · rintro ⟨breakdown, breaks⟩
    cases breaks with
    | unnameable => exact .inl (.inl rfl)
    | undecodable refused =>
        exact .inl (.inr ⟨_, rfl, Text.Utf8.exists_failure_iff.mp ⟨_, refused⟩⟩)
    | failed failed => exact .inr ⟨_, _, rfl, failed⟩
  · rintro ((rfl | ⟨bytes, rfl, noText⟩) | ⟨text, fault, rfl, failed⟩)
    · exact ⟨_, .unnameable⟩
    · rcases Text.Utf8.exists_failure_iff.mpr noText with ⟨failure, refused⟩
      exact ⟨_, .undecodable refused⟩
    · exact ⟨_, .failed failed⟩

/-- A reader that never fails leaves two of the three exceptions. -/
theorem breaksOff_iff_of_neverFails (never : reader.NeverFails) :
    state.BreaksOff reader ↔ state.HoldsNoText :=
  or_iff_left fun ⟨_, _, _, failed⟩ => never _ _ failed

end FileState

namespace Settings

/-! ## Loading -/

/-- Whether an outcome is settings from a file, or a failure that is reported with this file. -/
def IsAnswer (path : String) : Except SettingsFailure Settings → Prop
  | .ok settings => settings.source = some (Path.plain path)
  | .error (.reported diagnostic) => ∃ line column, diagnostic.location = some ⟨path, line, column⟩
  | .error (.broken _) => False

/-- What follows a step that succeeds, given what comes of both. -/
theorem of_bind_eq_ok {α β : Type} {property : Prop} {first : Except SettingsFault α}
    {next : α → Except SettingsFault β} {result : β} (read : (first >>= next) = .ok result)
    (follows : ∀ value, next value = .ok result → property) :
    property := by
  cases first with
  | error fault => cases read
  | ok value => exact follows value read

/-- The settings of a document know the file that they come from. -/
theorem source_of_ofDocument {source : String} {document : Toml.Table} {settings : Settings}
    (read : ofDocument source document = .ok settings) :
    settings.source = some source := by
  refine of_bind_eq_ok read fun interaction read => ?_
  refine of_bind_eq_ok read fun logging read => ?_
  refine of_bind_eq_ok read fun prompt read => ?_
  refine of_bind_eq_ok read fun echoesProgram read => ?_
  refine of_bind_eq_ok read fun keepsHistory read => ?_
  refine of_bind_eq_ok read fun level read => ?_
  cases read
  rfl

section

variable {reader : Toml.Reader} {path text : String}

theorem readText_encode (text : String) :
    FileState.readText (.file (Text.Utf8.encode text)) = .ok (Text.withPlainNewlines text) := by
  rw [FileState.readText, Text.Utf8.decode_eq_ok_iff.mpr rfl]

/-- A text that breaks the rules of documents is reported with the place that the reader told. -/
theorem load_of_invalid {violation : Toml.Violation}
    (refused : reader (Text.withPlainNewlines text) = .error (.invalid violation)) :
    load reader path (.file (Text.Utf8.encode text)) =
      .error (.reported ((SettingsFault.invalidDocument violation).diagnostic path)) := by
  rw [load, readText_encode]
  dsimp only
  rw [refused]

/-- A document that is read gives settings, or a report of what is wrong with them. -/
theorem load_of_parsed {document : Toml.Table}
    (parsed : reader (Text.withPlainNewlines text) = .ok document) :
    load reader path (.file (Text.Utf8.encode text)) =
      (ofDocument (Path.plain path) document).mapError fun fault =>
        .reported (fault.diagnostic path) := by
  rw [load, readText_encode]
  dsimp only
  rw [parsed]
  dsimp only
  cases ofDocument (Path.plain path) document <;> rfl

/-- Whatever is wrong with settings is reported with the path of their file. -/
theorem isAnswer_diagnostic (path : String) (fault : SettingsFault) :
    IsAnswer path (.error (.reported (fault.diagnostic path))) := by
  cases fault <;> exact ⟨_, _, rfl⟩

theorem isAnswer_load_of_document {document : Toml.Table}
    (parsed : reader (Text.withPlainNewlines text) = .ok document) :
    IsAnswer path (load reader path (.file (Text.Utf8.encode text))) := by
  rw [load_of_parsed parsed]
  cases read : ofDocument (Path.plain path) document with
  | error fault => exact isAnswer_diagnostic path fault
  | ok settings => exact source_of_ofDocument read

/-- What loading breaks off with goes by the state of the path. -/
theorem load_of_breaks {state : FileState} {breakdown : Breakdown}
    (breaks : state.Breaks reader breakdown) (path : String) :
    load reader path state = .error (.broken breakdown) := by
  cases breaks with
  | unnameable => rfl
  | undecodable refused => rw [load, FileState.readText, refused]
  | failed failed =>
      rw [load, readText_encode]
      dsimp only
      rw [failed]

/-- In every state of the path there is an answer, or something to break off with. -/
theorem isAnswer_load_or_breaks (reader : Toml.Reader) (path : String) (state : FileState) :
    IsAnswer path (load reader path state) ∨ ∃ breakdown, state.Breaks reader breakdown := by
  cases state with
  | missing | directory | blocked | overlong => exact .inl ⟨none, none, rfl⟩
  | unnameable => exact .inr ⟨_, .unnameable⟩
  | file bytes =>
      cases decoded : Text.Utf8.decode bytes with
      | error failure => exact .inr ⟨_, .undecodable decoded⟩
      | ok text =>
          rcases Text.Utf8.decode_eq_ok_iff.mp decoded with rfl
          cases parsed : reader (Text.withPlainNewlines text) with
          | ok document => exact .inl (isAnswer_load_of_document parsed)
          | error refusal =>
              cases refusal with
              | invalid violation =>
                  rw [load_of_invalid parsed]
                  exact .inl (isAnswer_diagnostic path _)
              | failed fault => exact .inr ⟨_, .failed parsed⟩

/-- There is an answer exactly if loading does not break off. -/
theorem isAnswer_load_iff {state : FileState} :
    IsAnswer path (load reader path state) ↔ ¬ state.BreaksOff reader := by
  rw [← FileState.exists_breaks_iff]
  constructor
  · rintro answered ⟨breakdown, breaks⟩
    rw [load_of_breaks breaks path] at answered
    exact answered
  · exact (isAnswer_load_or_breaks reader path state).resolve_right

/-- A failure that loading reports is one about the file. -/
theorem location_of_load {state : FileState} {diagnostic : Diagnostic}
    (failed : load reader path state = .error (.reported diagnostic)) :
    ∃ line column, diagnostic.location = some ⟨path, line, column⟩ := by
  rcases isAnswer_load_or_breaks reader path state with answered | ⟨breakdown, breaks⟩
  · rw [failed] at answered
    exact answered
  · rw [load_of_breaks breaks path] at failed
    cases failed

end

/-! ## Looking for settings -/

section

variable {reader : Toml.Reader} {given : Option String} {directory : String}
  {look : String → FileState}

/-- The settings are loaded if they must be there, or are found where they may be. -/
theorem resolve_eq_load
    (found : ((candidate given directory).2 ||
      (look (candidate given directory).1).isPresent) = true) :
    resolve reader given directory look =
      load reader (candidate given directory).1 (look (candidate given directory).1) :=
  if_pos found

/-- Without settings there are the default ones, unless looking for them was refused. -/
theorem resolve_eq_default
    (absent : ((candidate given directory).2 ||
      (look (candidate given directory).1).isPresent) = false) :
    resolve reader given directory look =
      if look (candidate given directory).1 = .overlong then
        .error (.broken (.overlong (candidate given directory).1))
      else .ok .default :=
  if_neg (Bool.eq_false_iff.mp absent)

/-- What looking for settings reports is about the path at which they are looked for. -/
theorem location_of_resolve {diagnostic : Diagnostic}
    (failed : resolve reader given directory look = .error (.reported diagnostic)) :
    ∃ line column,
      diagnostic.location = some ⟨(candidate given directory).1, line, column⟩ := by
  cases found : (candidate given directory).2 ||
      (look (candidate given directory).1).isPresent with
  | true =>
      rw [resolve_eq_load found] at failed
      exact location_of_load failed
  | false =>
      rw [resolve_eq_default found] at failed
      split at failed <;> cases failed

end

end Settings

/-! ## The tool -/

namespace CommandLine

variable {platform : Platform} {arguments : List String} {invocation : Invocation}
  {input directory : String} {look : String → FileState}

/-- A failure that is reported is printed with its place, and nothing else is. -/
theorem perform_of_reported {diagnostic : Diagnostic}
    (invokes : platform.arguments.demand arguments = .invoke invocation)
    (failed : Settings.resolve platform.documents invocation.config directory look =
      .error (.reported diagnostic)) :
    perform platform arguments input directory look =
      ⟨1, [], [.print (.complaint diagnostic.text)], none⟩ := by
  rw [perform, invokes]
  dsimp only
  rw [failed]
  rfl

/-- A failure that is not reported breaks the tool off. -/
theorem perform_of_broken {breakdown : Breakdown}
    (invokes : platform.arguments.demand arguments = .invoke invocation)
    (failed : Settings.resolve platform.documents invocation.config directory look =
      .error (.broken breakdown)) :
    perform platform arguments input directory look = ⟨1, [], [], some breakdown⟩ := by
  rw [perform, invokes]
  dsimp only
  rw [failed]
  rfl

end CommandLine

namespace Settings

/--
How looking for settings can fail, with any readers of documents and of arguments.

In every state of a path, loading gives settings that know this path or a failure that is reported
with it, unless the state is one in which loading breaks off: no file can have this path, the bytes
of the file are the encoding of no text, or the reader of documents fails otherwise than by refusing
the text.  The same goes for looking for settings at the path that was given, or at the one in the
working directory if something is there; if nothing is, there are the default settings, unless the
path is too long.

The tool ends with exit code 1 in either case, but only the failures that are reported are printed,
with the place that they are about in front.
-/
theorem resolve_answers (platform : CommandLine.Platform) (given : Option String)
    (directory : String) (look : String → FileState) :
    let reader := platform.documents
    (∀ path state, IsAnswer path (load reader path state) ↔ ¬ state.BreaksOff reader) ∧
    (reader.NeverFails → ∀ state : FileState, state.BreaksOff reader ↔ state.HoldsNoText) ∧
    (∀ path bytes, ¬ Text.Utf8.IsEncoding bytes →
      ∃ failure, load reader path (.file bytes) = .error (.broken (.undecodable failure))) ∧
    let (path, isRequired) := candidate given directory
    (isRequired = true ∨ (look path).isPresent = true →
      resolve reader given directory look = load reader path (look path) ∧
        (IsAnswer path (resolve reader given directory look) ↔ ¬ (look path).BreaksOff reader)) ∧
    (isRequired = false → (look path).isPresent = false →
      (resolve reader given directory look = .ok .default ↔ look path ≠ .overlong)) ∧
    ∀ arguments input invocation,
      platform.arguments.demand arguments = .invoke invocation → invocation.config = given →
        (∀ diagnostic, resolve reader given directory look = .error (.reported diagnostic) →
          ∃ line column, diagnostic.location = some ⟨path, line, column⟩ ∧
            CommandLine.perform platform arguments input directory look =
              ⟨1, [], [.print (.complaint
                (Location.text ⟨path, line, column⟩ ++ ": " ++ diagnostic.message))], none⟩) ∧
        ∀ breakdown, resolve reader given directory look = .error (.broken breakdown) →
          CommandLine.perform platform arguments input directory look =
            ⟨1, [], [], some breakdown⟩ := by
  refine ⟨fun path state => isAnswer_load_iff,
    fun never _ => FileState.breaksOff_iff_of_neverFails never, ?_, fun required => ?_,
    fun optional absent => ?_, ?_⟩
  · intro path bytes noText
    rcases Text.Utf8.exists_failure_iff.mpr noText with ⟨failure, refused⟩
    exact ⟨failure, load_of_breaks (.undecodable refused) path⟩
  · have found : resolve platform.documents given directory look = _ :=
      resolve_eq_load (Bool.or_eq_true _ _ ▸ required)
    exact ⟨found, found ▸ isAnswer_load_iff⟩
  · rw [resolve_eq_default (Bool.or_eq_false_iff.mpr ⟨optional, absent⟩)]
    split
    · rename_i overlong
      exact iff_of_false nofun fun short => short overlong
    · rename_i short
      exact iff_of_true rfl short
  · rintro arguments input invocation invokes rfl
    refine ⟨fun diagnostic failed => ?_, fun breakdown failed => ?_⟩
    · rcases location_of_resolve failed with ⟨line, column, location⟩
      refine ⟨line, column, location, ?_⟩
      rw [CommandLine.perform_of_reported invokes failed, Diagnostic.text, location]
      rfl
    · exact CommandLine.perform_of_broken invokes failed

/-- The general part of the arguments that run a file. -/
theorem demand_run :
    Terminal.platform.arguments.demand ["run", "a.jet"] =
      .invoke ⟨none, false, .run, ["a.jet"]⟩ := rfl

/-- A directory in the place of the settings is reported. -/
theorem resolve_answers_directory :
    CommandLine.perform Terminal.platform ["run", "a.jet"] "" "." (fun _ => .directory) =
      ⟨1, [], [.print (.complaint "jet.toml: cannot read config: Is a directory")], none⟩ := by
  have failed : resolve Terminal.platform.documents none "." (fun _ => .directory) =
      .error (.reported (.ofFile "jet.toml" "cannot read config: Is a directory")) := rfl
  rcases resolve_answers Terminal.platform none "." (fun _ => .directory) with
    ⟨_, _, _, _, _, ends⟩
  rcases (ends _ "" _ demand_run rfl).1 _ failed with ⟨line, column, location, performed⟩
  cases location
  exact performed

/-- A settings file of one byte that begins no character breaks the tool off. -/
theorem resolve_answers_undecodable :
    let look : String → FileState := fun path =>
      if path = "jet.toml" then .file [0xff] else .file (Text.Utf8.encode "1")
    let failure : Text.Utf8.Failure := ⟨.invalidStart, 0, 1, 0xff⟩
    let reader := Terminal.platform.documents
    load reader "jet.toml" (look "jet.toml") = .error (.broken (.undecodable failure)) ∧
      resolve reader none "." look = .error (.broken (.undecodable failure)) ∧
      ¬ IsAnswer "jet.toml" (load reader "jet.toml" (look "jet.toml")) ∧
      CommandLine.perform Terminal.platform ["run", "a.jet"] "" "." look =
        ⟨1, [], [], some (.undecodable failure)⟩ :=
  have failed : resolve Terminal.platform.documents none "." (fun path =>
      if path = "jet.toml" then .file [0xff] else .file (Text.Utf8.encode "1")) =
        .error (.broken (.undecodable ⟨.invalidStart, 0, 1, 0xff⟩)) := rfl
  ⟨rfl, failed, id, CommandLine.perform_of_broken demand_run failed⟩

end Settings

end Jet
