import Jet.Proofs.Settings.Failure
import Jet.Proofs.Settings.Requirement
import Mathlib

/-!
# Settings of a document

Reading a document looks at the places of all requirements, one after the other, and ends as their
`Settings.Verdict` says.  So a file with a document is loaded into the settings of this document, or
the failure is about the first place where something is wrong, whatever else stands in the file.
-/

namespace Jet

namespace Settings

/-! ## Reading a document -/

/--
What comes of looking at the place of a requirement: something that is right in some way, or what is
wrong with the value that is found.
-/
inductive Decides (requirement : Requirement) (document : Toml.Table) {α : Type}
    (isRight : α → Prop) : Except SettingsFault α → Prop where
  | met {content : α} (met : requirement.IsMet document) (right : isRight content) :
      Decides requirement document isRight (.ok content)
  | unmet {value : Toml.Value} (found : requirement.found? document = some value)
      (refused : ¬ requirement.Admits value) :
      Decides requirement document isRight (.error (requirement.complaint value))

section

variable {requirement : Requirement} {document table : Toml.Table} {name key : String}

/-- Where a table is asked for, what comes of it are the places inside of it. -/
theorem decides_tableOf
    (place : requirement.found? document = document.get? name)
    (admits : ∀ value, requirement.Admits value ↔ ∃ entries, value = .table entries)
    (complaint : ∀ value, requirement.complaint value = .notTable name) :
    Decides requirement document (fun table => ∀ key, document.inner? name key = table.get? key)
      (tableOf document name) := by
  unfold tableOf
  split
  · rename_i absent
    refine .met (Requirement.isMet_of_absent (place.trans absent)) fun key => ?_
    rw [Toml.Table.inner?, absent]
    rfl
  · rename_i entries present
    have admitted := (admits (.table entries)).mpr ⟨entries, rfl⟩
    refine .met (Requirement.isMet_of_admits (place.trans present) admitted) fun key => ?_
    rw [Toml.Table.inner?, present]
  · rename_i value noTable present
    rw [← complaint value]
    refine .unmet (place.trans present) fun admitted => ?_
    rcases (admits value).mp admitted with ⟨entries, isTable⟩
    exact noTable entries isTable

/-- A value of a type is what was found or the default one, or what was found is of another type. -/
theorem typedOf_cases {α : Type} {take? : Toml.Value → Option α} {written : α → Toml.Value}
    (takes : ∀ value content, take? value = some content ↔ value = written content)
    (typeName : String) (table : Toml.Table) (key : String) (default : α) :
    (∃ content, typedOf typeName take? table key default = .ok content ∧
        IsFoundOr written default (table.get? key) content) ∨
      ∃ value, table.get? key = some value ∧ (∀ content, value ≠ written content) ∧
        typedOf typeName take? table key default =
          .error (.wrongType key typeName value.typeName) := by
  unfold typedOf
  cases found : table.get? key with
  | none => exact .inl ⟨default, rfl, .inr ⟨rfl, rfl⟩⟩
  | some value =>
      dsimp only
      cases taken : take? value with
      | none =>
          refine .inr ⟨value, rfl, fun content isWritten => ?_, rfl⟩
          cases taken.symm.trans ((takes value content).mpr isWritten)
      | some content =>
          exact .inl ⟨content, rfl, .inl (congrArg some ((takes value content).mp taken))⟩

/-- Where values of a type are asked for, what comes of it is the value found or the default one. -/
theorem decides_typedOf {α : Type} {typeName : String} {take? : Toml.Value → Option α}
    {written : α → Toml.Value} (requirement : Requirement)
    (takes : ∀ value content, take? value = some content ↔ value = written content)
    (place : requirement.found? document = table.get? key)
    (admits : ∀ value, requirement.Admits value ↔ ∃ content, value = written content)
    (complaint : ∀ value, requirement.complaint value = .wrongType key typeName value.typeName)
    (default : α) :
    Decides requirement document
      (IsFoundOr written default (requirement.found? document))
      (typedOf typeName take? table key default) := by
  rcases typedOf_cases takes typeName table key default with
    ⟨content, read, isFound⟩ | ⟨value, found, refused, read⟩
  · rw [read, place]
    refine .met ?_ isFound
    rcases isFound with found | ⟨absent, _⟩
    · exact Requirement.isMet_of_admits (place.trans found) ((admits _).mpr ⟨content, rfl⟩)
    · exact Requirement.isMet_of_absent (place.trans absent)
  · rw [read, ← complaint value]
    refine .unmet (place.trans found) fun admitted => ?_
    rcases (admits value).mp admitted with ⟨content, isWritten⟩
    exact refused content isWritten

/-- With a text in its place, a level is looked for by the upper-case form of the text. -/
theorem levelOf_eq {text : String}
    (read : textOf table "level" default.level.name = .ok text) :
    levelOf table =
      (Level.ofName? (Text.upper text)).elim (.error (.unknownLevel (Text.upper text))) .ok := by
  rw [levelOf, read]
  dsimp only [bind, Except.bind]
  cases Level.ofName? (Text.upper text) <;> rfl

/-- Where a level is asked for, what comes of it has the upper-case form of a text as its name. -/
theorem decides_levelOf
    (place : Requirement.level.found? document = table.get? "level") :
    Decides .level document
      (fun level =>
        ∃ text, IsFoundOr .string "WARNING" (Requirement.level.found? document) text ∧
          level.name = Text.upper text)
      (levelOf table) := by
  rcases typedOf_cases Toml.Value.text?_eq_some_iff "str" table "level" default.level.name with
    ⟨text, read, isFound⟩ | ⟨value, found, refused, read⟩
  · rw [levelOf_eq read]
    cases known : Level.ofName? (Text.upper text) with
    | some level =>
        have name := Level.ofName?_eq_some_iff.mp known
        refine .met ?_ ⟨text, place ▸ isFound, name⟩
        rcases isFound with found | ⟨absent, _⟩
        · refine Requirement.isMet_of_admits (place.trans found) ⟨text, rfl, ?_⟩
          exact name ▸ level.name_mem
        · exact Requirement.isMet_of_absent (place.trans absent)
    | none =>
        rcases isFound with found | ⟨_, rfl⟩
        · refine .unmet (place.trans found) ?_
          rintro ⟨other, same, isName⟩
          cases same
          exact Level.ofName?_eq_none_iff.mp known isName
        · -- The default name is one of the five, so it is never unknown.
          cases known
  · have complaint :
        Requirement.level.complaint value = .wrongType "level" "str" value.typeName := by
      cases value with
      | string text => exact absurd rfl (refused text)
      | _ => rfl
    rw [levelOf, textOf, read]
    change Decides _ _ _ (.error (.wrongType "level" "str" value.typeName))
    rw [← complaint]
    refine .unmet (place.trans found) ?_
    rintro ⟨text, same, _⟩
    exact refused text same

/-- With all requirements before it met, one that is not met ends the reading, and is the first. -/
theorem Decides.bind {α : Type} {source : String} {isRight : α → Prop}
    {step : Except SettingsFault α} {next : α → Except SettingsFault Settings}
    {after : List Requirement} (decided : Decides requirement document isRight step)
    (before : List Requirement)
    (earlier : ∀ other ∈ before, other.IsMet document)
    (order : Requirement.all = before ++ requirement :: after)
    (follows : ∀ content, isRight content →
      (∀ other ∈ before ++ [requirement], other.IsMet document) →
      Verdict source document (next content)) :
    Verdict source document (step >>= next) := by
  cases decided with
  | met met right =>
      refine follows _ right fun other member => ?_
      rcases List.mem_append.mp member with member | member
      · exact earlier other member
      · rw [List.mem_singleton.mp member]
        exact met
  | unmet found refused =>
      exact .refused ⟨fun met => refused (met _ found), before, after, order, earlier⟩ found

/-- Reading a document ends as it has to. -/
theorem verdict_ofDocument (source : String) (document : Toml.Table) :
    Verdict source document (ofDocument source document) := by
  have interactionTable : Decides .interaction document _ (tableOf document "repl") :=
    decides_tableOf rfl (fun _ => Iff.rfl) fun _ => rfl
  have loggingTable : Decides .logging document _ (tableOf document "logging") :=
    decides_tableOf rfl (fun _ => Iff.rfl) fun _ => rfl
  refine interactionTable.bind [] (List.forall_mem_nil _) rfl fun interaction inside met => ?_
  refine loggingTable.bind [.interaction] met rfl fun logging insideLogging met => ?_
  have prompt : Decides .prompt document _ (textOf interaction "prompt" ">> ") :=
    decides_typedOf .prompt Toml.Value.text?_eq_some_iff (inside "prompt") (fun _ => Iff.rfl)
      (fun _ => rfl) ">> "
  have echoesProgram : Decides .echoesProgram document _ (flagOf interaction "echo_ast" false) :=
    decides_typedOf .echoesProgram Toml.Value.flag?_eq_some_iff (inside "echo_ast")
      (fun _ => Iff.rfl) (fun _ => rfl) false
  have keepsHistory : Decides .keepsHistory document _ (flagOf interaction "history" true) :=
    decides_typedOf .keepsHistory Toml.Value.flag?_eq_some_iff (inside "history")
      (fun _ => Iff.rfl) (fun _ => rfl) true
  have level := decides_levelOf (insideLogging "level")
  refine prompt.bind [.interaction, .logging] met rfl fun text isPrompt met => ?_
  refine echoesProgram.bind [.interaction, .logging, .prompt] met rfl fun echoes isEchoes met => ?_
  refine keepsHistory.bind [.interaction, .logging, .prompt, .echoesProgram] met rfl
    fun keeps isKeeps met => ?_
  refine level.bind [.interaction, .logging, .prompt, .echoesProgram, .keepsHistory] met rfl
    fun name isName met => ?_
  exact .accepted
    ⟨fun requirement => met _ requirement.mem_all, isPrompt, isEchoes, isKeeps, isName⟩ rfl

end

section

variable {reader : Toml.Reader} {source path text : String} {document other : Toml.Table}
  {settings : Settings} {result : Except SettingsFault Settings}

/-- Reading a document ends with a result exactly if this result is right for it. -/
theorem ofDocument_eq_iff :
    ofDocument source document = result ↔ Verdict source document result := by
  constructor
  · rintro rfl
    exact verdict_ofDocument source document
  · exact (verdict_ofDocument source document).unique

theorem ofDocument_of_agree (agree : document.AgreesWith other) :
    ofDocument source document = ofDocument source other :=
  (ofDocument_eq_iff.mpr ((verdict_ofDocument source document).of_agree agree)).symm

/-- Loading a document that is read gives settings exactly if they are those of the document. -/
theorem load_eq_ok_iff (parsed : reader (Text.withPlainNewlines text) = .ok document) :
    load reader path (.file (Text.Utf8.encode text)) = .ok settings ↔
      settings.AreOf document ∧ settings.source = some (Path.plain path) := by
  rw [load_of_parsed parsed, ← verdict_ok_iff, ← ofDocument_eq_iff]
  cases ofDocument (Path.plain path) document with
  | error fault => exact iff_of_false nofun nofun
  | ok others => exact ⟨fun same => congrArg Except.ok (Except.ok.inj same), congrArg _⟩

/-- It fails exactly with what is wrong at the first place where something is wrong. -/
theorem load_eq_error_iff {failure : SettingsFailure}
    (parsed : reader (Text.withPlainNewlines text) = .ok document) :
    load reader path (.file (Text.Utf8.encode text)) = .error failure ↔
      ∃ (requirement : Requirement) (value : Toml.Value), requirement.IsFirstUnmet document ∧
        requirement.found? document = some value ∧
        failure = .reported (.ofFile path (requirement.complaint value).message) := by
  rw [load_of_parsed parsed]
  constructor
  · intro loaded
    cases read : ofDocument (Path.plain path) document with
    | ok settings =>
        rw [read] at loaded
        cases loaded
    | error fault =>
        rw [read] at loaded
        cases loaded
        rcases verdict_error_iff.mp (ofDocument_eq_iff.mp read) with
          ⟨requirement, value, first, found, rfl⟩
        have located := Requirement.diagnostic_complaint path requirement value
        exact ⟨requirement, value, first, found, congrArg SettingsFailure.reported located⟩
  · rintro ⟨requirement, value, first, found, rfl⟩
    rw [ofDocument_eq_iff.mpr (.refused first found), ← Requirement.diagnostic_complaint]
    rfl

/-- Settings are loaded exactly if the document meets all requirements. -/
theorem exists_load_eq_ok_iff
    (parsed : reader (Text.withPlainNewlines text) = .ok document) :
    (∃ settings, load reader path (.file (Text.Utf8.encode text)) = .ok settings) ↔
      ∀ requirement : Requirement, requirement.IsMet document := by
  constructor
  · rintro ⟨settings, loaded⟩
    exact ((load_eq_ok_iff parsed).mp loaded).1.met
  · intro met
    cases loaded : load reader path (.file (Text.Utf8.encode text)) with
    | ok settings => exact ⟨settings, rfl⟩
    | error failure =>
        rcases (load_eq_error_iff parsed).mp loaded with ⟨requirement, _, first, _⟩
        exact absurd (met requirement) first.1

end

/--
Whatever reads the documents, loading one goes by the six places of its table alone.  It gives
settings exactly if tables are at two of them and values that are asked for at the others, or
nothing, and these are the values then, or the default ones.  Otherwise it fails with what is wrong
at the first place where something is, and the message begins with this place.  So documents that
agree there are loaded alike.
-/
theorem load_byRequirements (reader : Toml.Reader) (path : String) {text : String}
    {document : Toml.Table} (parsed : reader (Text.withPlainNewlines text) = .ok document) :
    ((∃ settings, load reader path (.file (Text.Utf8.encode text)) = .ok settings) ↔
        ∀ requirement : Requirement, requirement.IsMet document) ∧
      (∀ settings, load reader path (.file (Text.Utf8.encode text)) = .ok settings ↔
        settings.AreOf document ∧ settings.source = some (Path.plain path)) ∧
      (∀ failure, load reader path (.file (Text.Utf8.encode text)) = .error failure ↔
        ∃ (requirement : Requirement) (value : Toml.Value), requirement.IsFirstUnmet document ∧
          requirement.found? document = some value ∧
          failure = .reported (.ofFile path (requirement.complaint value).message)) ∧
      (∀ (requirement : Requirement) (value : Toml.Value),
        ∃ rest, (requirement.complaint value).message = requirement.label ++ rest) ∧
      ∀ otherText other, reader (Text.withPlainNewlines otherText) = .ok other →
        document.AgreesWith other →
        load reader path (.file (Text.Utf8.encode text)) =
          load reader path (.file (Text.Utf8.encode otherText)) := by
  refine ⟨exists_load_eq_ok_iff parsed, fun settings => load_eq_ok_iff parsed,
    fun failure => load_eq_error_iff parsed, Requirement.message_complaint, ?_⟩
  intro otherText other otherParsed agree
  rw [load_of_parsed parsed, load_of_parsed otherParsed, ofDocument_of_agree agree]

/--
Of two values of a wrong type the one that is looked at first is reported, wherever it stands, and
no matter what else the document holds.
-/
theorem load_byRequirements_scattered :
    let failure : SettingsFailure :=
      .reported (.ofFile "jet.toml" "'echo_ast' must be a bool, got int")
    load Toml.parse "jet.toml" (.file (Text.Utf8.encode "[repl]\necho_ast = 1\nhistory = 0\n")) =
        .error failure ∧
      load Toml.parse "jet.toml" (.file (Text.Utf8.encode
        "level = 1\n[repl]\nhistory = 0\ncolor = 2\necho_ast = 1\n[other]\n")) =
        .error failure := by
  have parsed :
      Toml.parse (Text.withPlainNewlines "[repl]\necho_ast = 1\nhistory = 0\n") =
        .ok [("repl", .table [("echo_ast", .integer 1), ("history", .integer 0)])] := by
    cbv
  have parsedOther :
      Toml.parse (Text.withPlainNewlines
          "level = 1\n[repl]\nhistory = 0\ncolor = 2\necho_ast = 1\n[other]\n") =
        .ok [("level", .integer 1),
          ("repl", .table [("history", .integer 0), ("color", .integer 2),
            ("echo_ast", .integer 1)]),
          ("other", .table [])] := by
    cbv
  rcases load_byRequirements Toml.parse "jet.toml" parsed with ⟨_, _, failed, _, alike⟩
  intro failure
  have loaded :
      load Toml.parse "jet.toml" (.file (Text.Utf8.encode "[repl]\necho_ast = 1\nhistory = 0\n")) =
        .error failure := by
    refine (failed _).mpr ⟨.echoesProgram, .integer 1,
      ⟨fun met => ?_, [.interaction, .logging, .prompt], _, rfl, ?_⟩, rfl, rfl⟩
    · rcases met _ rfl with ⟨flag, same⟩
      cases same
    · simp only [List.forall_mem_cons]
      exact ⟨Requirement.isMet_of_admits rfl ⟨_, rfl⟩, Requirement.isMet_of_absent rfl,
        Requirement.isMet_of_absent rfl, List.forall_mem_nil _⟩
  refine ⟨loaded, (alike _ _ parsedOther ⟨?_, ?_⟩).symm.trans loaded⟩
  · simp only [List.forall_mem_cons]
    exact ⟨iff_of_true (Requirement.isMet_of_admits rfl ⟨_, rfl⟩)
        (Requirement.isMet_of_admits rfl ⟨_, rfl⟩),
      iff_of_true (Requirement.isMet_of_absent rfl) (Requirement.isMet_of_absent rfl),
      List.forall_mem_nil _⟩
  · simp only [List.forall_mem_cons]
    exact ⟨rfl, rfl, rfl, rfl, List.forall_mem_nil _⟩

end Settings

end Jet
