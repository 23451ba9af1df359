import Jet.Settings

/-!
# What is asked of a settings document

A document decides over the settings in six places: two hold tables, if anything, and four inside of
these tables hold values of certain types, if anything.  The places are looked at in a fixed order.
What the first one of them wrongly holds is what a failure is about, and if there is none, every
setting is what stands in its place, or else the default one.

`Settings.Verdict` says this as a relation between documents and results.  It gives every document
one result at most, and since it mentions the six places alone, documents that agree there have the
same results.
-/

namespace Jet

/-! ## Messages -/

namespace SettingsFault

theorem message_notTable (name : String) :
    (notTable name).message = "[" ++ name ++ "]" ++ " must be a table" := by
  have closed : "] must be a table" = "]" ++ " must be a table" := by decide +kernel
  change "[" ++ name ++ "] must be a table" = _
  rw [closed]
  exact String.append_assoc.symm

theorem message_wrongType (key expected actual : String) :
    (wrongType key expected actual).message =
      "'" ++ key ++ "'" ++ (" must be a " ++ expected ++ ", got " ++ actual) := by
  have closed : "' must be a " = "'" ++ " must be a " := by decide +kernel
  change "'" ++ key ++ "' must be a " ++ expected ++ ", got " ++ actual = _
  rw [closed]
  simp only [String.append_assoc]

theorem message_unknownLevel (name : String) :
    (unknownLevel name).message = "'" ++ "level" ++ "'" ++ (" must be one of " ++
      String.intercalate ", " (Level.all.map Level.name) ++ ", got " ++ Text.quoted name) := by
  have closed : "'level' must be one of " = "'" ++ "level" ++ "'" ++ " must be one of " := by
    decide +kernel
  change "'level' must be one of " ++ _ ++ ", got " ++ Text.quoted name = _
  rw [closed]
  simp only [String.append_assoc]

end SettingsFault

/-! ## Requirements -/

/-- The value of a key inside of a table of a document. -/
def Toml.Table.inner? (document : Table) (name key : String) : Option Value :=
  match document.get? name with
  | some (.table entries) => get? entries key
  | _ => none

/-- What is asked of one place of a document. -/
inductive Requirement where
  | interaction
  | logging
  | prompt
  | echoesProgram
  | keepsHistory
  | level
deriving DecidableEq, Repr

namespace Requirement

/-- All requirements, in the order in which their places are looked at. -/
def all : List Requirement :=
  [interaction, logging, prompt, echoesProgram, keepsHistory, level]

theorem mem_all (requirement : Requirement) :
    requirement ∈ all := by
  cases requirement <;> decide

/-- The key at the place of a requirement. -/
def key : Requirement → String
  | interaction => "repl"
  | logging => "logging"
  | prompt => "prompt"
  | echoesProgram => "echo_ast"
  | keepsHistory => "history"
  | level => "level"

/-- What a document holds at the place of a requirement. -/
def found? (document : Toml.Table) (requirement : Requirement) : Option Toml.Value :=
  match requirement with
  | interaction | logging => document.get? requirement.key
  | prompt | echoesProgram | keepsHistory => document.inner? interaction.key requirement.key
  | level => document.inner? logging.key requirement.key

/-- Whether a value is one that is asked for. -/
def Admits (requirement : Requirement) (value : Toml.Value) : Prop :=
  match requirement with
  | interaction | logging => ∃ entries, value = .table entries
  | prompt => ∃ text, value = .string text
  | echoesProgram | keepsHistory => ∃ flag, value = .boolean flag
  | level => ∃ text, value = .string text ∧ Text.upper text ∈ Level.all.map Level.name

/-- What is wrong with a value that is not asked for. -/
def complaint (requirement : Requirement) (value : Toml.Value) : SettingsFault :=
  match requirement, value with
  | interaction, _ | logging, _ => .notTable requirement.key
  | prompt, value => .wrongType requirement.key "str" value.typeName
  | echoesProgram, value | keepsHistory, value =>
      .wrongType requirement.key "bool" value.typeName
  | level, .string text => .unknownLevel (Text.upper text)
  | level, value => .wrongType requirement.key "str" value.typeName

/-- What a message calls a place. -/
def label (requirement : Requirement) : String :=
  match requirement with
  | interaction | logging => "[" ++ requirement.key ++ "]"
  | _ => "'" ++ requirement.key ++ "'"

/-- A message begins with the place that it is about. -/
theorem message_complaint (requirement : Requirement) (value : Toml.Value) :
    ∃ rest, (requirement.complaint value).message = requirement.label ++ rest := by
  cases requirement with
  | interaction | logging => exact ⟨_, SettingsFault.message_notTable _⟩
  | prompt | echoesProgram | keepsHistory => exact ⟨_, SettingsFault.message_wrongType _ _ _⟩
  | level =>
      cases value with
      | string text => exact ⟨_, SettingsFault.message_unknownLevel _⟩
      | _ => exact ⟨_, SettingsFault.message_wrongType _ _ _⟩

/-- What is wrong with a value is about a whole file. -/
theorem diagnostic_complaint (path : String) (requirement : Requirement) (value : Toml.Value) :
    (requirement.complaint value).diagnostic path =
      .ofFile path (requirement.complaint value).message := by
  cases requirement with
  | level => cases value <;> rfl
  | _ => rfl

section

variable (requirement : Requirement) (document : Toml.Table)

/-- Whether a document holds nothing at a place, or what is asked for. -/
def IsMet : Prop :=
  ∀ value, requirement.found? document = some value → requirement.Admits value

/-- Whether a requirement is the first one that a document does not meet. -/
def IsFirstUnmet : Prop :=
  ¬ requirement.IsMet document ∧
    ∃ before after, all = before ++ requirement :: after ∧
      ∀ earlier ∈ before, earlier.IsMet document

end

variable {requirement other : Requirement} {document : Toml.Table} {value : Toml.Value}

/-- A requirement is met if nothing is found. -/
theorem isMet_of_absent
    (absent : requirement.found? document = none) :
    requirement.IsMet document := by
  intro value found
  cases absent.symm.trans found

theorem isMet_of_admits
    (found : requirement.found? document = some value) (admitted : requirement.Admits value) :
    requirement.IsMet document := by
  intro other foundOther
  cases found.symm.trans foundOther
  exact admitted

/-- A requirement is unmet because of what is found at its place. -/
theorem exists_found_of_unmet
    (unmet : ¬ requirement.IsMet document) :
    ∃ value, requirement.found? document = some value ∧ ¬ requirement.Admits value := by
  simpa only [IsMet, Classical.not_forall, Classical.not_imp, exists_prop] using unmet

/-- There is only one first requirement that is not met. -/
theorem IsFirstUnmet.unique
    (first : requirement.IsFirstUnmet document) (second : other.IsFirstUnmet document) :
    requirement = other := by
  classical
  have found {requirement : Requirement} (first : requirement.IsFirstUnmet document) :
      all.find? (fun requirement => !decide (requirement.IsMet document)) = some requirement := by
    rcases first with ⟨unmet, before, after, order, met⟩
    refine List.find?_eq_some_iff_append.mpr ⟨by simpa using unmet, before, after, order, ?_⟩
    exact fun earlier member => by simpa using met earlier member
  exact Option.some.inj ((found first).symm.trans (found second))

end Requirement

/-! ## Settings -/

namespace Settings

/--
Whether a value is what was found at a place, where it is written as a value of the document, or the
default one if nothing was found.
-/
def IsFoundOr {α : Type} (written : α → Toml.Value) (default : α) (found : Option Toml.Value)
    (value : α) : Prop :=
  found = some (written value) ∨ found = none ∧ value = default

/-- Whether settings are those of a document, which meets all requirements. -/
structure AreOf (document : Toml.Table) (settings : Settings) : Prop where
  met : ∀ requirement : Requirement, requirement.IsMet document
  prompt : IsFoundOr .string ">> " (Requirement.prompt.found? document)
    settings.interaction.prompt
  echoesProgram : IsFoundOr .boolean false (Requirement.echoesProgram.found? document)
    settings.interaction.echoesProgram
  keepsHistory : IsFoundOr .boolean true (Requirement.keepsHistory.found? document)
    settings.interaction.keepsHistory
  level : ∃ text, IsFoundOr .string "WARNING" (Requirement.level.found? document) text ∧
    settings.level.name = Text.upper text

/-- How reading a document has to end. -/
inductive Verdict (source : String) (document : Toml.Table) :
    Except SettingsFault Settings → Prop where
  | accepted {settings : Settings} (areOf : settings.AreOf document)
      (known : settings.source = some source) :
      Verdict source document (.ok settings)
  | refused {requirement : Requirement} {value : Toml.Value}
      (first : requirement.IsFirstUnmet document)
      (found : requirement.found? document = some value) :
      Verdict source document (.error (requirement.complaint value))

section

variable {source : String} {document : Toml.Table} {settings another : Settings}
  {result : Except SettingsFault Settings}

/-- What stands at a place, or stands for nothing, is one value. -/
theorem IsFoundOr.unique {α : Type} {written : α → Toml.Value} {default first second : α}
    {found : Option Toml.Value}
    (injective : ∀ first second, written first = written second → first = second)
    (isFirst : IsFoundOr written default found first)
    (isSecond : IsFoundOr written default found second) :
    first = second := by
  rcases isFirst with rfl | ⟨rfl, rfl⟩
  · rcases isSecond with same | ⟨none, _⟩
    · exact injective _ _ (Option.some.inj same)
    · cases none
  · rcases isSecond with same | ⟨_, rfl⟩
    · cases same
    · rfl

/-- A document has only one group of settings, apart from where it stands. -/
theorem AreOf.unique
    (first : settings.AreOf document) (second : another.AreOf document)
    (sources : settings.source = another.source) :
    settings = another := by
  have prompts := first.prompt.unique (fun _ _ => Toml.Value.string.inj) second.prompt
  have echoes := first.echoesProgram.unique (fun _ _ => Toml.Value.boolean.inj) second.echoesProgram
  have histories :=
    first.keepsHistory.unique (fun _ _ => Toml.Value.boolean.inj) second.keepsHistory
  rcases first.level with ⟨text, isText, name⟩
  rcases second.level with ⟨otherText, isOther, otherName⟩
  have texts := isText.unique (fun _ _ => Toml.Value.string.inj) isOther
  have levels := Level.name_injective (name.trans (texts ▸ otherName.symm))
  rcases settings with ⟨⟨_, _, _⟩, _, _⟩
  rcases another with ⟨⟨_, _, _⟩, _, _⟩
  cases prompts
  cases echoes
  cases histories
  cases levels
  cases sources
  rfl

theorem verdict_ok_iff :
    Verdict source document (.ok settings) ↔
      settings.AreOf document ∧ settings.source = some source := by
  constructor
  · rintro ⟨areOf, known⟩
    exact ⟨areOf, known⟩
  · rintro ⟨areOf, known⟩
    exact .accepted areOf known

theorem verdict_error_iff {fault : SettingsFault} :
    Verdict source document (.error fault) ↔
      ∃ (requirement : Requirement) (value : Toml.Value), requirement.IsFirstUnmet document ∧
        requirement.found? document = some value ∧ fault = requirement.complaint value := by
  constructor
  · intro verdict
    cases verdict with
    | refused first found => exact ⟨_, _, first, found, rfl⟩
  · rintro ⟨requirement, value, first, found, rfl⟩
    exact .refused first found

/-- Reading a document can end in one way only. -/
theorem Verdict.unique {second : Except SettingsFault Settings}
    (one : Verdict source document result) (another : Verdict source document second) :
    result = second := by
  cases one with
  | accepted areOf known =>
      cases another with
      | accepted areOfToo knownToo =>
          exact congrArg Except.ok (areOf.unique areOfToo (known.trans knownToo.symm))
      | refused first found => exact absurd (areOf.met _) first.1
  | refused first found =>
      cases another with
      | accepted areOf known => exact absurd (areOf.met _) first.1
      | refused firstToo foundToo =>
          cases first.unique firstToo
          cases found.symm.trans foundToo
          rfl

end

end Settings

/-! ## Documents that agree -/

namespace Toml.Table

/--
Whether two documents agree at the places of all requirements.  Where tables are asked for, it makes
no difference what is held instead.
-/
structure AgreesWith (document other : Table) : Prop where
  tables : ∀ requirement ∈ [Requirement.interaction, .logging],
    requirement.IsMet document ↔ requirement.IsMet other
  values : ∀ requirement ∈ [Requirement.prompt, .echoesProgram, .keepsHistory, .level],
    requirement.found? document = requirement.found? other

namespace AgreesWith

variable {document other : Table} {requirement : Requirement} {value otherValue : Value}

/-- Documents that agree meet the same requirements. -/
theorem isMet_iff (agree : document.AgreesWith other) (requirement : Requirement) :
    requirement.IsMet document ↔ requirement.IsMet other := by
  cases requirement with
  | interaction | logging => exact agree.tables _ (by decide)
  | prompt | echoesProgram | keepsHistory | level =>
      rw [Requirement.IsMet, Requirement.IsMet, agree.values _ (by decide)]

theorem isFirstUnmet (agree : document.AgreesWith other)
    (first : requirement.IsFirstUnmet document) :
    requirement.IsFirstUnmet other := by
  rcases first with ⟨unmet, before, after, order, met⟩
  refine ⟨mt (agree.isMet_iff requirement).mpr unmet, before, after, order, ?_⟩
  exact fun earlier member => (agree.isMet_iff earlier).mp (met earlier member)

/-- What is wrong with two documents that agree is the same. -/
theorem complaint_eq (agree : document.AgreesWith other)
    (found : requirement.found? document = some value)
    (foundOther : requirement.found? other = some otherValue) :
    requirement.complaint value = requirement.complaint otherValue := by
  cases requirement with
  | interaction | logging => rfl
  | prompt | echoesProgram | keepsHistory | level =>
      rw [agree.values _ (by decide), foundOther] at found
      rw [Option.some.inj found]

end AgreesWith

end Toml.Table

namespace Settings

section

variable {source : String} {document other : Toml.Table} {settings : Settings}
  {result : Except SettingsFault Settings}

theorem AreOf.of_agree (agree : document.AgreesWith other) (areOf : settings.AreOf document) :
    settings.AreOf other where
  met requirement := (agree.isMet_iff requirement).mp (areOf.met requirement)
  prompt := agree.values .prompt (by decide) ▸ areOf.prompt
  echoesProgram := agree.values .echoesProgram (by decide) ▸ areOf.echoesProgram
  keepsHistory := agree.values .keepsHistory (by decide) ▸ areOf.keepsHistory
  level := agree.values .level (by decide) ▸ areOf.level

/-- What reading a document ends with is also right for one that agrees. -/
theorem Verdict.of_agree (agree : document.AgreesWith other)
    (verdict : Verdict source document result) :
    Verdict source other result := by
  cases verdict with
  | accepted areOf known => exact .accepted (areOf.of_agree agree) known
  | refused first found =>
      have firstOther := agree.isFirstUnmet first
      rcases Requirement.exists_found_of_unmet firstOther.1 with ⟨value, foundOther, _⟩
      rw [agree.complaint_eq found foundOther]
      exact .refused firstOther foundOther

end

end Settings

end Jet
