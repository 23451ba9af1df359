import Jet.Proofs.Grammar.Vocabulary
import Jet.Session

/-!
# Executing texts

A text is executed in one of three ways: the host has no room for reading it, or it has problems, or
it is evaluated.  In each of them the text is noted, and only in the last does the store change.
-/

namespace Jet

/-- Whether a host reads a text as a program without problems. -/
structure Host.Reads (host : Host) (source : String) (program : Program) : Prop where
  room : host.room.reads source = true
  parsed : parseSource source = .ok ⟨program, []⟩

/-- Whether a host reads a text and finds problems in it. -/
structure Host.Refuses (host : Host) (source : String) (program : Program)
    (problems : List Problem) : Prop where
  room : host.room.reads source = true
  parsed : parseSource source = .ok ⟨program, problems⟩
  given : problems ≠ []

namespace Session

variable {session other : Session} {host : Host} {source : String} {program : Program}
  {problems : List Problem}

theorem note_root (session : Session) (source : String) :
    (session.note source).root = session.root := by
  unfold note
  split <;> rfl

/-! ## One text -/

/-- A text for which there is no room is noted, and nothing else happens. -/
theorem execute_of_noRoom (session : Session) (noRoom : host.room.reads source = false)
    (store : Store) :
    session.execute host source store = (.error .exhausted, session.note source, store) := by
  rw [execute, noRoom]
  rfl

/-- A text with problems is answered by them alone. -/
theorem execute_of_refused (session : Session) (refused : host.Refuses source program problems)
    (store : Store) :
    session.execute host source store =
      (.ok ⟨program, problems, none⟩, session.note source, store) := by
  rw [execute, refused.room, refused.parsed]
  cases problems with
  | nil => exact absurd rfl refused.given
  | cons => rfl

/-- A text without problems is evaluated, and leaves what its evaluation leaves. -/
theorem execute_of_read (session : Session) (read : host.Reads source program) (store : Store) :
    session.execute host source store =
      ((session.evaluate host.callLimit program store).1.map fun value =>
          ⟨program, [], some value⟩,
        session.note source, (session.evaluate host.callLimit program store).2) := by
  rw [execute, read.room, read.parsed]
  rfl

/-- A host has no room for a text, or refuses it for its problems, or reads it as a program. -/
theorem reads_cases (host : Host) (source : String) :
    host.room.reads source = false ∨ (∃ program problems, host.Refuses source program problems) ∨
      ∃ program, host.Reads source program := by
  rcases parseSource_eq_ok source with ⟨⟨program, problems⟩, parsed⟩
  cases room : host.room.reads source with
  | false => exact .inl rfl
  | true =>
      by_cases given : problems = []
      · exact .inr (.inr ⟨program, room, given ▸ parsed⟩)
      · exact .inr (.inl ⟨program, problems, room, parsed, given⟩)

/-- What was executed was refused for its problems, or read and evaluated to a value. -/
theorem cases_of_execute_eq_ok {execution : Execution} {store : Store}
    (executed : (session.execute host source store).1 = .ok execution) :
    (∃ program problems, host.Refuses source program problems ∧
        execution = ⟨program, problems, none⟩) ∨
      ∃ program value, host.Reads source program ∧
        (session.evaluate host.callLimit program store).1 = .ok value ∧
          execution = ⟨program, [], some value⟩ := by
  rcases reads_cases host source with noRoom | ⟨program, problems, refused⟩ | ⟨program, read⟩
  · rw [execute_of_noRoom session noRoom] at executed
    cases executed
  · rw [execute_of_refused session refused] at executed
    cases executed
    exact .inl ⟨program, problems, refused, rfl⟩
  · rw [execute_of_read session read] at executed
    cases ended : (session.evaluate host.callLimit program store).1 with
    | error escape =>
        rw [ended] at executed
        cases executed
    | ok value =>
        rw [ended] at executed
        cases executed
        exact .inr ⟨program, value, read, ended, rfl⟩

/-- Every outcome of a text has problems or a result. -/
theorem answered_execute {execution : Execution} {store : Store}
    (executed : (session.execute host source store).1 = .ok execution) :
    execution.value = none → execution.problems ≠ [] := by
  rcases cases_of_execute_eq_ok executed with
    ⟨program, problems, refused, rfl⟩ | ⟨program, value, read, ended, rfl⟩
  · exact fun _ => refused.given
  · exact nofun

/--
What the evaluation of every program that the text can be read as keeps of the store, and what it
gives, goes for executing the text as well.
-/
theorem execute_keeps (Keeps : Store → Prop) (Gives : Value → Prop) {store : Store}
    (begins : Keeps store)
    (evaluates : ∀ program, host.Reads source program →
      Keeps (session.evaluate host.callLimit program store).2 ∧
        ∀ value, (session.evaluate host.callLimit program store).1 = .ok value → Gives value) :
    Keeps (session.execute host source store).2.2 ∧
      ∀ execution, (session.execute host source store).1 = .ok execution →
        ∀ value ∈ execution.value, Gives value := by
  constructor
  · rcases reads_cases host source with noRoom | ⟨program, problems, refused⟩ | ⟨program, read⟩
    · rw [execute_of_noRoom session noRoom]
      exact begins
    · rw [execute_of_refused session refused]
      exact begins
    · rw [execute_of_read session read]
      exact (evaluates program read).1
  · intro execution executed value given
    rcases cases_of_execute_eq_ok executed with
      ⟨program, problems, refused, rfl⟩ | ⟨program, result, read, ended, rfl⟩
    · cases given
    · cases given
      exact (evaluates program read).2 value ended

/-- A session is left with a text noted and nothing else. -/
theorem execute_session (session : Session) (host : Host) (source : String) (store : Store) :
    (session.execute host source store).2.1 = session.note source := by
  rcases reads_cases host source with noRoom | ⟨program, problems, refused⟩ | ⟨program, read⟩
  · rw [execute_of_noRoom session noRoom]
  · rw [execute_of_refused session refused]
  · rw [execute_of_read session read]

theorem execute_root (session : Session) (host : Host) (source : String) (store : Store) :
    (session.execute host source store).2.1.root = session.root := by
  rw [execute_session, note_root]

/-- The evaluation of a program goes by its root alone. -/
theorem evaluate_congr (root : session.root = other.root) (limit : Nat) (program : Program)
    (store : Store) :
    session.evaluate limit program store = other.evaluate limit program store := by
  unfold evaluate
  rw [root]

/-- What a text does goes by the root of the session alone. -/
theorem execute_congr (root : session.root = other.root) (host : Host) (source : String)
    (store : Store) :
    (session.execute host source store).1 = (other.execute host source store).1 ∧
      (session.execute host source store).2.2 = (other.execute host source store).2.2 := by
  rcases reads_cases host source with noRoom | ⟨program, problems, refused⟩ | ⟨program, read⟩
  · rw [execute_of_noRoom session noRoom, execute_of_noRoom other noRoom]
    exact ⟨rfl, rfl⟩
  · rw [execute_of_refused session refused, execute_of_refused other refused]
    exact ⟨rfl, rfl⟩
  · rw [execute_of_read session read, execute_of_read other read, evaluate_congr root]
    exact ⟨rfl, rfl⟩

/-- An answer is the result of the evaluation, or tells that it ran out of nested calls. -/
theorem eq_of_answer_eq_ok {ended : Except Halt Value} {value : Value}
    (answered : answer ended = .ok value) :
    ended = .ok value ∨ ended = .error .depthExceeded ∧ value = .error .depthExceeded := by
  cases ended with
  | ok result =>
      cases answered
      exact .inl rfl
  | error reason =>
      cases reason <;> cases answered
      exact .inr ⟨rfl, rfl⟩

/-! ## Texts one after another -/

/-- Executes source texts one after another. -/
def executeAll (session : Session) (host : Host) :
    List String → Store → List (Except Escape Execution) × Session × Store
  | [], store => ([], session, store)
  | source :: rest, store =>
      let first := session.execute host source store
      let others := first.2.1.executeAll host rest first.2.2
      (first.1 :: others.1, others.2)

/-- What every text keeps of a session and gives, any number of texts keeps and gives. -/
theorem executeAll_keeps (Keeps : Session → Store → Prop) (Gives : Execution → Prop)
    (executes : ∀ session store source, Keeps session store →
      let after := session.execute host source store
      Keeps after.2.1 after.2.2 ∧ ∀ execution, after.1 = .ok execution → Gives execution)
    {store : Store} (begins : Keeps session store) (sources : List String) :
    let after := session.executeAll host sources store
    Keeps after.2.1 after.2.2 ∧ ∀ execution, .ok execution ∈ after.1 → Gives execution := by
  induction sources generalizing session store with
  | nil => exact ⟨begins, fun _ => nofun⟩
  | cons source rest induction =>
      rcases executes session store source begins with ⟨kept, gives⟩
      rcases induction kept with ⟨last, others⟩
      refine ⟨last, fun execution member => ?_⟩
      rcases List.mem_cons.mp member with first | later
      · exact gives execution first.symm
      · exact others execution later

/-- Executes source texts one after another in a session that begins in an empty environment. -/
def executeFresh (host : Host) (keepsHistory : Bool) (sources : List String) :
    List (Except Escape Execution) × Session × Store :=
  (start keepsHistory .empty).1.executeAll host sources (start keepsHistory .empty).2

end Session

end Jet
