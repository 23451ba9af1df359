import Jet.Proofs.Evaluation.Coverage
import Jet.Proofs.Session.Sequence

/-!
# What a session never refuses

Whatever is read from a text has operators of the language only, also if parts of the text are given
up.  So all functions that a session makes from its texts know their operators, and so do those that
later texts call.  No result of a session is ever an error for an operator between two integers or
two numbers, and none is an error for a tree that cannot be evaluated.
-/

namespace Jet

/-! ## Messages -/

namespace Fault

variable {fault : Fault}

/-- Only what an operator is not known for is called unknown, and whatever a fault states itself. -/
theorem cases_of_message_unknown
    (begins : "unknown ".toList <+: fault.message.toList) :
    (∃ left operator right, fault = .unknownBinary left operator right) ∨
      (∃ operator operand, fault = .unknownUnary operator operand) ∨
        ∃ message, fault = .stated message := by
  unfold message at begins
  cases fault with
  | unknownBinary left operator right => exact .inl ⟨left, operator, right, rfl⟩
  | unknownUnary operator operand => exact .inr (.inl ⟨operator, operand, rfl⟩)
  | stated message => exact .inr (.inr ⟨message, rfl⟩)
  | _ => simp at begins

/-- An expected fault blames no operator for two integers or two numbers, and no tree. -/
theorem IsExpected.message_ne
    (expected : fault.IsExpected) (text : String) :
    fault.message ≠ "unknown operator: INTEGER " ++ text ++ " INTEGER" ∧
      fault.message ≠ "unknown operator: FLOAT " ++ text ++ " FLOAT" ∧
        fault.message ≠ "unknown node: " ++ text := by
  have apart {message other : String} (differ : message.toList ≠ other.toList) : message ≠ other :=
    fun same => differ (congrArg String.toList same)
  by_cases begins : "unknown ".toList <+: fault.message.toList
  · rcases cases_of_message_unknown begins with
      ⟨left, operator, right, rfl⟩ | ⟨operator, operand, rfl⟩ | ⟨message, rfl⟩
    · rcases expected with ⟨noInteger, noFloat⟩
      unfold message
      cases left with
      | integer => exact absurd rfl noInteger
      | float => exact absurd rfl noFloat
      | _ => refine ⟨apart ?_, apart ?_, apart ?_⟩ <;> simp [operation, ValueKind.name]
    · have known : operator ∈ unaryOperators := expected
      simp only [unaryOperators, List.mem_cons, List.not_mem_nil, or_false] at known
      unfold message
      rcases known with rfl | rfl <;> refine ⟨apart ?_, apart ?_, apart ?_⟩ <;> simp
    · exact False.elim expected
  · refine ⟨fun same => begins ?_, fun same => begins ?_, fun same => begins ?_⟩ <;>
      rw [same] <;> simp

end Fault

/-! ## Sessions -/

/-- Whatever is read from a text has operators of the language only. -/
theorem hasKnownOperator_of_parseSource {source : String} {reading : Reading}
    (parsed : parseSource source = .ok reading) :
    Part.Obeys Part.HasKnownOperator (.block reading.program.statements) :=
  (isTextual_of_parseSource parsed).mono fun _ => Part.IsTextual.hasKnownOperator

namespace Session

variable {session : Session} {host : Host} {store : Store}

/-- The evaluation of a program that knows its operators keeps everything covered. -/
theorem covers_evaluate {program : Program}
    (binds : store.BindsOnly Value.IsCovered)
    (known : Part.Obeys Part.HasKnownOperator (.block program.statements)) (limit : Nat) :
    (session.evaluate limit program store).2.BindsOnly Value.IsCovered ∧
      ∀ value, (session.evaluate limit program store).1 = .ok value → value.IsExpected := by
  rcases Program.run_covers known session.root limit store binds with ⟨kept, expected⟩
  refine ⟨kept, fun value answered => ?_⟩
  rcases eq_of_answer_eq_ok answered with ended | ⟨_, rfl⟩
  · exact expected _ ended
  · trivial

/-- Executing a text keeps everything covered, and its result is as expected. -/
theorem covers_execute
    (binds : store.BindsOnly Value.IsCovered) (source : String) :
    (session.execute host source store).2.2.BindsOnly Value.IsCovered ∧
      ∀ execution, (session.execute host source store).1 = .ok execution →
        ∀ value ∈ execution.value, value.IsExpected :=
  execute_keeps (Store.BindsOnly Value.IsCovered) Value.IsExpected binds fun _ read =>
    covers_evaluate binds (hasKnownOperator_of_parseSource read.parsed) host.callLimit

/-- The same holds of any number of texts. -/
theorem covers_executeAll
    (binds : store.BindsOnly Value.IsCovered) (sources : List String) :
    ∀ execution, .ok execution ∈ (session.executeAll host sources store).1 →
      ∀ value ∈ execution.value, value.IsExpected :=
  (executeAll_keeps (fun _ store => store.BindsOnly Value.IsCovered)
    (fun execution => ∀ value ∈ execution.value, value.IsExpected)
    (fun _ _ source kept => covers_execute kept source) binds sources).2

end Session

/--
Every text has a reading, and whatever problems there are, the trees in it have only names that are
words and no keywords, integer literals that are not negative and can be shown, operators of the
language, and no bare blocks.  Therefore no result of any texts that a session executes is an error
that blames an operator for two integers or two numbers, or a tree that cannot be evaluated.
-/
theorem parseSource_covers :
    (∀ source, ∃ reading, parseSource source = .ok reading ∧
      Part.Obeys Part.IsTextual (.block reading.program.statements) ∧
        Part.Obeys Part.HasKnownOperator (.block reading.program.statements)) ∧
    (∀ (host : Host) (keepsHistory : Bool) (sources : List String) (execution : Execution),
      .ok execution ∈ (Session.executeFresh host keepsHistory sources).1 →
        ∀ fault, execution.value = some (.error fault) → ∀ text : String,
          fault.message ≠ "unknown operator: INTEGER " ++ text ++ " INTEGER" ∧
            fault.message ≠ "unknown operator: FLOAT " ++ text ++ " FLOAT" ∧
              fault.message ≠ "unknown node: " ++ text) := by
  constructor
  · intro source
    rcases parseSource_eq_ok source with ⟨reading, parsed⟩
    exact ⟨reading, parsed, isTextual_of_parseSource parsed, hasKnownOperator_of_parseSource parsed⟩
  · intro host keepsHistory sources execution member fault failed text
    have empty : (Session.start keepsHistory .empty).2.BindsOnly Value.IsCovered := by
      refine Store.BindsOnly.openScope (fun id scope found => ?_) none
      cases found
    have expected := Session.covers_executeAll empty sources execution member _ failed
    exact Fault.IsExpected.message_ne expected text

/-- An operator may be unknown for what it is applied to, but only for what is no number. -/
theorem parseSource_covers_negated :
    ∃ execution, .ok execution ∈ (Session.executeFresh (.ample 200) false ["-null"]).1 ∧
      execution.value = some (.error (.unknownUnary "-" .null)) ∧
        (Fault.unknownUnary "-" .null).message ≠
          "unknown operator: INTEGER " ++ "-" ++ " INTEGER" := by
  have read : (Host.ample 200).Reads "-null" ⟨[.expression (.unary "-" .null)]⟩ := ⟨rfl, rfl⟩
  have runs (call : Call) (store : Store) :
      evaluateStatements call [.expression (.unary "-" .null)] .null 0 store =
        (.ok (.error (.unknownUnary "-" .null)), store) := rfl
  have executed := Session.execute_of_runs (Session.start false .empty).1 read fun call =>
    runs call (Session.start false .empty).2
  have member :
      .ok ⟨⟨[.expression (.unary "-" .null)]⟩, [], some (.error (.unknownUnary "-" .null))⟩ ∈
        (Session.executeFresh (.ample 200) false ["-null"]).1 := by
    rw [Session.executeFresh, Session.executeAll, executed]
    exact List.mem_cons_self
  exact ⟨_, member, rfl, (parseSource_covers.2 (.ample 200) false ["-null"] _ member _ rfl "-").1⟩

end Jet
