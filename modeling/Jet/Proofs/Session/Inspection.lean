import Jet.Proofs.Evaluation.Literal
import Jet.Proofs.Grammar.Stability
import Jet.Proofs.Session.Sequence

/-!
# Shown data read back

The text that a datum is shown by is a source text for it.  Digits, truth values and null stand for
themselves, a minus in front of digits is the operator, and the brackets, braces, colons and commas
of shown arrays and hashes are those of literals; braces that begin a statement begin a hash.  So
the text is read as the literal of the datum, unless it is nested too deeply, and a session that
executes it gets the datum back and is otherwise left alone.
-/

namespace Jet

/-! ## Texts of data -/

/-- The numeral of a number that fits is read as the number. -/
theorem isReadAs_repr {number : Nat}
    (fits : number < 10 ^ digitLimit) :
    IsReadAs number.repr.toList (WritesClosed (.integer number)) := by
  have shown : IsLiteralValue number := ⟨Int.natCast_nonneg number, by rwa [Int.natAbs_natCast]⟩
  have read := Part.IsStable.integer shown
  have text : (Expr.integer number).text = number.repr := by
    rw [Expr.text]
    rfl
  rwa [Part.IsStable, text] at read

/-- The text of an integer is a numeral, with a minus in front if the integer is negative. -/
theorem Finds.integer {value : Int}
    (fits : value.natAbs < 10 ^ digitLimit) :
    Finds (toString value).toList (WritesExpression (Value.integer value).literal) := by
  cases value with
  | ofNat number => exact (isReadAs_repr fits).finds.writesExpression
  | negSucc number =>
      have read := isReadAs_repr fits
      rcases read.opens with ⟨char, rest, equal, opens⟩
      have apart : endsSymbol (number + 1).repr.toList = true :=
        equal ▸ endsSymbol_of_opensExpression opens rest
      have text : (toString (Int.negSucc number)).toList =
          "-".toList ++ (number + 1).repr.toList := String.toList_append
      have minus : Kind.minus.symbol? = some "-" := rfl
      rw [text]
      exact .unary rfl minus apart read.finds

theorem forall₂_displayAll {elements : List Value}
    (each : ∀ element ∈ elements,
      Finds element.display.toList (WritesExpression element.literal)) :
    List.Forall₂ (fun text tree => Finds text.toList (WritesExpression tree))
      (displayAll elements) (literals elements) := by
  induction elements with
  | nil => exact .nil
  | cons element rest induction =>
      rw [List.forall_mem_cons] at each
      exact .cons each.1 (induction each.2)

theorem forall₂_displayEntries {entries : List Entry}
    (each : ∀ entry ∈ entries,
      Finds entry.shown.display.toList (WritesExpression entry.shown.literal) ∧
        Finds entry.value.display.toList (WritesExpression entry.value.literal)) :
    List.Forall₂ (fun text pair => Finds text.toList (WritesPair pair))
      (displayEntries entries) (literalPairs entries) := by
  induction entries with
  | nil => exact .nil
  | cons entry rest induction =>
      rcases entry with ⟨key, shown, value⟩
      rw [List.forall_mem_cons] at each
      exact .cons (.pair each.1.1 each.1.2) (induction each.2)

/-- The text of a datum is read as its literal. -/
theorem Value.IsData.findsDisplay {value : Value}
    (data : value.IsData) :
    Finds value.display.toList (WritesExpression value.literal) := by
  induction value using Value.induction with
  | step whole induction =>
      have each (child : Value) (member : child ∈ whole.children) :
          Finds child.display.toList (WritesExpression child.literal) :=
        induction child member (data.child member)
      have datum := data.holds
      cases whole with
      | integer value => exact .integer datum
      | boolean value =>
          cases value <;> exact (Part.IsStable.boolean _).finds.writesExpression
      | null => exact Part.IsStable.null.finds.writesExpression
      | array stamp elements =>
          have text : (array stamp elements).display.toList =
              '[' :: ((joinWith ", " (displayAll elements)).toList ++ [']']) := by
            change ("[" ++ joinWith ", " (displayAll elements) ++ "]").toList = _
            rw [String.toList_append, String.toList_append, List.append_assoc]
            rfl
          rw [text]
          exact (Finds.array (forall₂_displayAll each)).writesExpression
      | hash stamp entries =>
          have text : (hash stamp entries).display.toList =
              '\x7b' :: ((joinWith ", " (displayEntries entries)).toList ++ ['\x7d']) := by
            change ("\x7b" ++ joinWith ", " (displayEntries entries) ++ "\x7d").toList = _
            rw [String.toList_append, String.toList_append, List.append_assoc]
            rfl
          rw [text]
          have parts := forall₂_displayEntries (forall_mem_children_hash.mp each)
          exact (Finds.hash parts).writesExpression
      | _ => cases datum

/-! ## Programs -/

/-- An expression alone is a program. -/
theorem Finds.program {text : List Char} {tree : Expr}
    (finds : Finds text (WritesExpression tree)) :
    Finds text (Writes (.statements [.expression tree])) := by
  refine finds.mono fun tokens ⟨power, links, nesting, spelled⟩ => ?_
  have apart : Parser.headKind [] ∉ [Kind.leftParen, .leftBracket, .minus] := by decide
  have whole := Spells.someStatements (.expression spelled) (.inr (.inr ⟨rfl, apart⟩)) .noStatements
  rw [List.append_nil] at whole
  exact ⟨_, whole⟩

theorem Value.unwrapped_of_isSignal {value : Value}
    (noSignal : value.isSignal = false) :
    value.unwrapped = value := by
  cases value with
  | returned => cases noSignal
  | _ => rfl

/-- A program of the literal of a datum makes the datum. -/
theorem Value.IsData.run_literal {value : Value}
    (data : value.IsData) (scope limit : Nat) (store : Store) :
    Makes (fun made => made.bare = value.bare) store
      (Program.run ⟨[.expression value.literal]⟩ scope limit) := by
  have noSignal := data.holds.isSignal
  have statements : Makes (fun made => made.bare = value.bare) store
      (evaluateStatements (applyFunction limit) [.expression value.literal] .null scope) := by
    rw [evaluateStatements]
    refine .bind (data.isMade (applyFunction limit) scope store) fun made stamp same => ?_
    rw [Value.isSignal_of_bare_eq same, noSignal, if_neg Bool.false_ne_true]
    exact .pure same
  refine .bind statements fun made stamp same => .pure ?_
  rw [Value.unwrapped_of_isSignal ((Value.isSignal_of_bare_eq same).trans noSignal)]
  exact same

/--
The text that a datum is shown by, given to a session, is read without problems and gives a value of
the same structure; no scope is changed.  All of this holds unless the text is nested too deeply to
be read, or the host has no room for reading it.
-/
theorem execute_display {value : Value}
    (data : value.IsData)
    (shallow : ∀ reading, parseSource value.display = .ok reading →
      ∀ problem ∈ reading.problems, problem.cause ≠ .nestedTooDeeply)
    {host : Host} (room : host.room.reads value.display = true) (session : Session)
    (store : Store) :
    ∃ made stamp, made.bare = value.bare ∧ session.execute host value.display store =
      (.ok ⟨⟨[.expression value.literal]⟩, [], some made⟩, session.note value.display,
        ⟨store.scopes, stamp⟩) := by
  have read : host.Reads value.display ⟨[.expression value.literal]⟩ :=
    ⟨room, parseSource_of_finds data.findsDisplay.program shallow⟩
  rcases data.run_literal session.root host.callLimit store with ⟨made, stamp, run, same⟩
  refine ⟨made, stamp, same, ?_⟩
  rw [Session.execute_of_read session read, Session.evaluate, run]
  rfl

/-- An array with a negative integer and a hash. -/
def Value.mixedArray : Value :=
  .array 5 [.integer (-5), .hash 6 [.mk (.number (.ofInt 1)) (.integer 1) (.boolean true),
    .mk .null .null (.array 7 [])]]

/-- An array that is shown in a session is read back there. -/
theorem execute_display_mixedArray :
    Value.mixedArray.IsData ∧ Value.mixedArray.display = "[-5, \x7b1: true, null: []\x7d]" ∧
      ∃ made stamp, made.bare = Value.mixedArray.bare ∧
        (Session.mk 0 false []).execute (.ample 200) Value.mixedArray.display Store.initial =
          (.ok ⟨⟨[.expression Value.mixedArray.literal]⟩, [], some made⟩, ⟨0, false, []⟩,
            ⟨Store.initial.scopes, stamp⟩) := by
  have data : Value.mixedArray.IsData := Value.isData_of_check 4 (by decide +kernel)
  have causes : (parseSource Value.mixedArray.display).toOption.map
      (fun reading => reading.problems.map Problem.cause) = some [] := by cbv
  refine ⟨data, by cbv, execute_display data ?_ rfl ⟨0, false, []⟩ Store.initial⟩
  intro reading read problem member
  rw [read] at causes
  have none := List.map_eq_nil_iff.mp (Option.some.inj causes)
  exact absurd (none ▸ member) List.not_mem_nil

end Jet
