import Jet.Proofs.Evaluation.Hygiene
import Jet.Proofs.Session.Execution
import Jet.Proofs.Value.DigitLimit

/-!
# Integers that can be shown

An integer of a session never has more decimal digits than can be shown.  Literals have few enough
when they are read, sums, differences and products are refused if they have too many, and quotients,
remainders, negations and lengths cannot get there.  So the bound is a rule for integers that
everything keeps, and by hygiene it holds of all that a session gives back or leaves in a scope, in
closures too, after any sequence of source texts.
-/

namespace Jet

/-! ## The bound as a rule -/

/-- Integers that can be shown, and literals that are not negative besides. -/
def IntegerRule.shown : IntegerRule where
  literal := IsLiteralValue
  number value := value.natAbs < 10 ^ digitLimit
  of_literal _ literal := literal.2
  of_length count short := by
    rw [Int.natAbs_natCast]
    calc
      count ≤ 2 ^ 63 - 1 := short
      _ < 2 ^ 63 := by decide
      _ ≤ 10 ^ 63 := Nat.pow_le_pow_left (by decide) 63
      _ ≤ 10 ^ digitLimit := Nat.pow_le_pow_right (by decide) (by decide)
  of_checked _ fits := exceedsDigits_eq_false_iff.mp fits
  neg value below := by rwa [Int.natAbs_neg]
  tdiv left right below := by
    rw [Int.natAbs_tdiv]
    exact Nat.lt_of_le_of_lt (Nat.div_le_self _ _) below
  tmod left right below := by
    rw [Int.natAbs_tmod]
    exact Nat.lt_of_le_of_lt (Nat.mod_le _ _) below

/-- Below the bound are exactly the integers with so many digits. -/
theorem length_repr_le_iff (value : Nat) :
    value.repr.toList.length ≤ digitLimit ↔ value < 10 ^ digitLimit := by
  rw [Nat.toList_repr]
  exact Nat.length_toDigits_le_iff (by decide) (by decide)

/-- Whether all integers inside of a value can be shown, and all literals of its functions. -/
structure Value.IsShowable (value : Value) : Prop where
  integers : ∀ number, Occurs children (.integer number) value →
    number.natAbs < 10 ^ digitLimit ∧ number.natAbs.repr.toList.length ≤ digitLimit
  literals : ∀ stamp parameters body scope,
    Occurs children (.function stamp parameters body scope) value →
    ∀ literal, Part.Occurs (.expression (.integer literal)) (.block body) → IsLiteralValue literal

theorem Value.IsClean.isShowable {value : Value} {count : Nat}
    (clean : value.IsClean .shown count) :
    value.IsShowable := by
  constructor
  · intro number occurs
    have below : number.natAbs < 10 ^ digitLimit := clean _ occurs
    exact ⟨below, (length_repr_le_iff _).mpr below⟩
  · intro stamp parameters body scope occurs literal inside
    exact (clean _ occurs).2 _ inside

theorem Value.IsSettled.isShowable {value : Value} {count : Nat}
    (settled : value.IsSettled .shown count) :
    value.IsShowable := by
  cases value with
  | error fault => exact ⟨fun _ => nofun, fun _ _ _ _ => nofun⟩
  | _ => exact Value.IsClean.isShowable settled

/-! ## Sessions -/

namespace Session

/-- Whether a session has its root in a clean store. -/
structure IsClean (rule : IntegerRule) (session : Session) (store : Store) : Prop where
  scopes : store.IsClean rule
  root : session.root < store.scopes.size

theorem isClean_start (rule : IntegerRule) (keepsHistory : Bool) :
    (start keepsHistory .empty).1.IsClean rule (start keepsHistory .empty).2 := by
  refine ⟨Store.IsClean.openScope ?_ nofun, Nat.zero_lt_one⟩
  intro id scope found
  cases found

/-- The evaluation of an allowed program keeps a session clean. -/
theorem IsClean.evaluate {rule : IntegerRule} {session : Session} {store : Store}
    {program : Program}
    (clean : session.IsClean rule store)
    (allowed : Part.Obeys rule.Allows (.block program.statements)) (limit : Nat) :
    session.IsClean rule (session.evaluate limit program store).2 ∧
      ∀ value, (session.evaluate limit program store).1 = .ok value →
        value.IsSettled rule (session.evaluate limit program store).2.scopes.size := by
  have keeps := Program.run_keeps allowed clean.scopes clean.root limit
  have root := Nat.lt_of_lt_of_le clean.root keeps.extended.grown
  refine ⟨⟨keeps.clean, root⟩, fun value answered => ?_⟩
  rcases eq_of_answer_eq_ok answered with ended | ⟨_, rfl⟩
  · exact keeps.good _ ended
  · trivial

/-- The literals of a text can be shown. -/
theorem obeys_shown_of_parseSource {source : String} {program : Program}
    (parsed : parseSource source = .ok ⟨program, []⟩) :
    Part.Obeys IntegerRule.shown.Allows (.block program.statements) := by
  refine (isTextual_of_parseSource parsed).mono fun part textual => ?_
  unfold IntegerRule.Allows
  split
  · exact textual
  · trivial

/-- Whether an execution ended with a result that is settled in some store, if with any. -/
def IsSettled (rule : IntegerRule) (execution : Execution) : Prop :=
  ∀ value ∈ execution.value, ∃ count, value.IsSettled rule count

/-- Executing a text keeps a session clean, and settles its result. -/
theorem IsClean.execute {session : Session} {store : Store}
    (clean : session.IsClean .shown store) (host : Host) (source : String) :
    (session.execute host source store).2.1.IsClean .shown (session.execute host source store).2.2 ∧
      ∀ execution, (session.execute host source store).1 = .ok execution →
        IsSettled .shown execution := by
  have keeps := execute_keeps (session.IsClean .shown)
    (fun value => ∃ count, value.IsSettled .shown count) clean fun program (read : host.Reads source program) => by
      rcases clean.evaluate (obeys_shown_of_parseSource read.parsed) host.callLimit with
        ⟨kept, settled⟩
      exact ⟨kept, fun value ended => ⟨_, settled value ended⟩⟩
  exact ⟨⟨keeps.1.scopes, (execute_root session host source store).symm ▸ keeps.1.root⟩, keeps.2⟩

/-- The same holds of any number of texts. -/
theorem IsClean.executeAll {session : Session} {store : Store}
    (clean : session.IsClean .shown store) (host : Host) (sources : List String) :
    (session.executeAll host sources store).2.1.IsClean .shown
        (session.executeAll host sources store).2.2 ∧
      ∀ execution, .ok execution ∈ (session.executeAll host sources store).1 →
        IsSettled .shown execution :=
  executeAll_keeps (IsClean .shown) (IsSettled .shown)
    (fun _ _ source kept => kept.execute host source) clean sources

theorem isClean_executeFresh (host : Host) (keepsHistory : Bool) (sources : List String) :
    (executeFresh host keepsHistory sources).2.1.IsClean .shown
        (executeFresh host keepsHistory sources).2.2 ∧
      ∀ execution, .ok execution ∈ (executeFresh host keepsHistory sources).1 →
        IsSettled .shown execution :=
  (isClean_start .shown keepsHistory).executeAll host sources

/--
After any source texts in a session that begins in an empty environment, all results and all that is
bound in any scope can be shown, whatever the host has room for.
-/
theorem isShowable_executeFresh (host : Host) (keepsHistory : Bool) (sources : List String) :
    (∀ execution, .ok execution ∈ (executeFresh host keepsHistory sources).1 →
      ∀ value ∈ execution.value, value.IsShowable) ∧
    ∀ scope ∈ (executeFresh host keepsHistory sources).2.2.scopes,
      ∀ binding ∈ scope.bindings, binding.2.IsShowable := by
  rcases isClean_executeFresh host keepsHistory sources with ⟨clean, settled⟩
  refine ⟨fun execution member value given => ?_, fun scope member binding bound => ?_⟩
  · rcases settled execution member value given with ⟨count, settled⟩
    exact settled.isShowable
  · rcases Array.getElem?_of_mem member with ⟨id, found⟩
    exact ((clean.scopes id scope found).bindings binding bound).isShowable

end Session

end Jet
