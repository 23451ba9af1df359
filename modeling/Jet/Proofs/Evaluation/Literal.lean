import Jet.Evaluation
import Jet.Proofs.Evaluation.Steps
import Jet.Proofs.Value.Clean
import Mathlib.Algebra.Group.Nat.Defs

/-!
# Literals of data

Data are the values that can be written down: integers that are not too long, truth values, null,
arrays of data, and hashes of data with integers, truth values and null as keys, each key once.  The
literal of a datum is an expression that makes it: negative integers take an operator, arrays and
hashes are made of the literals of what is inside.

Wherever a literal is evaluated, it gives the datum again, but for the stamps that tell arrays and
hashes apart, and changes nothing in the scopes.
-/

namespace Jet

/-! ## Structure -/

mutual

/-- A value with the same stamp everywhere, so that only its structure is left. -/
def Value.bare : Value → Value
  | .function _ parameters body scope => .function 0 parameters body scope
  | .array _ elements => .array 0 (bareValues elements)
  | .hash _ entries => .hash 0 (bareEntries entries)
  | .returned value => .returned value.bare
  | value => value

/-- The structure of some values. -/
def bareValues : List Value → List Value
  | [] => []
  | value :: rest => value.bare :: bareValues rest

/-- The structure of an entry. -/
def Entry.bare : Entry → Entry
  | .mk key shown value => .mk key shown.bare value.bare

/-- The structure of some entries. -/
def bareEntries : List Entry → List Entry
  | [] => []
  | entry :: rest => entry.bare :: bareEntries rest

end

mutual

/-- The expression that makes a datum. -/
def Value.literal : Value → Expr
  | .integer (.ofNat number) => .integer number
  | .integer (.negSucc number) => .unary "-" (.integer (number + 1))
  | .boolean value => .boolean value
  | .array _ elements => .array (literals elements)
  | .hash _ entries => .hash (literalPairs entries)
  | _ => .null

/-- The expressions that make some data. -/
def literals : List Value → List Expr
  | [] => []
  | value :: rest => value.literal :: literals rest

/-- The expressions that make the key and the value of an entry. -/
def Entry.literalPair : Entry → Expr × Expr
  | .mk _ shown value => (shown.literal, value.literal)

/-- The pairs of expressions that make some entries. -/
def literalPairs : List Entry → List (Expr × Expr)
  | [] => []
  | entry :: rest => entry.literalPair :: literalPairs rest

end

namespace Value

/-- Whether a value may be the key of an entry of a datum. -/
def isDatumKey : Value → Bool
  | .integer _ | .boolean _ | .null => true
  | _ => false

/-- What is asked of one value among data, apart from the values inside. -/
def IsDatum : Value → Prop
  | .integer value => value.natAbs < 10 ^ digitLimit
  | .boolean _ | .null | .array .. => True
  | .hash _ entries =>
      (∀ entry ∈ entries, entry.shown.isDatumKey = true ∧ entry.shown.key? = some entry.key) ∧
        (entries.map Entry.key).Nodup
  | _ => False

instance : DecidablePred IsDatum
  | .integer value => inferInstanceAs (Decidable (value.natAbs < 10 ^ digitLimit))
  | .boolean _ | .null | .array .. => .isTrue trivial
  | .hash _ entries => inferInstanceAs (Decidable (
      (∀ entry ∈ entries, entry.shown.isDatumKey = true ∧ entry.shown.key? = some entry.key) ∧
        (entries.map Entry.key).Nodup))
  | .float _ | .string _ | .function .. | .builtin _ | .returned _ | .error _ => .isFalse nofun

/-- Whether a value and all values inside of it are data. -/
abbrev IsData : Value → Prop :=
  Obeys children IsDatum

/-- A value that was checked down to what is innermost is data. -/
theorem isData_of_check {value : Value} (depth : Nat)
    (checked : check children (fun inner => decide inner.IsDatum) depth value = true) :
    value.IsData :=
  (obeys_of_check checked).mono fun _ => of_decide_eq_true

/-- The values that a value is made of are smaller than the value. -/
theorem sizeOf_lt_of_mem_children {child whole : Value}
    (member : child ∈ whole.children) :
    sizeOf child < sizeOf whole := by
  unfold children at member
  split at member
  · have smaller := List.sizeOf_lt_of_mem member
    simp only [array.sizeOf_spec]
    omega
  · rcases List.mem_flatMap.mp member with ⟨⟨key, shown, value⟩, inside, member⟩
    have smaller := List.sizeOf_lt_of_mem inside
    simp only [Entry.mk.sizeOf_spec] at smaller
    simp only [Entry.shown, Entry.value, List.mem_cons, List.not_mem_nil, or_false] at member
    rcases member with rfl | rfl <;> simp only [hash.sizeOf_spec] <;> omega
  · cases List.mem_singleton.mp member
    simp +arith
  · cases member

/-- What holds of a value as soon as it holds of the values inside holds of every value. -/
theorem induction {motive : Value → Prop}
    (step : ∀ whole, (∀ child ∈ whole.children, motive child) → motive whole) (whole : Value) :
    motive whole :=
  step whole fun child _ => induction step child
termination_by sizeOf whole
decreasing_by
  rename_i member
  exact sizeOf_lt_of_mem_children member

/-- Values of the same structure are both signals or both not. -/
theorem isSignal_of_bare_eq {value other : Value}
    (same : value.bare = other.bare) :
    value.isSignal = other.isSignal := by
  have structural (value : Value) : value.bare.isSignal = value.isSignal := by
    cases value <;> rw [bare] <;> first | rfl | exact nofun
  rw [← structural value, same, structural other]

/-- The key of a value goes by its structure. -/
theorem key?_of_bare_eq {value other : Value}
    (same : value.bare = other.bare) :
    value.key? = other.key? := by
  have structural (value : Value) : value.bare.key? = value.key? := by
    cases value <;> rw [bare] <;> first | rfl | exact nofun
  rw [← structural value, same, structural other]

theorem IsDatum.isSignal {value : Value}
    (datum : value.IsDatum) :
    value.isSignal = false := by
  cases value with
  | returned | error => cases datum
  | _ => rfl

end Value

/-! ## Evaluation of literals -/

/-- Whether a run ends with a good result and leaves all scopes as they are. -/
def Makes {α : Type} (good : α → Prop) (store : Store) (run : Computation α) : Prop :=
  ∃ value stamp, run store = (.ok value, ⟨store.scopes, stamp⟩) ∧ good value

namespace Makes

variable {α β : Type} {good : α → Prop} {goodNext : β → Prop} {store : Store}

theorem pure {value : α}
    (holds : good value) :
    Makes good store (Pure.pure value) :=
  ⟨value, store.nextStamp, rfl, holds⟩

theorem freshStamp : Makes (fun _ => True) store Computation.freshStamp :=
  ⟨store.nextStamp, store.nextStamp + 1, rfl, trivial⟩

/-- What follows a run starts with the same scopes. -/
theorem bind {first : Computation α} {next : α → Computation β}
    (makes : Makes good store first)
    (later : ∀ value stamp, good value → Makes goodNext ⟨store.scopes, stamp⟩ (next value)) :
    Makes goodNext store (first >>= next) := by
  rcases makes with ⟨value, stamp, run, holds⟩
  rcases later value stamp holds with ⟨result, last, goesOn, resultHolds⟩
  exact ⟨result, last, (Computation.bind_of_ok run next).trans goesOn, resultHolds⟩

end Makes

/-- Whether the literal of a value makes a value of the same structure wherever it is evaluated. -/
def Value.IsMade (call : Call) (scope : Nat) (value : Value) : Prop :=
  ∀ store : Store, Makes (fun made => made.bare = value.bare) store
    (value.literal.evaluate call scope)

section

variable {call : Call} {scope : Nat} {store : Store}

theorem Makes.evaluateAll {elements : List Value}
    (noSignal : ∀ element ∈ elements, element.isSignal = false)
    (each : ∀ element ∈ elements, element.IsMade call scope) :
    Makes (fun gathered => ∃ values, gathered = .ok values ∧
      bareValues values = bareValues elements) store
        (Jet.evaluateAll call (literals elements) scope) := by
  induction elements generalizing store with
  | nil => exact .pure ⟨[], rfl, rfl⟩
  | cons element rest induction =>
      rw [List.forall_mem_cons] at noSignal each
      rw [literals, Jet.evaluateAll]
      refine .bind (each.1 store) fun made stamp same => ?_
      rw [Value.isSignal_of_bare_eq same, noSignal.1, if_neg Bool.false_ne_true]
      refine .bind (induction noSignal.2 each.2) fun gathered stamp => ?_
      rintro ⟨values, rfl, others⟩
      exact .pure ⟨made :: values, rfl, by rw [bareValues, bareValues, same, others]⟩

theorem Makes.evaluatePairs {entries earlier : List Entry}
    (keys : ∀ entry ∈ entries, entry.shown.key? = some entry.key)
    (distinct : ((earlier ++ entries).map Entry.key).Nodup)
    (noSignal : ∀ entry ∈ entries, entry.shown.isSignal = false ∧ entry.value.isSignal = false)
    (each : ∀ entry ∈ entries, entry.shown.IsMade call scope ∧ entry.value.IsMade call scope) :
    Makes (fun gathered => ∃ made, gathered = .ok (earlier ++ made) ∧
      bareEntries made = bareEntries entries) store
        (Jet.evaluatePairs call (literalPairs entries) earlier scope) := by
  induction entries generalizing store earlier with
  | nil => exact .pure ⟨[], by rw [List.append_nil], rfl⟩
  | cons entry rest induction =>
      rcases entry with ⟨key, shown, value⟩
      rw [List.forall_mem_cons] at keys noSignal each
      have fresh : key ∉ earlier.map Entry.key := by
        rw [List.map_append, List.map_cons] at distinct
        exact fun member => (List.nodup_append.mp distinct).2.2 key member key List.mem_cons_self rfl
      rw [literalPairs, Entry.literalPair, Jet.evaluatePairs]
      refine .bind (each.1.1 store) fun madeKey stamp sameKey => ?_
      rw [Value.isSignal_of_bare_eq sameKey, noSignal.1.1, if_neg Bool.false_ne_true,
        Value.key?_of_bare_eq sameKey, keys.1]
      refine .bind (each.1.2 _) fun made stamp same => ?_
      rw [Value.isSignal_of_bare_eq same, noSignal.1.2, if_neg Bool.false_ne_true,
        Entry.insert_of_not_mem fresh]
      -- The entry went behind the earlier ones, so the rest is added behind it.
      have moved : (earlier ++ [Entry.mk key madeKey made] ++ rest).map Entry.key =
          (earlier ++ Entry.mk key shown value :: rest).map Entry.key := by
        simp only [List.map_append, List.map_cons, List.append_assoc, Entry.key,
          List.cons_append, List.nil_append]
      rcases induction keys.2 (moved ▸ distinct) noSignal.2 each.2 with
        ⟨_, last, run, entries, rfl, others⟩
      refine ⟨_, last, run, Entry.mk key madeKey made :: entries, ?_, ?_⟩
      · rw [List.append_assoc, List.cons_append, List.nil_append]
      · rw [bareEntries, bareEntries, Entry.bare, Entry.bare, sameKey, same, others]
        rfl

/-- The literal of a datum makes the datum again, wherever it is evaluated. -/
theorem Value.IsData.isMade {value : Value}
    (data : value.IsData) (call : Call) (scope : Nat) :
    value.IsMade call scope := by
  induction value using Value.induction with
  | step whole induction =>
      have each (child : Value) (member : child ∈ whole.children) : child.IsMade call scope :=
        induction child member (data.child member)
      have noSignal (child : Value) (member : child ∈ whole.children) : child.isSignal = false :=
        (data.child member).holds.isSignal
      have datum := data.holds
      intro store
      cases whole with
      | integer value =>
          cases value with
          | ofNat value => exact .pure rfl
          -- The operator turns the literal into the negative integer.
          | negSucc value => exact ⟨_, _, rfl, rfl⟩
      | boolean | null => exact .pure rfl
      | array stamp elements =>
          rw [literal, Expr.evaluate]
          refine .bind (.evaluateAll noSignal each) fun gathered stamp => ?_
          rintro ⟨values, rfl, same⟩
          refine .bind .freshStamp fun stamp _ _ => .pure ?_
          rw [bare, bare, same]
      | hash stamp entries =>
          have keys (entry : Entry) (member : entry ∈ entries) := (datum.1 entry member).2
          have noSignals := forall_mem_children_hash.mp noSignal
          have parts := forall_mem_children_hash.mp each
          rw [literal, Expr.evaluate]
          refine .bind (.evaluatePairs keys datum.2 noSignals parts) fun gathered stamp => ?_
          rintro ⟨made, rfl, same⟩
          refine .bind .freshStamp fun stamp _ _ => .pure ?_
          rw [List.nil_append, bare, bare, same]
      | _ => cases datum

end

end Jet
