import Jet.Builtin
import Jet.Proofs.Tree.Part
import Mathlib.Data.List.Forall2

/-!
# Values in two stores

Two stores may hold the same scopes and values under different numbers, when one of them also serves
other sessions.  A renumbering gives the scope and the stamp of the second store that stand for each
scope and each stamp of the first.  `Value.Matches` says that two values are the same but for these
numbers, at any depth; functions have the same parameters and the same body, and no literal of a body
is a number that is not a number, as such a literal would have the same stamp in both stores.

Matching values are displayed as the same text and are of the same kind, keys match if the values do,
and whether two values are the same or two keys are equal does not depend on the numbers.
-/

namespace Jet

/-! ## Renumberings -/

/-- The numbers in a second store of the scopes and stamps of a first one. -/
structure Renumbering where
  scopes : List Nat
  stamps : List Nat

namespace Renumbering

variable {numbering later : Renumbering}

/-- Whether the order of scopes and stamps is kept, so that no two are taken for one. -/
structure IsIncreasing (numbering : Renumbering) : Prop where
  scopes : numbering.scopes.Pairwise (· < ·)
  stamps : numbering.stamps.Pairwise (· < ·)

/-- Whether a renumbering has the numbers of another and perhaps more. -/
structure Extends (later numbering : Renumbering) : Prop where
  scopes : numbering.scopes <+: later.scopes
  stamps : numbering.stamps <+: later.stamps

/-- A number of a scope or stamp stays when more numbers are added. -/
theorem getElem?_of_prefix {numbers more : List Nat} {index number : Nat}
    (extended : numbers <+: more) (found : numbers[index]? = some number) :
    more[index]? = some number := by
  rcases extended with ⟨rest, rfl⟩
  rw [List.getElem?_append_left (List.getElem?_eq_some_iff.mp found).1, found]

theorem Extends.scope {id otherId : Nat} (extended : later.Extends numbering)
    (known : numbering.scopes[id]? = some otherId) :
    later.scopes[id]? = some otherId :=
  getElem?_of_prefix extended.scopes known

theorem Extends.stamp {stamp other : Nat} (extended : later.Extends numbering)
    (known : numbering.stamps[stamp]? = some other) :
    later.stamps[stamp]? = some other :=
  getElem?_of_prefix extended.stamps known

/-- Equal stamps are renumbered to equal stamps, and only these. -/
theorem IsIncreasing.stamp_eq_iff {stamp other newStamp newOther : Nat}
    (increasing : numbering.IsIncreasing) (first : numbering.stamps[stamp]? = some newStamp)
    (second : numbering.stamps[other]? = some newOther) :
    stamp = other ↔ newStamp = newOther := by
  constructor
  · rintro rfl
    exact Option.some.inj (first.symm.trans second)
  · rintro rfl
    have unique := increasing.stamps.imp Nat.ne_of_lt
    exact (List.getElem?_inj (List.getElem?_eq_some_iff.mp first).1 unique).mp
      (first.trans second.symm)

end Renumbering

/-! ## Values -/

/-- Whether a part of a tree is no literal of a number that is not a number. -/
def Part.IsNumeric : Part → Prop
  | .expression (.float value) => value.isNaN = false
  | _ => True

/-- Whether two keys are the same but for the stamp of a number that is not a number. -/
inductive HashKey.Matches (numbering : Renumbering) : HashKey → HashKey → Prop where
  | stamped {tag other : Nat}
      (stamps : numbering.stamps[tag]? = some other) :
      Matches numbering (.number (.nan tag)) (.number (.nan other))
  | plain (key : HashKey)
      (unstamped : ∀ tag, key ≠ .number (.nan tag)) :
      Matches numbering key key

/-- Whether two doubles are the same but for the stamp of a number that is not a number. -/
inductive Double.Matches (numbering : Renumbering) : Double → Double → Prop where
  | stamped {tag other : Nat}
      (stamps : numbering.stamps[tag]? = some other) :
      Matches numbering (.nan tag) (.nan other)
  | plain (number : Double)
      (isNumber : number.isNaN = false) :
      Matches numbering number number

mutual

/-- Whether two values are the same but for the numbers of scopes and stamps. -/
inductive Value.Matches (numbering : Renumbering) : Value → Value → Prop where
  | integer (value : Int) : Value.Matches numbering (.integer value) (.integer value)
  | float {left right : Double}
      (numbers : left.Matches numbering right) :
      Value.Matches numbering (.float left) (.float right)
  | boolean (value : Bool) : Value.Matches numbering (.boolean value) (.boolean value)
  | string (value : String) : Value.Matches numbering (.string value) (.string value)
  | null : Value.Matches numbering .null .null
  | function {stamp other scope otherScope : Nat} {body : List Stmt}
      (stamps : numbering.stamps[stamp]? = some other)
      (parameters : List String)
      (numeric : Part.Obeys Part.IsNumeric (.block body))
      (scopes : numbering.scopes[scope]? = some otherScope) :
      Value.Matches numbering (.function stamp parameters body scope)
        (.function other parameters body otherScope)
  | builtin (builtin : Builtin) : Value.Matches numbering (.builtin builtin) (.builtin builtin)
  | array {stamp other : Nat} {elements others : List Value}
      (stamps : numbering.stamps[stamp]? = some other)
      (inside : Value.AllMatch numbering elements others) :
      Value.Matches numbering (.array stamp elements) (.array other others)
  | hash {stamp other : Nat} {entries others : List Entry}
      (stamps : numbering.stamps[stamp]? = some other)
      (inside : Entry.AllMatch numbering entries others) :
      Value.Matches numbering (.hash stamp entries) (.hash other others)
  | returned {value other : Value}
      (payload : Value.Matches numbering value other) :
      Value.Matches numbering (.returned value) (.returned other)
  | error (fault : Fault) : Value.Matches numbering (.error fault) (.error fault)

/-- Whether the values of two lists match one by one. -/
inductive Value.AllMatch (numbering : Renumbering) : List Value → List Value → Prop where
  | nil : Value.AllMatch numbering [] []
  | cons {value other : Value} {rest others : List Value}
      (first : Value.Matches numbering value other)
      (behind : Value.AllMatch numbering rest others) :
      Value.AllMatch numbering (value :: rest) (other :: others)

/-- Whether the entries of two lists match one by one. -/
inductive Entry.AllMatch (numbering : Renumbering) : List Entry → List Entry → Prop where
  | nil : Entry.AllMatch numbering [] []
  | cons {key otherKey : HashKey} {shown otherShown value otherValue : Value}
      {rest others : List Entry}
      (keys : key.Matches numbering otherKey)
      (shownKeys : Value.Matches numbering shown otherShown)
      (values : Value.Matches numbering value otherValue)
      (behind : Entry.AllMatch numbering rest others) :
      Entry.AllMatch numbering (.mk key shown value :: rest)
        (.mk otherKey otherShown otherValue :: others)

end

section

variable {numbering later : Renumbering}

theorem HashKey.Matches.mono {key other : HashKey} (extended : later.Extends numbering)
    (keys : key.Matches numbering other) :
    key.Matches later other := by
  cases keys with
  | stamped stamps => exact .stamped (extended.stamp stamps)
  | plain key unstamped => exact .plain key unstamped

theorem Double.Matches.mono {number other : Double} (extended : later.Extends numbering)
    (numbers : number.Matches numbering other) :
    number.Matches later other := by
  cases numbers with
  | stamped stamps => exact .stamped (extended.stamp stamps)
  | plain number isNumber => exact .plain number isNumber

mutual

/-- What matches still does when more numbers are added. -/
theorem Value.Matches.mono (extended : later.Extends numbering) {value other : Value} :
    value.Matches numbering other → value.Matches later other
  | .integer value => .integer value
  | .float numbers => .float (numbers.mono extended)
  | .boolean value => .boolean value
  | .string value => .string value
  | .null => .null
  | .function stamps parameters numeric scopes =>
      .function (extended.stamp stamps) parameters numeric
        (extended.scope scopes)
  | .builtin builtin => .builtin builtin
  | .array stamps inside =>
      .array (extended.stamp stamps)
        (Value.AllMatch.mono extended inside)
  | .hash stamps inside =>
      .hash (extended.stamp stamps)
        (Entry.AllMatch.mono extended inside)
  | .returned payload => .returned (Value.Matches.mono extended payload)
  | .error fault => .error fault

theorem Value.AllMatch.mono (extended : later.Extends numbering) {values others : List Value} :
    Value.AllMatch numbering values others → Value.AllMatch later values others
  | .nil => .nil
  | .cons first behind =>
      .cons (Value.Matches.mono extended first) (Value.AllMatch.mono extended behind)

theorem Entry.AllMatch.mono (extended : later.Extends numbering) {entries others : List Entry} :
    Entry.AllMatch numbering entries others → Entry.AllMatch later entries others
  | .nil => .nil
  | .cons keys shownKeys values behind =>
      .cons (keys.mono extended) (Value.Matches.mono extended shownKeys)
        (Value.Matches.mono extended values) (Entry.AllMatch.mono extended behind)

end

theorem Double.Matches.text {number other : Double} (numbers : number.Matches numbering other) :
    number.text = other.text := by
  cases numbers <;> rfl

mutual

/-- What matches is displayed as the same text. -/
theorem Value.Matches.display {value other : Value} :
    value.Matches numbering other → value.display = other.display
  | .integer _ | .boolean _ | .string _ | .null | .builtin _ | .error _ | .function .. => rfl
  | .float numbers => numbers.text
  | .array _ inside => by
      rw [Value.display, Value.display, Value.AllMatch.display inside]
  | .hash _ inside => by
      rw [Value.display, Value.display, Entry.AllMatch.display inside]
  | .returned payload => by
      rw [Value.display, Value.display, Value.Matches.display payload]

theorem Value.AllMatch.display {values others : List Value} :
    Value.AllMatch numbering values others → displayAll values = displayAll others
  | .nil => rfl
  | .cons first behind => by
      rw [displayAll, displayAll, Value.Matches.display first, Value.AllMatch.display behind]

theorem Entry.AllMatch.display {entries others : List Entry} :
    Entry.AllMatch numbering entries others → displayEntries entries = displayEntries others
  | .nil => rfl
  | .cons _ shownKeys values behind => by
      rw [displayEntries, displayEntries, Entry.display, Entry.display,
        Value.Matches.display shownKeys, Value.Matches.display values,
        Entry.AllMatch.display behind]

end

/-! ### Lists -/

theorem Value.allMatch_iff {values others : List Value} :
    Value.AllMatch numbering values others ↔ List.Forall₂ (Value.Matches numbering) values others := by
  induction values generalizing others with
  | nil => exact ⟨fun | .nil => .nil, fun | .nil => .nil⟩
  | cons value rest induction =>
      constructor
      · rintro (_ | ⟨first, behind⟩)
        exact .cons first (induction.mp behind)
      · rintro (_ | ⟨first, behind⟩)
        exact .cons first (induction.mpr behind)

/-- Two entries match if their keys, shown keys and values do. -/
structure Entry.Matches (numbering : Renumbering) (entry other : Entry) : Prop where
  keys : entry.key.Matches numbering other.key
  shown : entry.shown.Matches numbering other.shown
  values : entry.value.Matches numbering other.value

theorem Entry.Matches.mono {entry other : Entry} (extended : later.Extends numbering)
    (matched : entry.Matches numbering other) :
    entry.Matches later other :=
  ⟨matched.keys.mono extended, matched.shown.mono extended, matched.values.mono extended⟩

theorem Entry.allMatch_iff {entries others : List Entry} :
    Entry.AllMatch numbering entries others ↔
      List.Forall₂ (Entry.Matches numbering) entries others := by
  induction entries generalizing others with
  | nil => exact ⟨fun | .nil => .nil, fun | .nil => .nil⟩
  | cons entry rest induction =>
      constructor
      · rintro (_ | ⟨keys, shownKeys, values, behind⟩)
        exact .cons ⟨keys, shownKeys, values⟩ (induction.mp behind)
      · rintro (_ | ⟨first, behind⟩)
        rename_i other _
        rcases entry with ⟨key, shown, value⟩
        rcases other with ⟨otherKey, otherShown, otherValue⟩
        exact .cons first.keys first.shown first.values (induction.mpr behind)

/-! ### What is known of a value without its numbers -/

namespace Value.Matches

variable {value other left right another : Value}

theorem kind (matched : value.Matches numbering other) :
    value.kind = other.kind := by
  cases matched <;> rfl

theorem isSignal (matched : value.Matches numbering other) :
    value.isSignal = other.isSignal := by
  cases matched <;> rfl

theorem isTruthy (matched : value.Matches numbering other) :
    value.isTruthy = other.isTruthy := by
  cases matched <;> rfl

/-- What can be a key has a matching key. -/
theorem key? (matched : value.Matches numbering other) :
    Option.Rel (HashKey.Matches numbering) value.key? other.key? := by
  cases matched with
  | float numbers =>
      cases numbers with
      | stamped stamps => exact .some (.stamped stamps)
      | plain number isNumber =>
          rename_i number
          refine .some (.plain _ fun tag equal => ?_)
          cases number <;> cases equal
          cases isNumber
  | integer | boolean | string | null => exact .some (.plain _ nofun)
  | _ => exact .none

/-- Two values are the same exactly if what matches them is. -/
theorem isSame (increasing : numbering.IsIncreasing)
    (first : left.Matches numbering other) (second : right.Matches numbering another) :
    left.isSame right = other.isSame another := by
  have stamps {stamp next newStamp newNext : Nat}
      (first : numbering.stamps[stamp]? = some newStamp)
      (second : numbering.stamps[next]? = some newNext) :
      (stamp == next) = (newStamp == newNext) := by
    rw [Bool.eq_iff_iff, beq_iff_eq, beq_iff_eq]
    exact increasing.stamp_eq_iff first second
  cases first <;> cases second <;> first | rfl | exact stamps (by assumption) (by assumption)

end Value.Matches

/-- Two keys are equal exactly if what matches them is. -/
theorem HashKey.Matches.eq_iff {key next other another : HashKey}
    (increasing : numbering.IsIncreasing)
    (first : key.Matches numbering other) (second : next.Matches numbering another) :
    key = next ↔ other = another := by
  cases first with
  | stamped stamps =>
      cases second with
      | stamped otherStamps => simpa using increasing.stamp_eq_iff stamps otherStamps
      | plain key unstamped =>
          exact ⟨fun same => absurd same.symm (unstamped _), fun same => absurd same.symm (unstamped _)⟩
  | plain key unstamped =>
      cases second with
      | stamped otherStamps =>
          exact ⟨fun same => absurd same (unstamped _), fun same => absurd same (unstamped _)⟩
      | plain next => exact Iff.rfl

/-! ### Entries of hashes -/

theorem Entry.Matches.insert {entry other : Entry} {entries others : List Entry}
    (increasing : numbering.IsIncreasing) (added : entry.Matches numbering other)
    (inside : List.Forall₂ (Entry.Matches numbering) entries others) :
    List.Forall₂ (Entry.Matches numbering) (Entry.insert entry entries)
      (Entry.insert other others) := by
  induction inside with
  | nil => exact .cons added .nil
  | cons first behind induction =>
      rw [Entry.insert, Entry.insert]
      have same := first.keys.eq_iff increasing added.keys
      split <;> rename_i equal
      · rw [if_pos (same.mp equal)]
        exact .cons added behind
      · rw [if_neg fun otherEqual => equal (same.mpr otherEqual)]
        exact .cons first induction

theorem Entry.Matches.find? {key other : HashKey} {entries others : List Entry}
    (increasing : numbering.IsIncreasing) (keys : key.Matches numbering other)
    (inside : List.Forall₂ (Entry.Matches numbering) entries others) :
    Option.Rel (Value.Matches numbering) (Entry.find? key entries) (Entry.find? other others) := by
  induction inside with
  | nil => exact .none
  | cons first behind induction =>
      rw [Entry.find?, Entry.find?]
      have same := first.keys.eq_iff increasing keys
      split <;> rename_i equal
      · rw [if_pos (same.mp equal)]
        exact .some first.values
      · rw [if_neg fun otherEqual => equal (same.mpr otherEqual)]
        exact induction

end

end Jet
