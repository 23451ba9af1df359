import Jet.Builtin
import Jet.Proofs.Evaluation.Order
import Jet.Proofs.Value.Equality

/-!
# Hash literals

A hash literal gives pairs of a key and a value.  Of the pairs with one key the first says where the
entry stands, and the last says which key is shown and which value is stored.
`Entry.AreLast` says that some entries are what is left of some pairs in this way; it is kept when
one more pair is added to both.  Length, lookup and display text follow from it.
-/

namespace Jet

/-- The pairs of some keys and values, one after another. -/
def flatPairs (given : List (Value × Value)) : List Value :=
  given.flatMap fun pair => [pair.1, pair.2]

/-- The different keys of some pairs, in the order in which they are first given. -/
def firstKeys (given : List (Value × Value)) : List HashKey :=
  (given.filterMap fun pair => pair.1.key?).eraseDups

/-- The last of some pairs with a key. -/
def lastPair? (key : HashKey) (given : List (Value × Value)) : Option (Value × Value) :=
  (given.filter fun pair => decide (pair.1.key? = some key)).getLast?

section

variable {given : List (Value × Value)} {shown value : Value} {key other : HashKey}

theorem mem_firstKeys : key ∈ firstKeys given ↔ ∃ pair ∈ given, pair.1.key? = some key := by
  rw [firstKeys, List.mem_eraseDups, List.mem_filterMap]

/-- A key that is given once more stays where it is, and a new one goes behind the others. -/
theorem firstKeys_concat (usable : shown.key? = some key) :
    firstKeys (given ++ [(shown, value)]) =
      if key ∈ firstKeys given then firstKeys given else firstKeys given ++ [key] := by
  have added : [(shown, value)].filterMap (fun pair => pair.1.key?) = [key] :=
    List.filterMap_cons_some usable
  rw [firstKeys, List.filterMap_append, added, List.eraseDups_append]
  simp only [firstKeys, List.mem_eraseDups]
  split
  · rename_i member
    simp [List.removeAll, member]
  · rename_i fresh
    simp [List.removeAll, fresh, List.eraseDups_cons]

/-- A pair that is given last is the last one with its key, and no other key has another last. -/
theorem lastPair?_concat (usable : shown.key? = some key) :
    lastPair? other (given ++ [(shown, value)]) =
      if key = other then some (shown, value) else lastPair? other given := by
  rw [lastPair?, List.filter_append]
  split
  · rename_i same
    simp [same ▸ usable]
  · rename_i different
    simp [usable, different, lastPair?]

theorem mem_of_lastPair? {pair : Value × Value} (last : lastPair? key given = some pair) :
    pair ∈ given ∧ pair.1.key? = some key := by
  have member := List.mem_of_getLast? last
  simpa using member

end

namespace Entry

/-- Whether some entries are what is left of some pairs that are added in order. -/
structure AreLast (entries : List Entry) (given : List (Value × Value)) : Prop where
  filed : AreFiled entries
  keys : entries.map Entry.key = firstKeys given
  last : ∀ entry ∈ entries, lastPair? entry.key given = some (entry.shown, entry.value)

variable {entries : List Entry} {given more : List (Value × Value)} {entry added : Entry}
  {shown value : Value} {key : HashKey}

theorem areLast_nil : AreLast [] [] :=
  ⟨areFiled_nil, rfl, nofun⟩

/-- An entry whose key is there already leaves all keys as they are. -/
theorem map_key_insert_of_mem (member : added.key ∈ entries.map Entry.key) :
    (insert added entries).map Entry.key = entries.map Entry.key := by
  induction entries with
  | nil => cases member
  | cons head rest induction =>
      rw [insert]
      split
      · rename_i same
        rw [List.map_cons, List.map_cons, same]
      · rename_i different
        rw [List.map_cons, List.map_cons,
          induction ((List.mem_cons.mp member).resolve_left (Ne.symm different))]

/-- An entry that is added takes the place of all others with its key. -/
theorem mem_insert (distinct : (entries.map Entry.key).Nodup)
    (member : entry ∈ insert added entries) :
    entry = added ∨ entry ∈ entries ∧ added.key ≠ entry.key := by
  induction entries with
  | nil => exact .inl (List.mem_singleton.mp member)
  | cons head rest induction =>
      rw [List.map_cons, List.nodup_cons] at distinct
      rw [insert] at member
      split at member
      · rename_i same
        refine (List.mem_cons.mp member).imp_right fun later => ?_
        refine ⟨List.mem_cons_of_mem _ later, fun again => distinct.1 ?_⟩
        rw [same, again]
        exact List.mem_map_of_mem later
      · rename_i different
        rcases List.mem_cons.mp member with rfl | later
        · exact .inr ⟨List.mem_cons_self, Ne.symm different⟩
        · exact (induction distinct.2 later).imp_right
            (And.imp_left (List.mem_cons_of_mem head))

/-- One more pair. -/
theorem AreLast.insert (areLast : AreLast entries given) (usable : shown.key? = some key) :
    AreLast (insert (.mk key shown value) entries) (given ++ [(shown, value)]) := by
  refine ⟨areLast.filed.insert (by simp [Entry.key, Entry.shown, usable]), ?_, ?_⟩
  · rw [firstKeys_concat usable, ← areLast.keys]
    split
    · rename_i member
      exact map_key_insert_of_mem member
    · rename_i fresh
      rw [insert_of_not_mem fresh, List.map_append]
      rfl
  · intro entry member
    rw [lastPair?_concat usable]
    rcases mem_insert areLast.filed.distinct member with rfl | ⟨earlier, different⟩
    · exact if_pos rfl
    · exact (if_neg different).trans (areLast.last entry earlier)

/-- Any number of pairs. -/
theorem AreLast.insertAll (areLast : AreLast entries given)
    (usable : ∀ pair ∈ more, pair.1.key? ≠ none) :
    AreLast (insertAll entries (flatPairs more)) (given ++ more) := by
  induction more generalizing entries given with
  | nil =>
      rw [List.append_nil]
      exact areLast
  | cons pair rest induction =>
      rcases pair with ⟨shown, value⟩
      rw [List.forall_mem_cons] at usable
      rcases Option.ne_none_iff_exists'.mp usable.1 with ⟨key, found⟩
      have one : AreLast (Entry.insert (.mk key shown value) entries) (given ++ [(shown, value)]) :=
        areLast.insert found
      have later := induction one usable.2
      rw [List.append_assoc] at later
      rw [flatPairs, List.flatMap_cons, List.cons_append, List.cons_append, Entry.insertAll, found]
      exact later

/-- What is found is the value of the last pair with the key. -/
theorem AreLast.find?_eq (areLast : AreLast entries given) :
    find? key entries = (lastPair? key given).map Prod.snd := by
  refine Option.ext fun value => ?_
  rw [find?_eq_some_iff areLast.filed.distinct, Option.map_eq_some_iff]
  constructor
  · rintro ⟨entry, member, rfl, rfl⟩
    exact ⟨_, areLast.last entry member, rfl⟩
  · rintro ⟨pair, isLast, rfl⟩
    have first : key ∈ firstKeys given := mem_firstKeys.mpr ⟨pair, mem_of_lastPair? isLast⟩
    rw [← areLast.keys, List.mem_map] at first
    rcases first with ⟨entry, member, rfl⟩
    have same := areLast.last entry member
    rw [isLast] at same
    cases same
    exact ⟨entry, member, rfl, rfl⟩

/-- What is displayed are the last pairs in the order of the first ones. -/
theorem AreLast.displayEntries_eq (areLast : AreLast entries given) :
    displayEntries entries = (firstKeys given).filterMap fun key =>
      (lastPair? key given).map fun pair => pair.1.display ++ ": " ++ pair.2.display := by
  rw [← areLast.keys, List.filterMap_map]
  have last := areLast.last
  clear areLast
  induction entries with
  | nil => rfl
  | cons entry rest induction =>
      rw [List.forall_mem_cons] at last
      rw [displayEntries, List.filterMap_cons, Function.comp_apply, last.1, ← induction last.2]
      cases entry
      rfl

end Entry

section

variable {limit scope : Nat} {pairs : List (Expr × Expr)} {given : List (Value × Value)}

/-- Keys that can be used do not settle a hash literal, wherever it stops. -/
theorem unusableKey?_eq_none {front : List Value} (isFront : front <+: flatPairs given)
    (usable : ∀ pair ∈ given, pair.1.key? ≠ none) :
    unusableKey? front = none := by
  induction given generalizing front with
  | nil =>
      rw [List.prefix_nil.mp isFront]
      rfl
  | cons pair rest induction =>
      rcases pair with ⟨shown, value⟩
      rw [List.forall_mem_cons] at usable
      rw [flatPairs, List.flatMap_cons, List.cons_append, List.cons_append] at isFront
      rcases Option.ne_none_iff_exists'.mp usable.1 with ⟨key, found⟩
      match front, isFront with
      | [], _ => rfl
      | [first], isFront =>
          rw [List.cons_prefix_cons] at isFront
          rw [isFront.1, unusableKey?, found]
      | first :: second :: more, isFront =>
          rw [List.cons_prefix_cons, List.cons_prefix_cons] at isFront
          rw [unusableKey?]
          exact induction isFront.2.2 usable.2

end

/--
A hash literal all of whose keys and values are evaluated without signals, and all of whose keys can
be used, makes a new hash.  It has one entry for each different key, in the order in which these are
first given, and each entry shows the last key and stores the last value that were given for it.
Its length is the number of different keys, of which there are never more than the greatest length,
an index finds the last value that was given for a key that is the same, or null if there is none,
and the text of the hash shows just these keys and values.
-/
theorem hashLiteral_lastWins {limit scope : Nat} {pairs : List (Expr × Expr)}
    {given : List (Value × Value)} {store between : Store}
    (yields : Yields limit scope
      (pairs.flatMap fun pair => [.expression pair.1, .expression pair.2]) store
      (flatPairs given) between)
    (usable : ∀ pair ∈ given, pair.1.key? ≠ none) :
    ∃ entries,
      (Expr.hash pairs).evaluate (applyFunction limit) scope store =
          (.ok (.hash between.nextStamp entries),
            { between with nextStamp := between.nextStamp + 1 }) ∧
        entries.map Entry.key = firstKeys given ∧
        (∀ entry ∈ entries, lastPair? entry.key given = some (entry.shown, entry.value)) ∧
        (∀ (stamp : Nat) (seen : Store), Builtin.len.apply [.hash stamp entries] seen =
          (.ok (.integer (min (firstKeys given).length Builtin.maxLength : Nat)), seen)) ∧
        (∀ stamp index key, index.key? = some key →
          indexOperation (.hash stamp entries) index =
            ((lastPair? key given).map Prod.snd).getD .null) ∧
        ∀ stamp, (Value.hash stamp entries).display =
          "\x7b" ++ joinWith ", " ((firstKeys given).filterMap fun key =>
            (lastPair? key given).map fun pair =>
              pair.1.display ++ ": " ++ pair.2.display) ++ "\x7d" := by
  have unsettled : (Part.expression (.hash pairs)).Unsettled (flatPairs given) :=
    fun front isFront => unusableKey?_eq_none isFront usable
  have evaluated :
      Part.evaluate limit (.expression (.hash pairs)) scope store =
        Part.complete limit scope (.expression (.hash pairs)) (flatPairs given) between :=
    Part.evaluate_of_yields yields unsettled
  have areLast : Entry.AreLast (Entry.insertAll [] (flatPairs given)) given :=
    Entry.areLast_nil.insertAll usable
  refine ⟨_, evaluated, areLast.keys, areLast.last, ?_, ?_, ?_⟩
  · intro stamp seen
    have count := congrArg List.length areLast.keys
    rw [List.length_map] at count
    rw [← count]
    rfl
  · intro stamp index key found
    rw [indexOperation, found]
    exact congrArg (fun value => Option.getD value Value.null) areLast.find?_eq
  · intro stamp
    rw [Value.display, areLast.displayEntries_eq]

/-- The float one. -/
def Double.one : Double := .finite false (2 ^ 52) (-52)

/-- Pairs of which the first and the last have one key, given as an integer and as a float. -/
def oneTwice : List (Value × Value) :=
  [(.integer 1, .string "a"), (.string "x", .boolean true), (.float .one, .string "b")]

/--
The integer one and the float one are the same key, so that of three pairs the first and the last
make one entry: it stands in front, shows the float and stores what was given last.
-/
theorem hashLiteral_lastWins_oneTwice :
    ∃ entries,
      (Expr.hash [(.integer 1, .string "a"), (.string "x", .boolean true),
          (.float .one, .string "b")]).evaluate (applyFunction 0) 0 ⟨#[], 7⟩ =
          (.ok (.hash 7 entries), ⟨#[], 8⟩) ∧
        entries.map Entry.key = [.number (.finite 1), .string "x"] ∧
        (∀ entry ∈ entries, entry.key = .number (.finite 1) →
          entry.shown = .float .one ∧ entry.value = .string "b") ∧
        Builtin.len.apply [.hash 7 entries] ⟨#[], 8⟩ = (.ok (.integer 2), ⟨#[], 8⟩) ∧
        indexOperation (.hash 7 entries) (.integer 1) = .string "b" ∧
        indexOperation (.hash 7 entries) .null = .null := by
  have isOne : Value.key? (.float .one) = some (.number (.finite 1)) := by decide +kernel
  have usable : ∀ pair ∈ oneTwice, pair.1.key? ≠ none := by
    simp [oneTwice, Value.key?]
  have keys : firstKeys oneTwice = [.number (.finite 1), .string "x"] := by decide +kernel
  have lastOne : lastPair? (.number (.finite 1)) oneTwice = some (.float .one, .string "b") := by
    simp [lastPair?, oneTwice, isOne]
  have noNull : lastPair? .null oneTwice = none := by
    simp [lastPair?, oneTwice, Value.key?]
  rcases @hashLiteral_lastWins 0 0
    [(.integer 1, .string "a"), (.string "x", .boolean true), (.float .one, .string "b")]
    oneTwice ⟨#[], 7⟩ ⟨#[], 7⟩ (.cons rfl rfl (.cons rfl rfl (.cons rfl rfl
      (.cons rfl rfl (.cons rfl rfl (.cons rfl rfl .nil)))))) usable with
    ⟨entries, evaluated, ordered, last, length, index, -⟩
  refine ⟨entries, evaluated, ordered.trans keys, ?_, ?_, ?_, ?_⟩
  · intro entry member isKey
    have shows := last entry member
    rw [isKey, lastOne, Option.some_inj, Prod.mk_inj] at shows
    exact ⟨shows.1.symm, shows.2.symm⟩
  · rw [length, keys]
    rfl
  · rw [index 7 (.integer 1) (.number (.finite 1)) rfl, lastOne]
    rfl
  · rw [index 7 .null .null rfl, noNull]
    rfl

end Jet
