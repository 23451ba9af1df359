import Jet.Pool
import Jet.Proofs.Session.Renumbered
import Jet.Proofs.Session.Report

/-!
# Sessions that keep out of each other's way

Any number of sessions are given source texts in any order.

If each has a store of its own, each does exactly what it would do alone.  If all have one store, in
which each has a root scope of its own, each still does what it would do alone, but for the numbers
of scopes and stamps: the scopes that sessions reach stay apart, because a session that runs adds
only new scopes to its own and leaves all others as they are.  If they also have one root scope,
they do together what one session would do with all texts.

A text with problems leaves all scopes as they are, so that it makes no difference whether it is
given at all.
-/

namespace Jet

/-- Whether a host reads a source text and finds problems. -/
def Host.findsProblems (host : Host) (source : String) : Bool :=
  host.room.reads source &&
    match parseSource source with
    | .ok reading => !reading.problems.isEmpty
    | .error _ => false

/-- Whether the outcome is that the text had problems. -/
def isRefused : Except Escape Execution → Bool
  | .ok execution => execution.isParseError
  | .error _ => false

/-- What is printed to show an outcome, where there is room for all of it. -/
def reported (echoes : Bool) (outcome : Except Escape Execution) : Except Escape (List Print) :=
  outcome.map fun execution => (execution.report .ample echoes).prints

/-- Matching outcomes are shown in the same words. -/
theorem reported_of_forall₂ {numbering : Renumbering}
    {outcomes others : List (Except Escape Execution)}
    (matched : List.Forall₂ (SameEnd (Execution.Matches numbering)) outcomes others)
    (echoes : Bool) :
    outcomes.map (reported echoes) = others.map (reported echoes) := by
  induction matched with
  | nil => rfl
  | cons first behind induction =>
      rw [List.map_cons, List.map_cons, induction]
      cases first with
      | ok executions => rw [reported, reported, Except.map, Except.map, executions.report]
      | error escape => rfl

/-- The items that have a number, without it. -/
def belonging {α : Type} (id : Nat) (items : List (Nat × α)) : List α :=
  (items.filter fun item => item.1 = id).map Prod.snd

section

variable {α : Type} {id other : Nat}

@[simp]
theorem belonging_cons_self (id : Nat) (item : α) (items : List (Nat × α)) :
    belonging id ((id, item) :: items) = item :: belonging id items := by
  simp [belonging]

theorem belonging_cons_of_ne (apart : other ≠ id) (item : α) (items : List (Nat × α)) :
    belonging id ((other, item) :: items) = belonging id items := by
  simp [belonging, apart]

end

/-! ## One session -/

section

variable {host : Host} {source : String} {program : Program} {problems : List Problem}

theorem Host.findsProblems_of_noRoom (noRoom : host.room.reads source = false) :
    host.findsProblems source = false := by
  rw [findsProblems, noRoom, Bool.false_and]

theorem Host.Refuses.findsProblems (refused : host.Refuses source program problems) :
    host.findsProblems source = true := by
  rw [Host.findsProblems, refused.room, refused.parsed, Bool.true_and]
  exact Bool.not_eq_true' _ ▸ List.isEmpty_eq_false_iff.mpr refused.given

theorem Host.Reads.findsProblems (read : host.Reads source program) :
    host.findsProblems source = false := by
  rw [Host.findsProblems, read.room, read.parsed]
  rfl

end

namespace Session

/-- A text with problems is refused and leaves the store as it is; no other text is refused. -/
theorem execute_of_findsProblems (session : Session) (host : Host) (source : String)
    (store : Store) :
    isRefused (session.execute host source store).1 = host.findsProblems source ∧
      (host.findsProblems source = true → (session.execute host source store).2.2 = store) := by
  rcases reads_cases host source with noRoom | ⟨program, problems, refused⟩ | ⟨program, read⟩
  · rw [execute_of_noRoom session noRoom, Host.findsProblems_of_noRoom noRoom]
    exact ⟨rfl, nofun⟩
  · rw [execute_of_refused session refused, refused.findsProblems]
    exact ⟨Execution.isParseError_iff.mpr refused.given, fun _ => rfl⟩
  · rw [execute_of_read session read, read.findsProblems]
    refine ⟨?_, nofun⟩
    cases (session.evaluate host.callLimit program store).1 <;> rfl

end Session

/-! ## Many sessions -/

namespace Pool

/-- Gives source texts to sessions, one after another; each outcome goes with its session. -/
def executeAll (pool : Pool) (host : Host) :
    List (Nat × String) → List (Nat × Except Escape Execution) × Pool
  | [] => ([], pool)
  | (id, source) :: rest =>
      let first := pool.execute host id source
      let behind := executeAll first.2 host rest
      ((id, first.1) :: behind.1, behind.2)

@[simp]
theorem update_self {α : Type} (family : Nat → α) (id : Nat) (value : α) :
    update family id value id = value :=
  if_pos rfl

theorem update_of_ne {α : Type} {id other : Nat} (apart : other ≠ id) (family : Nat → α) (value : α) :
    update family id value other = family other :=
  if_neg apart

section

variable (pool : Pool) (host : Host) (id : Nat) (source : String)

/-- A session that is given a text changes itself and its store. -/
theorem execute_eq :
    pool.execute host id source =
      let outcome := (pool.sessions id).execute host source (pool.stores (pool.storeOf id))
      (outcome.1,
        { pool with
          sessions := update pool.sessions id outcome.2.1
          stores := update pool.stores (pool.storeOf id) outcome.2.2 }) := by
  unfold execute
  rcases (pool.sessions id).execute host source (pool.stores (pool.storeOf id)) with ⟨_, _, _⟩
  rfl

theorem execute_outcome :
    (pool.execute host id source).1 =
      ((pool.sessions id).execute host source (pool.stores (pool.storeOf id))).1 := by
  rw [execute_eq]

theorem execute_storeOf :
    (pool.execute host id source).2.storeOf = pool.storeOf := by
  rw [execute_eq]

theorem execute_sessions :
    (pool.execute host id source).2.sessions =
      update pool.sessions id
        ((pool.sessions id).execute host source (pool.stores (pool.storeOf id))).2.1 := by
  rw [execute_eq]

theorem execute_stores :
    (pool.execute host id source).2.stores =
      update pool.stores (pool.storeOf id)
        ((pool.sessions id).execute host source (pool.stores (pool.storeOf id))).2.2 := by
  rw [execute_eq]

/-- No session ever gets another root. -/
theorem execute_root (other : Nat) :
    ((pool.execute host id source).2.sessions other).root = (pool.sessions other).root := by
  rw [execute_sessions]
  by_cases same : other = id
  · subst same
    rw [update_self, Session.execute_root]
  · rw [update_of_ne same]

end

/-- Sessions keep their stores and their roots. -/
theorem executeAll_storeOf_and_root (pool : Pool) (host : Host) (inputs : List (Nat × String)) :
    (pool.executeAll host inputs).2.storeOf = pool.storeOf ∧
      ∀ id, ((pool.executeAll host inputs).2.sessions id).root = (pool.sessions id).root := by
  induction inputs generalizing pool with
  | nil => exact ⟨rfl, fun _ => rfl⟩
  | cons input rest induction =>
      rcases input with ⟨id, source⟩
      rcases induction (pool.execute host id source).2 with ⟨storeOf, roots⟩
      rw [executeAll]
      dsimp only
      exact ⟨by rw [storeOf, execute_storeOf], fun other => by rw [roots, execute_root]⟩

/-- What is bound in the root of a session after it was given texts. -/
theorem rootBindings_executeAll (pool : Pool) (host : Host) (inputs : List (Nat × String))
    (id : Nat) :
    (pool.executeAll host inputs).2.rootBindings id =
      ((pool.executeAll host inputs).2.stores (pool.storeOf id)).bindings (pool.sessions id).root := by
  rcases pool.executeAll_storeOf_and_root host inputs with ⟨storeOf, roots⟩
  rw [rootBindings, storeOf, roots]

variable {host : Host}

/-! ### Stores apart -/

/-- Sessions with stores of their own do what each of them would do alone. -/
theorem executeAll_of_injective (pool : Pool) (apart : Function.Injective pool.storeOf)
    (inputs : List (Nat × String)) (id : Nat) :
    let last := pool.executeAll host inputs
    let alone :=
      (pool.sessions id).executeAll host (belonging id inputs) (pool.stores (pool.storeOf id))
    belonging id last.1 = alone.1 ∧ last.2.sessions id = alone.2.1 ∧
      last.2.stores (pool.storeOf id) = alone.2.2 := by
  induction inputs generalizing pool with
  | nil => exact ⟨rfl, rfl, rfl⟩
  | cons input rest induction =>
      rcases input with ⟨other, source⟩
      have behind := induction (pool.execute host other source).2 (by rwa [execute_storeOf])
      rw [execute_storeOf, execute_sessions, execute_stores] at behind
      rw [executeAll]
      dsimp only at behind ⊢
      by_cases mine : other = id
      · subst mine
        rw [update_self, update_self] at behind
        rw [belonging_cons_self, belonging_cons_self, Session.executeAll, execute_outcome]
        exact ⟨congrArg _ behind.1, behind.2⟩
      · have notMine := Ne.symm mine
        rw [update_of_ne notMine, update_of_ne (apart.ne notMine)] at behind
        rw [belonging_cons_of_ne mine, belonging_cons_of_ne mine]
        exact behind

/-! ### One store -/

/-- Sessions in one store, each with a new root scope of its own. -/
def rooted (keepsHistory : Bool) (count : Nat) : Pool where
  storeOf _ := 0
  sessions id := ⟨id, keepsHistory, []⟩
  stores _ := ⟨Array.replicate count ⟨[], none⟩, 0⟩

/--
Sessions with stores of their own, and the same sessions with one store for all: each store is found
in the common one, and no two sessions share a scope.
-/
structure Beside (count : Nat) (pool common : Pool) (numbering : Nat → Renumbering) : Prop where
  own : pool.storeOf = fun id => id
  shared : common.storeOf = fun _ => 0
  stores : ∀ id < count, (pool.stores id).Matches (numbering id) (common.stores 0)
  roots : ∀ id < count,
    (numbering id).scopes[(pool.sessions id).root]? = some (common.sessions id).root
  apart : ∀ id < count, ∀ other < count, other ≠ id →
    (numbering other).scopes.Disjoint (numbering id).scopes

/-- A session that is given a text matches itself in the common store, and so do all others. -/
theorem Beside.execute {count id : Nat} {pool common : Pool} {numbering : Nat → Renumbering}
    (beside : Beside count pool common numbering) (known : id < count) (host : Host)
    (source : String) :
    ∃ later, later.Extends (numbering id) ∧
      Beside count (pool.execute host id source).2 (common.execute host id source).2
        (update numbering id later) ∧
      SameEnd (Execution.Matches later) (pool.execute host id source).1
        (common.execute host id source).1 := by
  rcases Session.execute_simulates (beside.stores id known) (beside.roots id known) host source
    with ⟨later, advances, after, ends⟩
  refine ⟨later, advances.extended, ⟨?_, ?_, fun other otherKnown => ?_, fun other otherKnown => ?_,
    fun other otherKnown third thirdKnown different => ?_⟩, ?_⟩
  · rw [execute_storeOf, beside.own]
  · rw [execute_storeOf, beside.shared]
  · rw [execute_stores, execute_stores, beside.own, beside.shared]
    dsimp only
    rw [update_self]
    by_cases same : other = id
    · subst same
      rw [update_self, update_self]
      exact after
    · rw [update_of_ne same, update_of_ne same]
      exact (beside.stores other otherKnown).aside advances
        (beside.apart id known other otherKnown same)
  · rw [execute_root, execute_root]
    by_cases same : other = id
    · subst same
      rw [update_self]
      exact advances.extended.scope (beside.roots other otherKnown)
    · rw [update_of_ne same]
      exact beside.roots other otherKnown
  · have stay := beside.apart id known
    by_cases same : other = id
    · subst same
      rw [update_self, update_of_ne different]
      exact (beside.stores third thirdKnown).disjoint advances (stay third thirdKnown different)
    · rw [update_of_ne same]
      by_cases thirdSame : third = id
      · subst thirdSame
        rw [update_self]
        exact List.disjoint_symm
          ((beside.stores other otherKnown).disjoint advances (stay other otherKnown same))
      · rw [update_of_ne thirdSame]
        exact beside.apart other otherKnown third thirdKnown different
  · rw [execute_outcome, execute_outcome, beside.own, beside.shared]
    exact ends

/-- Whatever sessions are given, each matches itself in the common store, and so do its results. -/
theorem Beside.executeAll {count : Nat} {pool common : Pool} {numbering : Nat → Renumbering}
    (beside : Beside count pool common numbering) {inputs : List (Nat × String)}
    (known : ∀ input ∈ inputs, input.1 < count) :
    ∃ later : Nat → Renumbering, (∀ id, (later id).Extends (numbering id)) ∧
      Beside count (pool.executeAll host inputs).2 (common.executeAll host inputs).2 later ∧
      ∀ id, List.Forall₂ (SameEnd (Execution.Matches (later id)))
        (belonging id (pool.executeAll host inputs).1)
        (belonging id (common.executeAll host inputs).1) := by
  induction inputs generalizing pool common numbering with
  | nil => exact ⟨numbering, fun id => .refl (numbering id), beside, fun _ => .nil⟩
  | cons input rest induction =>
      rcases input with ⟨id, source⟩
      rw [List.forall_mem_cons] at known
      rcases beside.execute known.1 host source with ⟨middle, extended, next, ends⟩
      rcases induction next known.2 with ⟨later, onward, last, behind⟩
      have onwardHere := onward id
      rw [update_self] at onwardHere
      rw [Pool.executeAll, Pool.executeAll]
      dsimp only
      refine ⟨later, fun other => ?_, last, fun other => ?_⟩
      · by_cases same : other = id
        · subst same
          exact onwardHere.trans extended
        · have onwardThere := onward other
          rwa [update_of_ne same] at onwardThere
      · by_cases mine : id = other
        · subst mine
          rw [belonging_cons_self, belonging_cons_self]
          exact .cons (ends.imp fun _ _ => .mono onwardHere) (behind id)
        · rw [belonging_cons_of_ne mine, belonging_cons_of_ne mine]
          exact behind other

/-- Sessions that have not been given anything match themselves in a store with a root for each. -/
theorem beside_rooted (keepsHistory : Bool) (count : Nat) :
    Beside count (isolated keepsHistory) (rooted keepsHistory count) fun id => ⟨[id], []⟩ := by
  refine ⟨rfl, rfl, fun id known => ?_, fun id known => rfl, fun id known other _ different => ?_⟩
  · refine ⟨⟨List.pairwise_singleton _ _, .nil⟩, rfl, rfl, ?_, nofun, ?_, ?_⟩
    · intro scope member
      rw [List.mem_singleton.mp member]
      change id < (Array.replicate count _).size
      rwa [Array.size_replicate]
    · intro scope otherScope found
      rcases List.getElem?_eq_some_iff.mp found with ⟨inside, rfl⟩
      cases Nat.lt_one_iff.mp inside
      change Option.Rel _ (some _) (Array.replicate count _)[id]?
      rw [Array.getElem?_replicate, if_pos known]
      exact .some ⟨.nil, .none⟩
    · intro scope bindings found outer member
      cases scope with
      | zero => cases found; cases member
      | succ => cases found
  · intro scope member reached
    exact different ((List.mem_singleton.mp member).symm.trans (List.mem_singleton.mp reached))

/--
Sessions with root scopes of their own in one store do what each of them would do alone: the store
that a session has alone is found in the common one, and no scope in there is that of two sessions.
-/
theorem executeAll_rooted (keepsHistory : Bool) {count : Nat} {inputs : List (Nat × String)}
    (known : ∀ input ∈ inputs, input.1 < count) :
    ∃ numbering : Nat → Renumbering, ∀ id < count,
      let alone := Session.executeFresh host keepsHistory (belonging id inputs)
      let together := (rooted keepsHistory count).executeAll host inputs
      List.Forall₂ (SameEnd (Execution.Matches (numbering id))) alone.1 (belonging id together.1) ∧
        List.Forall₂ (BindingMatches (numbering id)) (alone.2.2.bindings alone.2.1.root)
          (together.2.rootBindings id) ∧
        alone.2.2.Matches (numbering id) (together.2.stores 0) ∧
        ∀ other < count, other ≠ id → (numbering other).scopes.Disjoint (numbering id).scopes := by
  rcases (beside_rooted keepsHistory count).executeAll known with ⟨numbering, _, beside, outcomes⟩
  refine ⟨numbering, fun id inside => ?_⟩
  have fresh : Session.executeFresh host keepsHistory (belonging id inputs) =
      ((isolated keepsHistory).sessions id).executeAll host (belonging id inputs)
        ((isolated keepsHistory).stores id) := rfl
  rcases (isolated keepsHistory).executeAll_of_injective Function.injective_id inputs id with
    ⟨results, session, store⟩
  change ((isolated keepsHistory).executeAll host inputs).2.stores id = _ at store
  have outcomes := outcomes id
  have stores := beside.stores id inside
  have roots := beside.roots id inside
  rw [results] at outcomes
  rw [store] at stores
  rw [session] at roots
  dsimp only
  rw [fresh, rootBindings, beside.shared]
  exact ⟨outcomes, stores.bindings roots, stores, beside.apart id inside⟩

/-! ### Texts with problems -/

/-- Whether two pools have the same stores, and sessions with the same roots in them. -/
structure SameScopes (pool other : Pool) : Prop where
  storeOf : pool.storeOf = other.storeOf
  stores : pool.stores = other.stores
  roots : ∀ id, (pool.sessions id).root = (other.sessions id).root

theorem SameScopes.trans {pool other last : Pool} (first : SameScopes pool other)
    (second : SameScopes other last) :
    SameScopes pool last :=
  ⟨first.storeOf.trans second.storeOf, first.stores.trans second.stores,
    fun id => (first.roots id).trans (second.roots id)⟩

theorem SameScopes.execute {pool other : Pool} (same : SameScopes pool other) (host : Host)
    (id : Nat) (source : String) :
    (pool.execute host id source).1 = (other.execute host id source).1 ∧
      SameScopes (pool.execute host id source).2 (other.execute host id source).2 := by
  have outcomes := Session.execute_congr (same.roots id) host source (pool.stores (pool.storeOf id))
  rw [execute_outcome, execute_outcome]
  refine ⟨?_, ?_, ?_, fun next => ?_⟩
  · rw [outcomes.1, same.storeOf, same.stores]
  · rw [execute_storeOf, execute_storeOf, same.storeOf]
  · rw [execute_stores, execute_stores, outcomes.2, same.storeOf, same.stores]
  · rw [execute_root, execute_root, same.roots]

/-- A text with problems changes no scope. -/
theorem sameScopes_execute (pool : Pool) (id : Nat) {source : String}
    (problems : host.findsProblems source = true) :
    SameScopes (pool.execute host id source).2 pool := by
  refine ⟨execute_storeOf pool host id source, ?_, execute_root pool host id source⟩
  rw [execute_stores, ((pool.sessions id).execute_of_findsProblems host source _).2 problems]
  funext place
  by_cases same : place = pool.storeOf id
  · rw [same, update_self]
  · rw [update_of_ne same]

/-- Leaving out texts with problems leaves out their outcomes, and nothing else is different. -/
theorem SameScopes.executeAll {pool other : Pool} (same : SameScopes pool other)
    (inputs : List (Nat × String)) :
    let kept := inputs.filter fun input => !host.findsProblems input.2
    (other.executeAll host kept).1 =
        (pool.executeAll host inputs).1.filter (fun outcome => !isRefused outcome.2) ∧
      SameScopes (pool.executeAll host inputs).2 (other.executeAll host kept).2 := by
  induction inputs generalizing pool other with
  | nil => exact ⟨rfl, same⟩
  | cons input rest induction =>
      rcases input with ⟨id, source⟩
      have refused := ((pool.sessions id).execute_of_findsProblems host source
        (pool.stores (pool.storeOf id))).1
      rw [← execute_outcome] at refused
      rw [Pool.executeAll, List.filter_cons, List.filter_cons]
      dsimp only
      rw [refused]
      cases problems : host.findsProblems source with
      | true =>
          have first := sameScopes_execute pool id problems
          exact induction (first.trans same)
      | false =>
          rcases same.execute host id source with ⟨outcome, next⟩
          rcases induction next with ⟨outcomes, last⟩
          rw [Bool.not_false, if_pos rfl, if_pos rfl, Pool.executeAll]
          dsimp only
          rw [outcome, outcomes]
          exact ⟨rfl, last⟩

/-! ### One root -/

/-- Sessions with one store and one root do what one session does that is given all texts. -/
theorem executeAll_of_shared (pool : Pool) (session : Session) {place : Nat}
    (stores : ∀ id, pool.storeOf id = place)
    (roots : ∀ id, (pool.sessions id).root = session.root) (inputs : List (Nat × String)) :
    let single := session.executeAll host (inputs.map Prod.snd) (pool.stores place)
    (pool.executeAll host inputs).1.map Prod.snd = single.1 ∧
      (pool.executeAll host inputs).2.stores place = single.2.2 := by
  induction inputs generalizing pool session with
  | nil => exact ⟨rfl, rfl⟩
  | cons input rest induction =>
      rcases input with ⟨id, source⟩
      have next := induction (pool.execute host id source).2
        (session.execute host source (pool.stores place)).2.1
        (by rwa [execute_storeOf])
        (fun other => by rw [execute_root, Session.execute_root, roots])
      rcases Session.execute_congr (roots id) host source (pool.stores place) with ⟨outcome, after⟩
      rw [execute_stores, stores id, update_self, after] at next
      rw [executeAll, List.map_cons, List.map_cons, Session.executeAll]
      dsimp only at next ⊢
      rw [execute_outcome, stores id, outcome]
      exact ⟨congrArg _ next.1, next.2⟩

/-! ### All of it -/

/--
Sessions that are given texts in any order, each with a root scope of its own in one store, have the
results and the root bindings that each of them has alone, but for the numbers of scopes and stamps,
which are not shown; no session reaches a scope of another.  In stores of their own they have exactly
these results and bindings.  A text with problems changes no scope, and leaving out all such texts
leaves the other outcomes and all scopes the same.  Sessions with one root scope have the outcomes
and the store of one session that is given all texts.
-/
theorem isolation (host : Host) (keepsHistory : Bool) {count : Nat} {inputs : List (Nat × String)}
    (known : ∀ input ∈ inputs, input.1 < count) :
    (∃ numbering : Nat → Renumbering, ∀ id < count,
      let alone := Session.executeFresh host keepsHistory (belonging id inputs)
      let together := (rooted keepsHistory count).executeAll host inputs
      List.Forall₂ (SameEnd (Execution.Matches (numbering id))) alone.1 (belonging id together.1) ∧
        (∀ echoes, alone.1.map (reported echoes) = (belonging id together.1).map (reported echoes)) ∧
        List.Forall₂ (BindingMatches (numbering id)) (alone.2.2.bindings alone.2.1.root)
          (together.2.rootBindings id) ∧
        alone.2.2.Matches (numbering id) (together.2.stores 0) ∧
        ∀ other < count, other ≠ id → (numbering other).scopes.Disjoint (numbering id).scopes) ∧
    (∀ pool : Pool, Function.Injective pool.storeOf → ∀ id,
      let alone :=
        (pool.sessions id).executeAll host (belonging id inputs) (pool.stores (pool.storeOf id))
      let together := pool.executeAll host inputs
      belonging id together.1 = alone.1 ∧
        together.2.rootBindings id = alone.2.2.bindings (pool.sessions id).root) ∧
    (∀ pool : Pool,
      (∀ id source, host.findsProblems source = true →
        SameScopes (pool.execute host id source).2 pool) ∧
        let kept := inputs.filter fun input => !host.findsProblems input.2
        (pool.executeAll host kept).1 =
            (pool.executeAll host inputs).1.filter (fun outcome => !isRefused outcome.2) ∧
          SameScopes (pool.executeAll host inputs).2 (pool.executeAll host kept).2) ∧
    (∀ (pool : Pool) (session : Session) (place : Nat), (∀ id, pool.storeOf id = place) →
      (∀ id, (pool.sessions id).root = session.root) →
      let single := session.executeAll host (inputs.map Prod.snd) (pool.stores place)
      let together := pool.executeAll host inputs
      together.1.map Prod.snd = single.1 ∧ together.2.stores place = single.2.2 ∧
        ∀ id, together.2.rootBindings id = single.2.2.bindings session.root) := by
  refine ⟨?_, fun pool apart id => ?_, fun pool => ⟨fun id source => ?_, ?_⟩,
    fun pool session place stores roots => ?_⟩
  · rcases executeAll_rooted keepsHistory known with ⟨numbering, matched⟩
    refine ⟨numbering, fun id inside => ?_⟩
    rcases matched id inside with ⟨outcomes, bindings, stores, apart⟩
    exact ⟨outcomes, reported_of_forall₂ outcomes, bindings, stores, apart⟩
  · rcases pool.executeAll_of_injective apart inputs id with ⟨outcomes, session, store⟩
    refine ⟨outcomes, ?_⟩
    rw [rootBindings_executeAll, store]
  · exact sameScopes_execute pool id
  · exact SameScopes.executeAll ⟨rfl, rfl, fun _ => rfl⟩ inputs
  · rcases pool.executeAll_of_shared session stores roots inputs with ⟨outcomes, store⟩
    refine ⟨outcomes, store, fun id => ?_⟩
    rw [rootBindings_executeAll, stores, roots, store]

/--
Two sessions, of which only the first binds a name and the second is given a text with a problem:
the second does not see the name, unless both have the same root scope.
-/
theorem isolation_two :
    let inputs := [(0, "let a = 1"), (1, "let b ="), (1, "a"), (0, "a")]
    let problem := Print.problems ["line 1, column 8: no prefix parse rule for end of input"]
    let host := Host.ample 200
    let beside := (rooted true 2).executeAll host inputs
    let apart := (isolated true).executeAll host inputs
    let together := (shared true).executeAll host inputs
    (∀ input ∈ inputs, input.1 < 2) ∧
      (belonging 0 beside.1).map (reported false) = [.ok [], .ok [.value "1"]] ∧
      (belonging 1 beside.1).map (reported false) =
        [.ok problem, .ok [.failure "ERROR: identifier not found: a"]] ∧
      (belonging 1 apart.1).map (reported false) =
        [.ok problem, .ok [.failure "ERROR: identifier not found: a"]] ∧
      (together.1.map Prod.snd).map (reported false) =
        [.ok [], .ok problem, .ok [.value "1"], .ok [.value "1"]] ∧
      SameScopes (together.2.execute host 1 "let b =").2 together.2 := by
  intro inputs problem host beside apart together
  have known : ∀ input ∈ inputs, input.1 < 2 := by decide
  rcases isolation host true known with ⟨⟨_, roots⟩, ownStores, problems, oneRoot⟩
  have first := (roots 0 (by decide)).2.1 false
  have second := (roots 1 (by decide)).2.1 false
  have own := (ownStores (isolated true) Function.injective_id 1).1
  have both := (oneRoot (shared true) ⟨rootScope, true, []⟩ 0 (fun _ => rfl) (fun _ => rfl)).1
  have read : host.Reads "let a = 1" ⟨[.bind "a" (.integer 1)]⟩ := ⟨rfl, rfl⟩
  have nameRead : host.Reads "a" ⟨[.expression (.name "a")]⟩ := ⟨rfl, rfl⟩
  have faulty : host.Refuses "let b =" ⟨[]⟩ [⟨.noExpression, ⟨.endOfInput, "", 1, 8⟩⟩] :=
    ⟨rfl, rfl, nofun⟩
  have runs (call : Call) :
      evaluateStatements call [.bind "a" (.integer 1)] .null rootScope .initial =
        (.ok .null, Store.initial.define rootScope "a" (.integer 1)) := rfl
  have found (call : Call) :
      evaluateStatements call [.expression (.name "a")] .null rootScope
        (Store.initial.define rootScope "a" (.integer 1)) =
        (.ok (.integer 1), Store.initial.define rootScope "a" (.integer 1)) := rfl
  have notFound (call : Call) :
      evaluateStatements call [.expression (.name "a")] .null rootScope .initial =
        (.ok (.error (.nameNotFound "a")), .initial) := rfl
  have binds (history : List String) :=
    Session.execute_of_runs ⟨rootScope, true, history⟩ read runs
  have finds (history : List String) :=
    Session.execute_of_runs ⟨rootScope, true, history⟩ nameRead found
  have misses (history : List String) :=
    Session.execute_of_runs ⟨rootScope, true, history⟩ nameRead notFound
  have refuses (history : List String) (store : Store) :=
    Session.execute_of_refused ⟨rootScope, true, history⟩ faulty store
  have alone :
      (Session.executeAll ⟨rootScope, true, []⟩ host ["let b =", "a"] .initial).1.map
          (reported false) =
        [.ok problem, .ok [.failure "ERROR: identifier not found: a"]] := by
    simp only [Session.executeAll, refuses, misses, Session.note, if_true]
    rfl
  refine ⟨known, first.symm.trans ?_, second.symm.trans alone, (congrArg _ own).trans alone,
    (congrArg _ both).trans ?_, (problems together.2).1 1 "let b =" ?_⟩
  · change (Session.executeAll ⟨rootScope, true, []⟩ host ["let a = 1", "a"] .initial).1.map _ = _
    simp only [Session.executeAll, binds, finds, Session.note, if_true]
    rfl
  · change (Session.executeAll ⟨rootScope, true, []⟩ host ["let a = 1", "let b =", "a", "a"]
      .initial).1.map _ = _
    simp only [Session.executeAll, binds, refuses, finds, Session.note, if_true]
    rfl
  · exact faulty.findsProblems

end Pool

end Jet
