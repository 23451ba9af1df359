import Jet.Proofs.Evaluation.Bound
import Jet.Proofs.Session.Digits
import Jet.Proofs.Session.Sequence

/-!
# Sessions and the bound on nested calls

A host allows the evaluations of a session a number of nested calls.  With any other number the
session would do the same, except for the texts that run out of nested calls: these end in an error
that says so.  The scopes are then as the evaluation left them when it was cut off, what it wrote
included, and they are as clean as before, so that the session goes on from there like from anywhere
else.
-/

namespace Jet

variable {host : Host} {source : String} {program : Program}

/-- What a host reads goes by its room and not by its limit. -/
theorem Host.Reads.within (read : host.Reads source program) (limit : Nat) :
    (host.within limit).Reads source program :=
  ⟨read.room, read.parsed⟩

theorem Host.Refuses.within {problems : List Problem}
    (refused : host.Refuses source program problems) (limit : Nat) :
    (host.within limit).Refuses source program problems :=
  ⟨refused.room, refused.parsed, refused.given⟩

namespace Session

/-- Whether a text runs out of nested calls. -/
def IsCutOff (limit : Nat) (session : Session) (program : Program) (store : Store) : Prop :=
  (program.run session.root limit store).1 = .error .depthExceeded

variable {session : Session} {store : Store} {limit fewer more : Nat}

/-- Within any limit, a text without problems is evaluated within this limit. -/
theorem execute_within_of_read (read : host.Reads source program) (limit : Nat) (session : Session)
    (store : Store) :
    session.execute (host.within limit) source store =
      ((answer (program.run session.root limit store).1).map fun value => ⟨program, [], some value⟩,
        session.note source, (program.run session.root limit store).2) :=
  execute_of_read session (read.within limit) store

/-- Whatever the host is, executing a text keeps a session clean, and no scope is lost. -/
theorem IsClean.execute_any (clean : session.IsClean .any store) (host : Host) (source : String) :
    (session.execute host source store).2.1.IsClean .any (session.execute host source store).2.2 ∧
      (session.execute host source store).2.2.Extends store := by
  have keeps := execute_keeps (fun after => session.IsClean .any after ∧ after.Extends store)
    (fun _ => True) ⟨clean, .refl store⟩ fun program (_ : host.Reads source program) => by
      have keeps := Program.run_keeps (IntegerRule.obeys_any (.block program.statements))
        clean.scopes clean.root host.callLimit
      have root := Nat.lt_of_lt_of_le clean.root keeps.extended.grown
      exact ⟨⟨⟨keeps.clean, root⟩, keeps.extended⟩, fun _ _ => trivial⟩
  rcases keeps.1 with ⟨kept, extended⟩
  exact ⟨⟨kept.scopes, (execute_root session host source store).symm ▸ kept.root⟩, extended⟩

/-- More nested calls make a difference only to a text that runs out of them. -/
theorem execute_within_eq_of_le (le : fewer ≤ more)
    (finished : ∀ program, host.Reads source program → ¬ session.IsCutOff fewer program store) :
    session.execute (host.within more) source store =
      session.execute (host.within fewer) source store := by
  rcases reads_cases host source with noRoom | ⟨program, problems, refused⟩ | ⟨program, read⟩
  · have nowhere (limit : Nat) : (host.within limit).room.reads source = false := noRoom
    rw [execute_of_noRoom session (nowhere more), execute_of_noRoom session (nowhere fewer)]
  · rw [execute_of_refused session (refused.within more),
      execute_of_refused session (refused.within fewer)]
  · rw [execute_within_of_read read, execute_within_of_read read,
      Program.run_approximates le program session.root store (finished program read)]

/-- A text that runs out of nested calls ends in the error that says so. -/
theorem IsCutOff.execute (cutOff : session.IsCutOff limit program store)
    (read : host.Reads source program) :
    session.execute (host.within limit) source store =
      (.ok ⟨program, [], some (.error .depthExceeded)⟩, session.note source,
        (program.run session.root limit store).2) := by
  rw [execute_within_of_read read, cutOff]
  rfl

/--
Whatever is evaluated within a bound without running out of nested calls ends in the same way, with
the same result and in the same store, within every greater bound.

On hosts that differ only in their bound, a session executes a text with the same outcome, unless the
text runs out of nested calls within the smaller one.  It then ends in the error that says so, with
the scopes as the evaluation left them, and the session evaluates its next texts in the same root
from there.  A session is clean when it begins, and every execution keeps it clean and keeps all of
its scopes, whatever the bound is.
-/
theorem bound_onlyCutsOff {fewer more : Nat} (le : fewer ≤ more) :
    (∀ (part : Part) (scope : Nat) (store : Store),
      (part.evaluate fewer scope store).1 ≠ .error .depthExceeded →
        part.evaluate more scope store = part.evaluate fewer scope store) ∧
    (∀ (program : Program) (scope : Nat) (store : Store),
      (program.run scope fewer store).1 ≠ .error .depthExceeded →
        program.run scope more store = program.run scope fewer store) ∧
    (∀ (function : Value) (arguments : List Value) (store : Store),
      (applyFunction fewer function arguments store).1 ≠ .error .depthExceeded →
        applyFunction more function arguments store =
          applyFunction fewer function arguments store) ∧
    (∀ keepsHistory, (start keepsHistory .empty).1.IsClean .any (start keepsHistory .empty).2) ∧
    ∀ (host : Host) (session : Session) (source : String) (store : Store),
      (session.execute (host.within more) source store ≠
          session.execute (host.within fewer) source store →
        ∃ program, host.Reads source program ∧ session.IsCutOff fewer program store) ∧
      (session.IsClean .any store → ∀ limit,
        let after := session.execute (host.within limit) source store
        after.2.1.IsClean .any after.2.2 ∧ after.2.2.Extends store) ∧
      ∀ program, host.Reads source program → session.IsCutOff fewer program store →
        let left := (program.run session.root fewer store).2
        let noted := session.note source
        session.execute (host.within fewer) source store =
            (.ok ⟨program, [], some (.error .depthExceeded)⟩, noted, left) ∧
          noted.root = session.root ∧
          ∀ limit next nextProgram, host.Reads next nextProgram →
            noted.execute (host.within limit) next left =
              ((answer (nextProgram.run session.root limit left).1).map fun value =>
                ⟨nextProgram, [], some value⟩,
              noted.note next, (nextProgram.run session.root limit left).2) := by
  refine ⟨fun part scope => Part.evaluate_approximates le part scope,
    fun program scope => Program.run_approximates le program scope,
    fun function arguments => applyFunction_approximates le function arguments,
    isClean_start .any, fun host session source store => ⟨?_, ?_, ?_⟩⟩
  · intro differs
    refine Classical.byContradiction fun finished => differs ?_
    exact execute_within_eq_of_le le fun program read cutOff => finished ⟨program, read, cutOff⟩
  · exact fun clean limit => clean.execute_any (host.within limit) source
  · intro program read cutOff
    refine ⟨cutOff.execute read, note_root session source, ?_⟩
    intro limit next nextProgram nextRead
    rw [execute_within_of_read nextRead, note_root]

/-- A program that writes to a name, and then nests two calls. -/
def nestingProgram : Program :=
  ⟨[.bind "n" .null,
    .expression (.call (.function []
      [.expression (.assign "n" (.integer 1)), .expression (.call (.function [] []) [])]) [])]⟩

/--
One call is not enough for this program.  It leaves a clean session, in which the name has the value
that was written to it before the evaluation was cut off.
-/
theorem bound_onlyCutsOff_nested :
    let source := "let n = null; fn() \x7b n = 1; fn() \x7b \x7d() \x7d()"
    let host := Host.ample 0
    let first := (start true .empty).1.execute (host.within 1) source (start true .empty).2
    first.1 = .ok ⟨nestingProgram, [], some (.error .depthExceeded)⟩ ∧
      first.2.1.IsClean .any first.2.2 ∧
        (first.2.1.execute (host.within 2) "n" first.2.2).1 =
          .ok ⟨⟨[.expression (.name "n")]⟩, [], some (.integer 1)⟩ ∧
            (Part.evaluate 3 (.block nestingProgram.statements) 0 .initial).1 = .ok .null := by
  have read : (Host.ample 0).Reads "let n = null; fn() \x7b n = 1; fn() \x7b \x7d() \x7d()"
      nestingProgram := ⟨rfl, rfl⟩
  have nextRead : (Host.ample 0).Reads "n" ⟨[.expression (.name "n")]⟩ := ⟨rfl, rfl⟩
  have enough : (Part.evaluate 2 (.block nestingProgram.statements) 0 .initial).1 ≠
      .error .depthExceeded := nofun
  have cutOff : (start true .empty).1.IsCutOff 1 nestingProgram (start true .empty).2 := rfl
  have le : 1 ≤ 2 := by decide
  rcases bound_onlyCutsOff le with ⟨_, _, _, begins, sessions⟩
  rcases sessions (.ample 0) (start true .empty).1 _ (start true .empty).2 with ⟨_, clean, cut⟩
  rcases cut _ read cutOff with ⟨executed, _, goesOn⟩
  refine ⟨congrArg Prod.fst executed, (clean (begins true) 1).1, ?_, ?_⟩
  · rw [executed, goesOn 2 "n" _ nextRead]
    rfl
  · have more : 2 ≤ 3 := by decide
    rw [(bound_onlyCutsOff more).1 _ 0 .initial enough]
    rfl

end Session

end Jet
