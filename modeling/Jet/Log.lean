/-!
# The log

Messages about the work itself, apart from its output.  Each has a source and a level; a log is
shown down to a least level.
-/

namespace Jet

/-- How important a message is, least first. -/
inductive Level where
  | debug
  | info
  | warning
  | error
  | critical
deriving DecidableEq, Repr

namespace Level

/-- Every level, least first. -/
def all : List Level :=
  [debug, info, warning, error, critical]

/-- The name of a level. -/
def name : Level → String
  | debug => "DEBUG"
  | info => "INFO"
  | warning => "WARNING"
  | error => "ERROR"
  | critical => "CRITICAL"

/-- The level of a name. -/
def ofName? (text : String) : Option Level :=
  all.find? fun level => level.name == text

theorem name_mem (level : Level) :
    level.name ∈ all.map name := by
  cases level <;> decide

/-- A level is found by its name alone. -/
theorem ofName?_eq_some_iff {text : String} {level : Level} :
    ofName? text = some level ↔ level.name = text := by
  constructor
  · intro found
    rw [ofName?] at found
    have same := List.find?_some found
    exact beq_iff_eq.mp same
  · rintro rfl
    cases level <;> rfl

theorem name_injective {left right : Level}
    (same : left.name = right.name) :
    left = right :=
  Option.some.inj ((ofName?_eq_some_iff.mpr same).symm.trans (ofName?_eq_some_iff.mpr rfl))

theorem ofName?_eq_none_iff {text : String} :
    ofName? text = none ↔ text ∉ all.map name := by
  rw [ofName?, List.find?_eq_none, List.mem_map]
  constructor
  · rintro none ⟨level, member, rfl⟩
    exact none level member (beq_self_eq_true _)
  · rintro unknown level member same
    exact unknown ⟨level, member, beq_iff_eq.mp same⟩

/-- The place of a level in their order. -/
def rank : Level → Nat
  | debug => 0
  | info => 1
  | warning => 2
  | error => 3
  | critical => 4

end Level

/-- A message of the log. -/
structure LogEntry where
  source : String
  level : Level
  message : String
deriving DecidableEq, Repr

/-- A message on a line of its own. -/
def LogEntry.line (entry : LogEntry) : String :=
  entry.source ++ " " ++ entry.level.name ++ " " ++ entry.message ++ "\n"

/-- The lines of a log from a level on. -/
def logLines (threshold : Level) (entries : List LogEntry) : String :=
  let kept := entries.filter fun entry => threshold.rank ≤ entry.level.rank
  String.join (kept.map LogEntry.line)

end Jet
