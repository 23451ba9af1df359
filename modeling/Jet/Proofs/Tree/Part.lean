import Jet.Proofs.Tree.Occurrence
import Jet.Tree.Basic

/-!
# Parts of trees

A tree is made of expressions, statements and lists of statements, and each of these is a part of
it, made in turn of the parts that are its children.  `Part.induction` proves a property of all
parts from the children of a part to the part.
-/

namespace Jet

/-- An expression, a statement, or a list of statements. -/
inductive Part where
  | expression (tree : Expr)
  | statement (tree : Stmt)
  /-- A program, a branch of a conditional, the body of a function, or a block. -/
  | block (trees : List Stmt)

namespace Part

/-- The parts that a part is directly made of. -/
def children : Part → List Part
  | .expression (.unary _ operand) => [.expression operand]
  | .expression (.binary left _ right) => [.expression left, .expression right]
  | .expression (.assign _ value) => [.expression value]
  | .expression (.conditional condition consequence none) =>
      [.expression condition, .block consequence]
  | .expression (.conditional condition consequence (some alternative)) =>
      [.expression condition, .block consequence, .block alternative]
  | .expression (.function _ body) => [.block body]
  | .expression (.call callee arguments) => .expression callee :: arguments.map .expression
  | .expression (.array elements) => elements.map .expression
  | .expression (.index collection position) => [.expression collection, .expression position]
  | .expression (.hash pairs) =>
      pairs.flatMap fun (key, value) => [.expression key, .expression value]
  | .statement (.bind _ value) => [.expression value]
  | .statement (.return (some value)) => [.expression value]
  | .statement (.expression value) => [.expression value]
  | .statement (.block body) => [.block body]
  | .block trees => trees.map .statement
  | _ => []

/-- Whether a part lies inside another, or is the same. -/
abbrev Occurs : Part → Part → Prop :=
  Jet.Occurs children

/-- Whether every part that lies inside a part obeys a rule. -/
abbrev Obeys : (Part → Prop) → Part → Prop :=
  Jet.Obeys children

/-- What holds of the children of a conditional holds of its condition and its blocks. -/
theorem forall_mem_children_conditional {holds : Part → Prop} {condition : Expr}
    {consequence : List Stmt} {alternative : Option (List Stmt)} :
    (∀ child ∈ children (.expression (.conditional condition consequence alternative)),
        holds child) ↔
      holds (.expression condition) ∧ holds (.block consequence) ∧
        ∀ block ∈ alternative, holds (.block block) := by
  cases alternative <;> simp [children]

/-- What holds of the children of a hash literal holds of all keys and values. -/
theorem forall_mem_children_hash {holds : Part → Prop} {pairs : List (Expr × Expr)} :
    (∀ child ∈ children (.expression (.hash pairs)), holds child) ↔
      ∀ pair ∈ pairs, holds (.expression pair.1) ∧ holds (.expression pair.2) := by
  rw [children, List.forall_mem_flatMap]
  refine forall_congr' fun pair => forall_congr' fun _ => ?_
  rw [List.forall_mem_cons, List.forall_mem_singleton]

/-- The children of a part are smaller than the part. -/
theorem sizeOf_lt_of_mem_children {child whole : Part}
    (member : child ∈ whole.children) :
    sizeOf child < sizeOf whole := by
  unfold children at member
  split at member
  case h_7 =>
      rcases List.mem_cons.mp member with rfl | member
      · simp +arith
      · rcases List.mem_map.mp member with ⟨tree, inside, rfl⟩
        have smaller := List.sizeOf_lt_of_mem inside
        simp only [expression.sizeOf_spec, Expr.call.sizeOf_spec]
        omega
  case h_8 =>
      rcases List.mem_map.mp member with ⟨tree, inside, rfl⟩
      have smaller := List.sizeOf_lt_of_mem inside
      simp only [expression.sizeOf_spec, Expr.array.sizeOf_spec]
      omega
  case h_10 =>
      rcases List.mem_flatMap.mp member with ⟨⟨key, value⟩, inside, member⟩
      have smaller := List.sizeOf_lt_of_mem inside
      simp only [Prod.mk.sizeOf_spec] at smaller
      simp only [List.mem_cons, List.not_mem_nil, or_false] at member
      rcases member with rfl | rfl <;>
        simp only [expression.sizeOf_spec, Expr.hash.sizeOf_spec] <;> omega
  case h_15 =>
      rcases List.mem_map.mp member with ⟨tree, inside, rfl⟩
      have smaller := List.sizeOf_lt_of_mem inside
      simp only [statement.sizeOf_spec, block.sizeOf_spec]
      omega
  case h_16 => cases member
  all_goals
    simp only [List.mem_cons, List.not_mem_nil, or_false] at member
    rcases member with rfl | rfl | rfl <;> simp +arith

/-- What holds of a part as soon as it holds of its children holds of every part. -/
theorem induction {motive : Part → Prop}
    (step : ∀ whole, (∀ child ∈ whole.children, motive child) → motive whole) (whole : Part) :
    motive whole :=
  step whole fun child _ => induction step child
termination_by sizeOf whole
decreasing_by
  rename_i member
  exact sizeOf_lt_of_mem_children member

end Part

end Jet
