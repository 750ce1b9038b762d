import AsmShell.Expr
import AsmShell.Proofs.Results

/-!
# Evaluation is strict and reports the first failure

Evaluation visits every node of a tree: the operands from left to right, then the
operator.  A node can fail by itself only after all its operands have given a value,
and the first node that does so decides the error of the whole tree.  No operator
leaves an operand out, so a tree has a value exactly if each of its nodes has one.

`postorder` lists the nodes in the order of the visits, and `ownError?` computes the
error that a node adds by itself.  The central equation,
`findSome?_ownError?_postorder`, says that searching this list is evaluating the tree.
-/

namespace AsmShell.Expr

variable (lookup : String → Option Value)

/-- The expression and all expressions inside it, operands in front of their operator. -/
def postorder : Expr → List Expr
  | .literal value span => [.literal value span]
  | .reference name span => [.reference name span]
  | .unary op operand span => operand.postorder ++ [.unary op operand span]
  | .binary op left right opSpan span =>
      left.postorder ++ (right.postorder ++ [.binary op left right opSpan span])

theorem mem_postorder_self
    (expr : Expr) :
    expr ∈ expr.postorder := by
  cases expr <;> simp [postorder]

/-- A node whose operands all have values has none itself, for the given error. -/
inductive FailsItself : Expr → EvalError → Prop where
  | unresolved {name : String} {span : Span} :
      lookup name = none →
      FailsItself (.reference name span) ⟨.unresolved name, span⟩
  | nonNumeric {name : String} {span : Span} {value : Value} :
      lookup name = some value → value.isNumeric = false →
      FailsItself (.reference name span) ⟨.nonNumeric name, span⟩
  | unary {op : UnaryOp} {operand : Expr} {span : Span} {value : Value} {fault : Fault} :
      operand.eval lookup = .ok value → op.apply value = .error fault →
      FailsItself (.unary op operand span) ⟨fault, span⟩
  | binary {op : BinaryOp} {left right : Expr} {opSpan span : Span}
      {leftValue rightValue : Value} {fault : Fault} :
      left.eval lookup = .ok leftValue → right.eval lookup = .ok rightValue →
      op.apply leftValue rightValue = .error fault →
      FailsItself (.binary op left right opSpan span) ⟨fault, opSpan⟩

/-! ## Strictness -/

/-- An expression that has a value leaves no node without one. -/
theorem exists_eval_of_mem_postorder
    {expr : Expr}
    {value : Value}
    (evaluated : expr.eval lookup = .ok value) :
    ∀ node ∈ expr.postorder, ∃ nodeValue, node.eval lookup = .ok nodeValue := by
  induction expr generalizing value with
  | literal literal span =>
      intro node member
      rw [List.mem_singleton.1 member]
      exact ⟨value, evaluated⟩
  | reference name span =>
      intro node member
      rw [List.mem_singleton.1 member]
      exact ⟨value, evaluated⟩
  | unary op operand span operandHypothesis =>
      intro node member
      rcases bind_eq_ok.1 evaluated with ⟨operandValue, operandEvaluated, _⟩
      rcases List.mem_append.1 member with inOperand | isRoot
      · exact operandHypothesis operandEvaluated node inOperand
      · rw [List.mem_singleton.1 isRoot]
        exact ⟨value, evaluated⟩
  | binary op left right opSpan span leftHypothesis rightHypothesis =>
      intro node member
      rcases bind_eq_ok.1 evaluated with ⟨leftValue, leftEvaluated, others⟩
      rcases bind_eq_ok.1 others with ⟨rightValue, rightEvaluated, _⟩
      simp only [postorder, List.mem_append, List.mem_singleton] at member
      rcases member with inLeft | inRight | rfl
      · exact leftHypothesis leftEvaluated node inLeft
      · exact rightHypothesis rightEvaluated node inRight
      · exact ⟨value, evaluated⟩

/-! ## The first failure -/

/-- The error of a result that is one. -/
def error? : Except EvalError Value → Option EvalError
  | .ok _ => none
  | .error error => some error

theorem error?_eq_some_iff
    {result : Except EvalError Value}
    {error : EvalError} :
    error? result = some error ↔ result = .error error := by
  cases result with
  | ok value => simp [error?]
  | error other => simp [error?]

/-- The error that a node adds by itself once its operands have values. -/
def ownError? : Expr → Option EvalError
  | .literal _ _ => none
  | .reference name span => error? (reportedAt span (resolve lookup name))
  | .unary op operand span =>
      match operand.eval lookup with
      | .ok value => error? (reportedAt span (op.apply value))
      | .error _ => none
  | .binary op left right opSpan _ =>
      match left.eval lookup, right.eval lookup with
      | .ok leftValue, .ok rightValue =>
          error? (reportedAt opSpan (op.apply leftValue rightValue))
      | _, _ => none

theorem error?_reportedAt_eq_some_iff
    {span : Span}
    {result : Except Fault Value}
    {error : EvalError} :
    error? (reportedAt span result) = some error ↔
      ∃ fault, result = .error fault ∧ ⟨fault, span⟩ = error :=
  error?_eq_some_iff.trans mapError_eq_error

theorem resolve_eq_error_iff
    {name : String}
    {fault : Fault} :
    resolve lookup name = .error fault ↔
      (lookup name = none ∧ .unresolved name = fault) ∨
        ∃ value, lookup name = some value ∧ value.isNumeric = false ∧
          .nonNumeric name = fault := by
  cases found : lookup name with
  | none =>
      simp [resolve, found]
  | some value =>
      cases numeric : value.isNumeric with
      | true => simp [resolve, found, numeric]
      | false => simp [resolve, found, numeric]

theorem ownError?_eq_some_iff
    {node : Expr}
    {error : EvalError} :
    node.ownError? lookup = some error ↔ node.FailsItself lookup error := by
  constructor
  · intro failed
    cases node with
    | literal value span =>
        cases failed
    | reference name span =>
        rcases error?_reportedAt_eq_some_iff.1 failed with ⟨fault, faulty, rfl⟩
        rcases (resolve_eq_error_iff lookup).1 faulty with
          ⟨missing, rfl⟩ | ⟨value, found, notNumeric, rfl⟩
        · exact .unresolved missing
        · exact .nonNumeric found notNumeric
    | unary op operand span =>
        rw [ownError?] at failed
        split at failed
        · next value evaluated =>
            rcases error?_reportedAt_eq_some_iff.1 failed with ⟨fault, faulty, rfl⟩
            exact .unary evaluated faulty
        · cases failed
    | binary op left right opSpan span =>
        rw [ownError?] at failed
        split at failed
        · next leftValue rightValue leftEvaluated rightEvaluated =>
            rcases error?_reportedAt_eq_some_iff.1 failed with ⟨fault, faulty, rfl⟩
            exact .binary leftEvaluated rightEvaluated faulty
        · cases failed
  · intro fails
    cases fails with
    | unresolved missing =>
        exact error?_reportedAt_eq_some_iff.2
          ⟨_, (resolve_eq_error_iff lookup).2 (Or.inl ⟨missing, rfl⟩), rfl⟩
    | nonNumeric found notNumeric =>
        exact error?_reportedAt_eq_some_iff.2
          ⟨_, (resolve_eq_error_iff lookup).2 (Or.inr ⟨_, found, notNumeric, rfl⟩), rfl⟩
    | unary evaluated failed =>
        simp only [ownError?, evaluated]
        exact error?_reportedAt_eq_some_iff.2 ⟨_, failed, rfl⟩
    | binary leftEvaluated rightEvaluated failed =>
        simp only [ownError?, leftEvaluated, rightEvaluated]
        exact error?_reportedAt_eq_some_iff.2 ⟨_, failed, rfl⟩

/-- Evaluation ends with the first error that a node adds by itself. -/
theorem findSome?_ownError?_postorder
    (expr : Expr) :
    expr.postorder.findSome? (ownError? lookup) = error? (expr.eval lookup) := by
  induction expr with
  | literal value span =>
      rfl
  | reference name span =>
      rw [postorder, List.findSome?_singleton]
      rfl
  | unary op operand span operandHypothesis =>
      rw [postorder, List.findSome?_append, operandHypothesis, List.findSome?_singleton,
        ownError?, eval]
      cases operand.eval lookup with
      | ok value => rfl
      | error error => rfl
  | binary op left right opSpan span leftHypothesis rightHypothesis =>
      rw [postorder, List.findSome?_append, List.findSome?_append, leftHypothesis,
        rightHypothesis, List.findSome?_singleton, ownError?, eval]
      -- An error of the left operand ends the search and the evaluation alike.
      cases left.eval lookup with
      | error error =>
          rfl
      | ok leftValue =>
          cases right.eval lookup with
          | ok rightValue => rfl
          | error error => rfl

/--
An expression has a value exactly if all its nodes have one.  It fails exactly with
the error of the first node, operands in front of operators and left in front of
right, that fails by itself.
-/
theorem evaluation_reports_first_failure
    (expr : Expr) :
    ((∃ value, expr.eval lookup = .ok value) ↔
        ∀ node ∈ expr.postorder, ∃ value, node.eval lookup = .ok value) ∧
      ∀ error,
        expr.eval lookup = .error error ↔
          ∃ before node after,
            expr.postorder = before ++ node :: after ∧
              node.FailsItself lookup error ∧
              ∀ earlier ∈ before, ∀ other, ¬ earlier.FailsItself lookup other := by
  refine ⟨⟨?_, ?_⟩, ?_⟩
  · rintro ⟨value, evaluated⟩
    exact exists_eval_of_mem_postorder lookup evaluated
  · intro allEvaluated
    exact allEvaluated expr (mem_postorder_self expr)
  · intro error
    rw [← error?_eq_some_iff, ← findSome?_ownError?_postorder, List.findSome?_eq_some_iff]
    simp only [ownError?_eq_some_iff, Option.eq_none_iff_forall_ne_some, ne_eq]

-- The left operand of `0 && 1 / 0` already decides the truth of the whole, but not its value.
example :
    (Expr.binary (.logic .and) (.literal (.integer 0) ⟨0, 0⟩)
      (.binary (.arithmetic .divide) (.literal (.integer 1) ⟨5, 5⟩) (.literal (.integer 0) ⟨9, 9⟩)
        ⟨7, 7⟩ ⟨5, 9⟩)
      ⟨2, 3⟩ ⟨0, 9⟩).eval (fun _ => none) =
      .error ⟨.divisionByZero, ⟨7, 7⟩⟩ :=
  rfl

end AsmShell.Expr
