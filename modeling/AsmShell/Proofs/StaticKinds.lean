import AsmShell.Proofs.OperatorFaults

/-!
# Kinds do not depend on values

Which kind of value an expression has, and which fault keeps it from having one, can
be told from the kinds of the variables alone.  `Expr.kindIn` tells it without
computing any value.  The numbers themselves matter only for arithmetic faults, that
is for a zero divisor and for a shift out of range: unless evaluation ends with one of
these, it agrees with `Expr.kindIn`.

So two environments that agree in the kinds of their variables cannot be told apart by
the kind of a result or by any other fault.
-/

namespace AsmShell

/-! ## Kinds of operands -/

namespace Kind

/-- Whether values of the kind are numbers. -/
def isNumeric : Kind → Bool
  | .integer | .float => true
  | .identifier | .string => false

/-- The kind that two operands are brought to, where they have one in common. -/
def common? : Kind → Kind → Option Kind
  | .integer, .integer => some .integer
  | .float, .float | .integer, .float | .float, .integer => some .float
  | .string, .string => some .string
  | .identifier, .identifier => some .identifier
  | _, _ => none

end Kind

@[simp]
theorem Value.isNumeric_kind
    (value : Value) :
    value.kind.isNumeric = value.isNumeric := by
  cases value <;> rfl

/-- The kind of two operands of one kind. -/
def Operands.kind : Operands → Kind
  | .integers _ _ => .integer
  | .floats _ _ => .float
  | .strings _ _ => .string
  | .identifiers _ _ => .identifier

/-- Which kind two values are brought to depends on their kinds only. -/
theorem Operands.map_kind_promote?
    (left right : Value) :
    (Operands.promote? left right).map Operands.kind = Kind.common? left.kind right.kind := by
  cases left <;> cases right <;> rfl

/-! ## Kinds of results -/

/-- The kind of the operator's result, or why there is none. -/
def UnaryOp.resultKind (op : UnaryOp) (operand : Kind) : Except Fault Kind :=
  match op, operand with
  | .not, _ => .ok .integer
  | .plus, .integer | .negate, .integer | .complement, .integer => .ok .integer
  | .plus, .float | .negate, .float => .ok .float
  | _, _ => .error (.unaryMismatch op operand)

/-- Whether operands that are no numbers can be compared by the operator. -/
def ComparisonOp.comparesTexts : ComparisonOp → Bool
  | .equal | .notEqual => true
  | .greater | .less | .greaterEqual | .lessEqual => false

/-- The kind of the operator's result, where it takes operands of the kinds. -/
def BinaryOp.resultKind? (op : BinaryOp) (left right : Kind) : Option Kind :=
  match op with
  | .arithmetic _ => (Kind.common? left right).filter Kind.isNumeric
  | .comparison op =>
      (Kind.common? left right).bind fun common =>
        if common.isNumeric || op.comparesTexts then some .integer else none
  | .logic _ => if left.isNumeric && right.isNumeric then some .integer else none
  | .bitwise _ => if left = .integer ∧ right = .integer then some .integer else none

/-- The kind of the operator's result, or why there is none. -/
def BinaryOp.resultKind (op : BinaryOp) (left right : Kind) : Except Fault Kind :=
  match op.resultKind? left right with
  | some kind => .ok kind
  | none => .error (.binaryMismatch op left right)

/-- The kind of a variable's value, which has to be a number. -/
def Expr.resolveKind (kinds : String → Option Kind) (name : String) : Except Fault Kind :=
  match kinds name with
  | some kind => if kind.isNumeric then .ok kind else .error (.nonNumeric name)
  | none => .error (.unresolved name)

/-- The kind of the expression's value where variables hold values of the given kinds, or the
fault that can be told from these. -/
def Expr.kindIn (kinds : String → Option Kind) : Expr → Except EvalError Kind
  | .literal value _ => .ok value.kind
  | .reference name span => (resolveKind kinds name).mapError fun fault => ⟨fault, span⟩
  | .unary op operand span => do
      let kind ← operand.kindIn kinds
      (op.resultKind kind).mapError fun fault => ⟨fault, span⟩
  | .binary op left right opSpan _ => do
      let leftKind ← left.kindIn kinds
      let rightKind ← right.kindIn kinds
      (op.resultKind leftKind rightKind).mapError fun fault => ⟨fault, opSpan⟩

/-! ## Results of a foretold kind -/

/-- The result is of the kind, or has the fault, that was foretold, or it has one of the excepted
faults. -/
def Foretold
    {Error : Type}
    (excepted : Error → Prop)
    (result : Except Error Value)
    (told : Except Error Kind) :
    Prop :=
  (∃ error, result = .error error ∧ excepted error) ∨ result.map Value.kind = told

/-- A step that is foretold from the kind of what it begins with can follow a foretold result. -/
theorem Foretold.bind
    {Error : Type}
    {excepted : Error → Prop}
    {result : Except Error Value}
    {told : Except Error Kind}
    {next : Value → Except Error Value}
    {nextTold : Kind → Except Error Kind}
    (foretold : Foretold excepted result told)
    (nextForetold : ∀ value, Foretold excepted (next value) (nextTold value.kind)) :
    Foretold excepted (result >>= next) (told >>= nextTold) := by
  rcases foretold with ⟨error, rfl, isExcepted⟩ | rfl
  · exact Or.inl ⟨error, rfl, isExcepted⟩
  · cases result with
    | ok value => exact nextForetold value
    | error error => exact Or.inr rfl

/-- The fault is due to the numbers and not to their kinds. -/
def Fault.IsArithmetic (fault : Fault) : Prop :=
  fault.kind = .arithmetic

/-- The error is a fault that is due to the numbers and not to their kinds. -/
def EvalError.IsArithmetic (error : EvalError) : Prop :=
  error.fault.IsArithmetic

theorem Foretold.reportedAt
    {result : Except Fault Value}
    {told : Except Fault Kind}
    (foretold : Foretold Fault.IsArithmetic result told)
    (span : Span) :
    Foretold EvalError.IsArithmetic (Expr.reportedAt span result)
      (told.mapError fun fault => ⟨fault, span⟩) := by
  rcases foretold with ⟨fault, rfl, isArithmetic⟩ | rfl
  · exact Or.inl ⟨⟨fault, span⟩, rfl, isArithmetic⟩
  · cases result with
    | ok value => exact Or.inr rfl
    | error fault => exact Or.inr rfl

/-- A computation that only the numbers can spoil is foretold by the kind of its result. -/
theorem foretold_map
    {Number : Type}
    {result : Except Fault Number}
    {make : Number → Value}
    {kind : Kind}
    (ofKind : ∀ number, (make number).kind = kind)
    (spoiled : ∀ fault, result = .error fault → fault.IsArithmetic) :
    Foretold Fault.IsArithmetic (result.map make) (.ok kind) := by
  cases result with
  | ok number => exact Or.inr (congrArg Except.ok (ofKind number))
  | error fault => exact Or.inl ⟨fault, rfl, spoiled fault rfl⟩

/-! ## Operators -/

theorem UnaryOp.foretold_apply
    (op : UnaryOp)
    (operand : Value) :
    Foretold Fault.IsArithmetic (op.apply operand) (op.resultKind operand.kind) := by
  right
  cases op <;> cases operand <;> rfl

namespace ArithmeticOp

theorem foretold_apply
    (op : ArithmeticOp)
    (left right : Value) :
    Foretold Fault.IsArithmetic (op.apply left right)
      (BinaryOp.resultKind (.arithmetic op) left.kind right.kind) := by
  have promoted := Operands.map_kind_promote? left right
  rw [apply, BinaryOp.resultKind, BinaryOp.resultKind?, ← promoted]
  cases Operands.promote? left right with
  | none =>
      exact Or.inr rfl
  | some operands =>
      cases operands with
      | integers a b =>
          exact foretold_map (fun _ => rfl) fun _ failed =>
            (failsOnNumbers_of_onIntegers failed).kind_eq
      | floats a b =>
          exact foretold_map (fun _ => rfl) fun _ failed =>
            (failsOnNumbers_of_onFloats failed).kind_eq
      | strings a b =>
          exact Or.inr rfl
      | identifiers a b =>
          exact Or.inr rfl

end ArithmeticOp

theorem ComparisonOp.foretold_apply
    (op : ComparisonOp)
    (left right : Value) :
    Foretold Fault.IsArithmetic (op.apply left right)
      (BinaryOp.resultKind (.comparison op) left.kind right.kind) := by
  right
  have promoted := Operands.map_kind_promote? left right
  rw [apply, compare?, BinaryOp.resultKind, BinaryOp.resultKind?, ← promoted]
  cases Operands.promote? left right with
  | none =>
      rfl
  | some operands =>
      cases operands with
      | integers a b => rfl
      | floats a b => rfl
      | strings a b => cases op <;> rfl
      | identifiers a b => cases op <;> rfl

theorem LogicOp.foretold_apply
    (op : LogicOp)
    (left right : Value) :
    Foretold Fault.IsArithmetic (op.apply left right)
      (BinaryOp.resultKind (.logic op) left.kind right.kind) := by
  right
  rw [apply, BinaryOp.resultKind, BinaryOp.resultKind?, Value.isNumeric_kind,
    Value.isNumeric_kind]
  cases left.isNumeric && right.isNumeric with
  | true => rfl
  | false => rfl

namespace BitwiseOp

theorem foretold_apply
    (op : BitwiseOp)
    (left right : Value) :
    Foretold Fault.IsArithmetic (op.apply left right)
      (BinaryOp.resultKind (.bitwise op) left.kind right.kind) := by
  cases left with
  | integer a =>
      cases right with
      | integer b =>
          exact foretold_map (fun _ => rfl) fun _ failed =>
            (failsOnNumbers_of_onIntegers failed).kind_eq
      | _ =>
          exact Or.inr rfl
  | _ =>
      exact Or.inr rfl

end BitwiseOp

theorem BinaryOp.foretold_apply
    (op : BinaryOp)
    (left right : Value) :
    Foretold Fault.IsArithmetic (op.apply left right) (op.resultKind left.kind right.kind) := by
  cases op with
  | arithmetic op => exact op.foretold_apply left right
  | comparison op => exact op.foretold_apply left right
  | logic op => exact op.foretold_apply left right
  | bitwise op => exact op.foretold_apply left right

/-! ## Expressions -/

/-- The kinds of the variables. -/
def kindsOf (lookup : String → Option Value) (name : String) : Option Kind :=
  (lookup name).map Value.kind

theorem Expr.foretold_resolve
    (lookup : String → Option Value)
    (name : String) :
    Foretold Fault.IsArithmetic (resolve lookup name) (resolveKind (kindsOf lookup) name) := by
  right
  rw [resolve, resolveKind, kindsOf]
  cases lookup name with
  | none =>
      rfl
  | some value =>
      simp only [Option.map_some, Value.isNumeric_kind]
      cases value.isNumeric with
      | true => rfl
      | false => rfl

/-- Unless evaluation ends with an arithmetic fault, its result is of the foretold kind. -/
theorem Expr.foretold_eval
    (lookup : String → Option Value)
    (expr : Expr) :
    Foretold EvalError.IsArithmetic (expr.eval lookup) (expr.kindIn (kindsOf lookup)) := by
  induction expr with
  | literal value span =>
      exact Or.inr rfl
  | reference name span =>
      exact (foretold_resolve lookup name).reportedAt span
  | unary op operand span operandHypothesis =>
      apply operandHypothesis.bind
      intro value
      exact (op.foretold_apply value).reportedAt span
  | binary op left right opSpan span leftHypothesis rightHypothesis =>
      apply leftHypothesis.bind
      intro leftValue
      apply rightHypothesis.bind
      intro rightValue
      exact (op.foretold_apply leftValue rightValue).reportedAt opSpan

theorem exists_kind_or_error_of_map_kind_eq
    {Error : Type}
    {first second : Except Error Value}
    (same : first.map Value.kind = second.map Value.kind) :
    (∃ firstValue secondValue,
      first = .ok firstValue ∧ second = .ok secondValue ∧
        firstValue.kind = secondValue.kind) ∨
      ∃ error, first = .error error ∧ second = .error error := by
  cases first with
  | ok firstValue =>
      cases second with
      | ok secondValue => exact Or.inl ⟨firstValue, secondValue, rfl, rfl, Except.ok.inj same⟩
      | error error => cases same
  | error error =>
      cases second with
      | ok secondValue => cases same
      | error other => exact Or.inr ⟨error, rfl, congrArg _ (Except.error.inj same).symm⟩

/--
Two environments that define the same names, each with values of one kind, give results of
one kind or the same error, unless an evaluation ends with an arithmetic fault.
-/
theorem kinds_independent_of_values
    (first second : String → Option Value)
    (sameKinds : ∀ name, (first name).map Value.kind = (second name).map Value.kind)
    (expr : Expr) :
    (∃ error, expr.eval first = .error error ∧ error.fault.kind = .arithmetic) ∨
      (∃ error, expr.eval second = .error error ∧ error.fault.kind = .arithmetic) ∨
      (∃ firstValue secondValue,
        expr.eval first = .ok firstValue ∧ expr.eval second = .ok secondValue ∧
          firstValue.kind = secondValue.kind) ∨
      ∃ error, expr.eval first = .error error ∧ expr.eval second = .error error := by
  have same : kindsOf first = kindsOf second := funext sameKinds
  rcases expr.foretold_eval first with arithmetic | firstTold
  · exact Or.inl arithmetic
  rcases expr.foretold_eval second with arithmetic | secondTold
  · exact Or.inr (Or.inl arithmetic)
  -- Both results are compared with one foretold kind.
  rw [same, ← secondTold] at firstTold
  exact Or.inr (Or.inr (exists_kind_or_error_of_map_kind_eq firstTold))

/-- One number shifted by three and by five places: both results are numbers, so both
comparisons with a text fail alike. -/
theorem kinds_independent_of_values_of_shift :
    ∃ (first second : String → Option Value) (expr : Expr),
      expr =
          .binary (.comparison .equal)
            (.binary (.bitwise .shiftLeft) (.literal (.integer 1) ⟨0, 0⟩)
              (.reference "places" ⟨5, 11⟩) ⟨2, 3⟩ ⟨0, 11⟩)
            (.literal (.string "8") ⟨16, 18⟩) ⟨13, 14⟩ ⟨0, 18⟩ ∧
        first "places" = some (.integer 3) ∧ second "places" = some (.integer 5) ∧
        (∀ name, (first name).map Value.kind = (second name).map Value.kind) ∧
        ((∃ error, expr.eval first = .error error ∧ error.fault.kind = .arithmetic) ∨
          (∃ error, expr.eval second = .error error ∧ error.fault.kind = .arithmetic) ∨
          (∃ firstValue secondValue,
            expr.eval first = .ok firstValue ∧ expr.eval second = .ok secondValue ∧
              firstValue.kind = secondValue.kind) ∨
          ∃ error, expr.eval first = .error error ∧ expr.eval second = .error error) := by
  let holding (places : Int64) (name : String) : Option Value :=
    if name = "places" then some (.integer places) else none
  have sameKinds (name : String) :
      (holding 3 name).map Value.kind = (holding 5 name).map Value.kind := by
    by_cases isPlaces : name = "places"
    · simp [holding, isPlaces, Value.kind]
    · simp [holding, isPlaces]
  exact ⟨holding 3, holding 5, _, rfl, rfl, rfl, sameKinds,
    kinds_independent_of_values (holding 3) (holding 5) sameKinds _⟩

end AsmShell
