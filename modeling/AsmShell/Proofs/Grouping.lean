import AsmShell.Expr

/-!
# How a chain of operators groups

A chain is a first operand and operators that each have an operand behind them.
`grouped` is the tree that precedences ask for: the operator that binds loosest,
and of several such operators the last one, is the root, and the two halves of
the chain around it are grouped in the same way.

The definition looks at the whole chain at once.  A reader goes from left to
right instead, and `grouped_cons_append` is what lets it do so: as soon as an
operator that does not bind tighter than the first one comes up, the first
operator and everything before the new one are a finished operand.
-/

namespace AsmShell

/-- An operator between two operands, with the operand behind it. -/
structure Link where
  op : BinaryOp
  opSpan : Span
  right : Expr

namespace Link

/-- How tightly the operator of the link binds. -/
def precedence (link : Link) : Int :=
  link.op.precedence

/-- The tree in which the link's operator joins two operands. -/
def node (link : Link) (left right : Expr) : Expr :=
  .binary link.op left right link.opSpan (left.span.through right.span)

end Link

/-- The last of the operators that bind loosest, with the links on both sides of it. -/
def splitLoosest : List Link → Option (List Link × Link × List Link)
  | [] => none
  | link :: rest =>
      match splitLoosest rest with
      | none => some ([], link, [])
      | some (before, loosest, after) =>
          if loosest.precedence ≤ link.precedence then
            some (link :: before, loosest, after)
          else some ([], link, rest)

/-- The operator that splits a chain is the last one of least precedence. -/
structure SplitsAt (before : List Link) (loosest : Link) (after : List Link) : Prop where
  not_looser_before : ∀ link ∈ before, loosest.precedence ≤ link.precedence
  tighter_after : ∀ link ∈ after, loosest.precedence < link.precedence

theorem splitLoosest_eq_none_iff
    (links : List Link) :
    splitLoosest links = none ↔ links = [] := by
  cases links with
  | nil =>
      simp [splitLoosest]
  | cons link rest =>
      simp only [splitLoosest, reduceCtorEq, iff_false]
      split
      · simp
      · split <;> simp

theorem splitLoosest_splits
    (links before after : List Link)
    (loosest : Link)
    (split : splitLoosest links = some (before, loosest, after)) :
    links = before ++ loosest :: after ∧ SplitsAt before loosest after := by
  induction links generalizing before loosest after with
  | nil =>
      simp [splitLoosest] at split
  | cons link rest restHypothesis =>
      rw [splitLoosest] at split
      cases restSplit : splitLoosest rest with
      | none =>
          have restEmpty : rest = [] := (splitLoosest_eq_none_iff rest).1 restSplit
          simp only [restSplit, Option.some.injEq, Prod.mk.injEq] at split
          rcases split with ⟨rfl, rfl, rfl⟩
          subst restEmpty
          exact ⟨rfl, by simp, by simp⟩
      | some pieces =>
          rcases pieces with ⟨restBefore, restLoosest, restAfter⟩
          rcases restHypothesis _ _ _ restSplit with ⟨restParts, restSplits⟩
          by_cases looser : restLoosest.precedence ≤ link.precedence
          · simp only [restSplit, if_pos looser, Option.some.injEq, Prod.mk.injEq] at split
            rcases split with ⟨rfl, rfl, rfl⟩
            refine ⟨by rw [restParts, List.cons_append], ?_, restSplits.tighter_after⟩
            intro other member
            rcases List.mem_cons.1 member with rfl | inRest
            · exact looser
            · exact restSplits.not_looser_before other inRest
          · simp only [restSplit, if_neg looser, Option.some.injEq, Prod.mk.injEq] at split
            rcases split with ⟨rfl, rfl, rfl⟩
            refine ⟨rfl, by simp, ?_⟩
            intro other member
            rw [restParts] at member
            rcases List.mem_append.1 member with inBefore | inAfter
            · have := restSplits.not_looser_before other inBefore
              omega
            · rcases List.mem_cons.1 inAfter with rfl | inAfter
              · omega
              · have := restSplits.tighter_after other inAfter
                omega

theorem splitLoosest_lengths
    {links before after : List Link}
    {loosest : Link}
    (split : splitLoosest links = some (before, loosest, after)) :
    before.length < links.length ∧ after.length < links.length := by
  have parts := (splitLoosest_splits links before after loosest split).1
  rw [parts, List.length_append, List.length_cons]
  omega

/--
The tree of a chain: the last operator of least precedence is its root, and the
two halves of the chain around it are grouped in the same way.
-/
def grouped (first : Expr) (links : List Link) : Expr :=
  match _split : splitLoosest links with
  | none => first
  | some (before, loosest, after) =>
      loosest.node (grouped first before) (grouped loosest.right after)
termination_by links.length
decreasing_by
  · exact (splitLoosest_lengths _split).1
  · exact (splitLoosest_lengths _split).2

@[simp]
theorem grouped_nil
    (first : Expr) :
    grouped first [] = first := by
  rw [grouped]
  rfl

/-- A list is split at its last element of least precedence in one way only. -/
theorem SplitsAt.splitLoosest_eq
    {before after : List Link}
    {loosest : Link}
    (splits : SplitsAt before loosest after) :
    splitLoosest (before ++ loosest :: after) = some (before, loosest, after) := by
  induction before with
  | nil =>
      rw [List.nil_append, splitLoosest]
      cases afterSplit : splitLoosest after with
      | none =>
          rw [(splitLoosest_eq_none_iff after).1 afterSplit]
      | some pieces =>
          rcases pieces with ⟨afterBefore, afterLoosest, afterAfter⟩
          have parts := (splitLoosest_splits _ _ _ _ afterSplit).1
          have tighter : loosest.precedence < afterLoosest.precedence :=
            splits.tighter_after afterLoosest (by simp [parts])
          exact if_neg (Int.not_le.2 tighter)
  | cons link rest restHypothesis =>
      have restSplits : SplitsAt rest loosest after :=
        ⟨fun other member => splits.not_looser_before other (List.mem_cons_of_mem link member),
          splits.tighter_after⟩
      have looser : loosest.precedence ≤ link.precedence :=
        splits.not_looser_before link List.mem_cons_self
      rw [List.cons_append, splitLoosest, restHypothesis restSplits]
      exact if_pos looser

/-- The tree of a chain around its last operator of least precedence. -/
theorem SplitsAt.grouped_eq
    {before after : List Link}
    {loosest : Link}
    (splits : SplitsAt before loosest after)
    (first : Expr) :
    grouped first (before ++ loosest :: after) =
      loosest.node (grouped first before) (grouped loosest.right after) := by
  rw [grouped, splits.splitLoosest_eq]

/-- Every chain with an operator has a last operator of least precedence. -/
theorem exists_splitsAt
    (link : Link)
    (rest : List Link) :
    ∃ before loosest after,
      link :: rest = before ++ loosest :: after ∧ SplitsAt before loosest after := by
  cases split : splitLoosest (link :: rest) with
  | none =>
      cases (splitLoosest_eq_none_iff _).1 split
  | some pieces =>
      exact ⟨_, _, _, splitLoosest_splits _ _ _ _ split⟩

/-- Induction over the way a chain groups. -/
@[elab_as_elim]
theorem grouping_induction
    {motive : Expr → List Link → Prop}
    (single : ∀ first, motive first [])
    (joined : ∀ first before loosest after,
      SplitsAt before loosest after →
      motive first before →
      motive loosest.right after →
      motive first (before ++ loosest :: after))
    (first : Expr)
    (links : List Link) :
    motive first links := by
  induction count : links.length using Nat.strongRecOn generalizing first links with
  | ind count shorter =>
      cases links with
      | nil =>
          exact single first
      | cons link rest =>
          rcases exists_splitsAt link rest with
            ⟨before, loosest, after, parts, splits⟩
          rw [parts, List.length_append, List.length_cons] at count
          rw [parts]
          apply joined first before loosest after splits
          · exact shorter before.length (by omega) first before rfl
          · exact shorter after.length (by omega) loosest.right after rfl

/-- A first operator is done with as soon as one that does not bind tighter comes up. -/
theorem grouped_cons_append
    (first : Expr)
    (link : Link)
    (tighter looser : List Link)
    (allTighter : ∀ other ∈ tighter, link.precedence < other.precedence)
    (nextLooser : ∀ next ∈ looser.head?, next.precedence ≤ link.precedence) :
    grouped first (link :: (tighter ++ looser)) =
      grouped (link.node first (grouped link.right tighter)) looser := by
  revert nextLooser
  -- The induction is on how the looser part groups: its root is the root of the whole chain.
  refine grouping_induction
    (motive := fun _ looser =>
      (∀ next ∈ looser.head?, next.precedence ≤ link.precedence) →
        grouped first (link :: (tighter ++ looser)) =
          grouped (link.node first (grouped link.right tighter)) looser)
    ?_ ?_ first looser
  · intro _ _
    have splits : SplitsAt [] link tighter := ⟨by simp, allTighter⟩
    rw [List.append_nil, grouped_nil]
    simpa using splits.grouped_eq first
  · intro _ before loosest after splits beforeHypothesis _ nextLooser
    have beforeLooser : ∀ next ∈ before.head?, next.precedence ≤ link.precedence := by
      cases before with
      | nil => simp
      | cons next _ => exact nextLooser
    have loosestIsLooser : loosest.precedence ≤ link.precedence := by
      cases before with
      | nil => exact nextLooser loosest rfl
      | cons next _ =>
          have := splits.not_looser_before next List.mem_cons_self
          have := nextLooser next rfl
          omega
    have wholeSplits : SplitsAt (link :: (tighter ++ before)) loosest after := by
      refine ⟨?_, splits.tighter_after⟩
      intro other member
      rcases List.mem_cons.1 member with rfl | member
      · exact loosestIsLooser
      · rcases List.mem_append.1 member with inTighter | inBefore
        · have := allTighter other inTighter
          omega
        · exact splits.not_looser_before other inBefore
    calc
      grouped first (link :: (tighter ++ (before ++ loosest :: after))) =
          grouped first ((link :: (tighter ++ before)) ++ loosest :: after) := by simp
      _ = loosest.node (grouped first (link :: (tighter ++ before)))
            (grouped loosest.right after) := wholeSplits.grouped_eq first
      _ = loosest.node
            (grouped (link.node first (grouped link.right tighter)) before)
            (grouped loosest.right after) := by rw [beforeHypothesis beforeLooser]
      _ = grouped (link.node first (grouped link.right tighter))
            (before ++ loosest :: after) := (splits.grouped_eq _).symm

/-! ## The height of a grouped chain -/

theorem height_le_height_grouped
    (first : Expr)
    (links : List Link) :
    first.height ≤ (grouped first links).height := by
  induction first, links using grouping_induction with
  | single first =>
      exact Nat.le_of_eq (by rw [grouped_nil])
  | joined first before loosest after splits beforeHypothesis _ =>
      rw [splits.grouped_eq, Link.node, Expr.height]
      omega

theorem right_height_le_height_grouped
    (first : Expr)
    (links : List Link) :
    ∀ link ∈ links, link.right.height ≤ (grouped first links).height := by
  induction first, links using grouping_induction with
  | single first =>
      simp
  | joined first before loosest after splits beforeHypothesis afterHypothesis =>
      intro link member
      rw [splits.grouped_eq, Link.node, Expr.height]
      rcases List.mem_append.1 member with inBefore | member
      · have := beforeHypothesis link inBefore
        omega
      · rcases List.mem_cons.1 member with rfl | inAfter
        · have := height_le_height_grouped link.right after
          omega
        · have := afterHypothesis link inAfter
          omega

end AsmShell
