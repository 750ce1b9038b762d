import AsmShell.Text.Pattern

/-!
# Derivatives denote what they should

The derivative of a pattern by a character denotes exactly the texts that extend
the character to a text of the pattern.  Together with the test for the empty
text this makes running a pattern over a text a decision of `Pattern.Matches`.
-/

namespace AsmShell.Text.Pattern

/-! ## Texts of each form of pattern -/

@[simp]
theorem not_matches_never (text : List Char) :
    ¬ Matches .never text := by
  intro matched
  cases matched

@[simp]
theorem matches_empty_iff (text : List Char) :
    Matches .empty text ↔ text = [] := by
  constructor
  · intro matched
    cases matched
    rfl
  · rintro rfl
    exact .empty

@[simp]
theorem matches_oneOf_iff (accepts : Char → Bool) (text : List Char) :
    Matches (.oneOf accepts) text ↔
      ∃ character, text = [character] ∧ accepts character = true := by
  constructor
  · intro matched
    cases matched with
    | oneOf accepted => exact ⟨_, rfl, accepted⟩
  · rintro ⟨character, rfl, accepted⟩
    exact .oneOf accepted

@[simp]
theorem matches_seq_iff (first second : Pattern) (text : List Char) :
    Matches (.seq first second) text ↔
      ∃ front back, text = front ++ back ∧
        Matches first front ∧ Matches second back := by
  constructor
  · intro matched
    cases matched with
    | seq firstMatched secondMatched =>
      exact ⟨_, _, rfl, firstMatched, secondMatched⟩
  · rintro ⟨front, back, rfl, firstMatched, secondMatched⟩
    exact .seq firstMatched secondMatched

@[simp]
theorem matches_alt_iff (left right : Pattern) (text : List Char) :
    Matches (.alt left right) text ↔
      Matches left text ∨ Matches right text := by
  constructor
  · intro matched
    cases matched with
    | altLeft leftMatched => exact Or.inl leftMatched
    | altRight rightMatched => exact Or.inr rightMatched
  · rintro (leftMatched | rightMatched)
    · exact .altLeft leftMatched
    · exact .altRight rightMatched

/-- A repetition that begins with a character begins with a text of its body that does. -/
theorem matches_star_cons_iff (body : Pattern) (character : Char) (text : List Char) :
    Matches (.star body) (character :: text) ↔
      ∃ front back, text = front ++ back ∧
        Matches body (character :: front) ∧ Matches (.star body) back := by
  constructor
  · intro matched
    generalize repeated : Pattern.star body = pattern at matched
    generalize whole : character :: text = word at matched
    induction matched generalizing text with
    | empty => cases repeated
    | oneOf _ => cases repeated
    | seq _ _ => cases repeated
    | altLeft _ => cases repeated
    | altRight _ => cases repeated
    | starNil => cases whole
    | @starCons _ front back bodyMatched starMatched _ starHypothesis =>
      cases repeated
      cases front with
      | nil => exact starHypothesis text rfl whole
      | cons head tail =>
        cases whole
        exact ⟨tail, back, rfl, bodyMatched, starMatched⟩
  · rintro ⟨front, back, rfl, bodyMatched, starMatched⟩
    exact Matches.starCons bodyMatched starMatched

/-! ## The reduced constructors -/

/-- The reduced sequence denotes what the sequence denotes. -/
theorem matches_joined_iff (first second : Pattern) (text : List Char) :
    Matches (joined first second) text ↔ Matches (.seq first second) text := by
  have fromEmpty (other : Pattern) :
      Matches other text ↔ Matches (.seq .empty other) text := by
    constructor
    · intro matched
      exact .seq .empty matched
    · intro matched
      obtain ⟨front, back, rfl, emptyMatched, otherMatched⟩ :=
        (matches_seq_iff .empty other text).1 matched
      rw [(matches_empty_iff front).1 emptyMatched]
      exact otherMatched
  cases first with
  | never => simp [joined]
  | empty =>
    cases second with
    | never => simp [joined]
    | _ => exact fromEmpty _
  | _ =>
    cases second with
    | never => simp [joined]
    | _ => exact Iff.rfl

/-- The reduced choice denotes what the choice denotes. -/
theorem matches_either_iff (left right : Pattern) (text : List Char) :
    Matches (either left right) text ↔ Matches (.alt left right) text := by
  cases left <;> cases right <;> simp [either]

/-! ## Running a pattern -/

/-- The test for the empty text decides whether a pattern denotes it. -/
theorem matches_nil_iff (pattern : Pattern) :
    Matches pattern [] ↔ pattern.acceptsEmpty = true := by
  induction pattern with
  | never => simp [acceptsEmpty]
  | empty => simp [acceptsEmpty]
  | oneOf accepts => simp [acceptsEmpty]
  | seq first second firstHypothesis secondHypothesis =>
    rw [acceptsEmpty, Bool.and_eq_true, ← firstHypothesis, ← secondHypothesis,
      matches_seq_iff]
    constructor
    · rintro ⟨front, back, whole, firstMatched, secondMatched⟩
      obtain ⟨rfl, rfl⟩ := List.nil_eq_append_iff.1 whole
      exact ⟨firstMatched, secondMatched⟩
    · rintro ⟨firstMatched, secondMatched⟩
      exact ⟨[], [], rfl, firstMatched, secondMatched⟩
  | alt left right leftHypothesis rightHypothesis =>
    simp [acceptsEmpty, leftHypothesis, rightHypothesis]
  | star body _ =>
    simpa [acceptsEmpty] using Matches.starNil

/-- The derivative by a character denotes what may follow the character. -/
theorem matches_derivative_iff (character : Char) (pattern : Pattern) (text : List Char) :
    Matches (pattern.derivative character) text ↔ Matches pattern (character :: text) := by
  induction pattern generalizing text with
  | never => simp [derivative]
  | empty => simp [derivative]
  | oneOf accepts =>
    rw [derivative, matches_oneOf_iff]
    by_cases accepted : accepts character = true
    · rw [if_pos accepted, matches_empty_iff]
      constructor
      · rintro rfl
        exact ⟨character, rfl, accepted⟩
      · rintro ⟨_, same, _⟩
        cases same
        rfl
    · rw [if_neg accepted]
      constructor
      · intro matched
        exact absurd matched (not_matches_never text)
      · rintro ⟨_, same, otherAccepted⟩
        cases same
        exact absurd otherAccepted accepted
  | seq first second firstHypothesis secondHypothesis =>
    have through :
        Matches (joined (first.derivative character) second) text ↔
          ∃ front back, text = front ++ back ∧
            Matches first (character :: front) ∧ Matches second back := by
      simp [matches_joined_iff, firstHypothesis]
    have split :
        Matches (.seq first second) (character :: text) ↔
          (∃ front back, text = front ++ back ∧
            Matches first (character :: front) ∧ Matches second back) ∨
          (first.acceptsEmpty = true ∧ Matches second (character :: text)) := by
      rw [matches_seq_iff]
      constructor
      · rintro ⟨front, back, whole, firstMatched, secondMatched⟩
        cases front with
        | nil =>
          cases whole
          exact Or.inr ⟨(matches_nil_iff first).1 firstMatched, secondMatched⟩
        | cons head tail =>
          cases whole
          exact Or.inl ⟨tail, back, rfl, firstMatched, secondMatched⟩
      · rintro (⟨front, back, rfl, firstMatched, secondMatched⟩ | ⟨empty, secondMatched⟩)
        · exact ⟨character :: front, back, rfl, firstMatched, secondMatched⟩
        · exact ⟨[], character :: text, rfl, (matches_nil_iff first).2 empty, secondMatched⟩
    rw [split]
    by_cases empty : first.acceptsEmpty = true
    · simp only [derivative, empty, if_true, matches_either_iff, matches_alt_iff, through,
        secondHypothesis, true_and]
    · simp only [derivative, empty, if_false, Bool.false_eq_true, through, false_and, or_false]
  | alt left right leftHypothesis rightHypothesis =>
    simp [derivative, matches_either_iff, leftHypothesis, rightHypothesis]
  | star body bodyHypothesis =>
    rw [matches_star_cons_iff]
    simp only [derivative, matches_joined_iff, matches_seq_iff, bodyHypothesis]

/-- Running a pattern over a text decides whether the pattern denotes the text. -/
theorem accepts_eq_true_iff (pattern : Pattern) (text : List Char) :
    pattern.accepts text = true ↔ Matches pattern text := by
  induction text generalizing pattern with
  | nil => exact (matches_nil_iff pattern).symm
  | cons character rest restHypothesis =>
    rw [accepts, restHypothesis, matches_derivative_iff]

end AsmShell.Text.Pattern
