import AsmShell.Text.Pattern.Lemmas

/-!
# The longest match is the longest match

The search for a longest match runs all patterns side by side and remembers the
last place at which one of them accepted.  `LongestMatch` says what it looks for
without running anything: a beginning of the text that some pattern denotes, such
that no pattern denotes a longer beginning.

The characters behind the match enter only through the longer beginnings, so a
longest match stays one when the text is cut anywhere behind it.
-/

namespace AsmShell.Text

open Pattern

variable {Label : Type}

/-- The label of the first pattern that denotes the text. -/
def matchedLabel (patterns : List (Label × Pattern)) (text : List Char) : Option Label :=
  (patterns.find? fun entry => entry.2.accepts text).map (·.1)

/-- The characters in front are the longest beginning of the text that some pattern denotes. -/
structure LongestMatch
    (patterns : List (Label × Pattern))
    (label : Label)
    (front back : List Char) :
    Prop where
  nonempty : front ≠ []
  matched : matchedLabel patterns front = some label
  maximal : ∀ more, more <+: back → more ≠ [] → matchedLabel patterns (front ++ more) = none

/-- No pattern denotes a beginning of the text. -/
def NoMatch (patterns : List (Label × Pattern)) (text : List Char) : Prop :=
  ∀ front, front <+: text → front ≠ [] → matchedLabel patterns front = none

/-! ## The patterns behind a label -/

/-- No label is found exactly if no pattern matches. -/
theorem matchedLabel_eq_none_iff
    {patterns : List (Label × Pattern)}
    {text : List Char} :
    matchedLabel patterns text = none ↔ ∀ entry ∈ patterns, ¬ entry.2.Matches text := by
  rw [matchedLabel, Option.map_eq_none_iff, List.find?_eq_none]
  simp only [accepts_eq_true_iff]

/-- A label that is found has a pattern that matches. -/
theorem exists_pattern_of_matchedLabel
    {patterns : List (Label × Pattern)}
    {label : Label}
    {text : List Char}
    (matched : matchedLabel patterns text = some label) :
    ∃ pattern, (label, pattern) ∈ patterns ∧ pattern.Matches text := by
  rcases Option.map_eq_some_iff.1 matched with ⟨entry, found, rfl⟩
  have accepted := List.find?_some found
  exact ⟨entry.2, List.mem_of_find?_eq_some found, (accepts_eq_true_iff _ _).1 accepted⟩

/-! ## Cutting the text behind a match -/

/-- A match that is the longest in a text is the longest in a shorter one that still holds it. -/
theorem LongestMatch.of_append
    {patterns : List (Label × Pattern)}
    {label : Label}
    {front back cut : List Char}
    (longest : LongestMatch patterns label front (back ++ cut)) :
    LongestMatch patterns label front back where
  nonempty := longest.nonempty
  matched := longest.matched
  maximal := by
    intro more isPrefix
    exact longest.maximal more (isPrefix.trans (List.prefix_append back cut))

/-- A text with no match in front has none when it is cut. -/
theorem NoMatch.of_append
    {patterns : List (Label × Pattern)}
    {text cut : List Char}
    (noMatch : NoMatch patterns (text ++ cut)) :
    NoMatch patterns text := by
  intro front isPrefix
  exact noMatch front (isPrefix.trans (List.prefix_append text cut))

/-! ## One character of the search -/

theorem matchedLabel_cons
    (entry : Label × Pattern)
    (others : List (Label × Pattern))
    (text : List Char) :
    matchedLabel (entry :: others) text =
      if entry.2.accepts text then some entry.1 else matchedLabel others text := by
  rw [matchedLabel, List.find?_cons]
  cases entry.2.accepts text <;> rfl

theorem accepts_eq_false_of_isNever
    {pattern : Pattern}
    (isNever : pattern.isNever = true)
    (text : List Char) :
    pattern.accepts text = false := by
  cases pattern <;> simp only [Pattern.isNever, Bool.false_eq_true] at isNever
  rw [Bool.eq_false_iff]
  intro accepted
  exact not_matches_never text ((accepts_eq_true_iff _ _).1 accepted)

/-- The patterns that are left after a character denote what may follow it. -/
theorem matchedLabel_derivatives
    (patterns : List (Label × Pattern))
    (character : Char)
    (text : List Char) :
    matchedLabel (derivatives character patterns) text =
      matchedLabel patterns (character :: text) := by
  induction patterns with
  | nil =>
      rfl
  | cons entry others othersHypothesis =>
      rw [matchedLabel_cons, Pattern.accepts, ← othersHypothesis]
      rw [derivatives, List.map_cons, List.filter_cons]
      cases isNever : (entry.2.derivative character).isNever with
      | true =>
          rw [accepts_eq_false_of_isNever isNever]
          rfl
      | false =>
          rw [Bool.not_false, if_pos rfl, matchedLabel_cons]
          rfl

/-- The search takes one character. -/
theorem longestMatchFrom_cons
    (patterns : List (Label × Pattern))
    (length : Nat)
    (best : Option (Label × Nat))
    (character : Char)
    (rest : List Char) :
    longestMatchFrom patterns length best (character :: rest) =
      longestMatchFrom (derivatives character patterns) (length + 1)
        (((matchedLabel patterns [character]).map fun label => (label, length + 1)).or best)
        rest := by
  rw [← matchedLabel_derivatives, longestMatchFrom]
  cases left : derivatives character patterns with
  | nil =>
      -- No pattern is left, so the rest of the text cannot change the result.
      have ended : longestMatchFrom ([] : List (Label × Pattern)) (length + 1) best rest = best := by
        cases rest <;> rfl
      exact ended.symm
  | cons entry others =>
      rfl

/-! ## The whole search -/

/-- Where nothing matches, the best match found before stays the best. -/
theorem NoMatch.longestMatchFrom_eq
    {patterns : List (Label × Pattern)}
    {text : List Char}
    (noMatch : NoMatch patterns text)
    (length : Nat)
    (best : Option (Label × Nat)) :
    longestMatchFrom patterns length best text = best := by
  induction text generalizing patterns length best with
  | nil =>
      rfl
  | cons character rest restHypothesis =>
      have restNoMatch : NoMatch (derivatives character patterns) rest := by
        intro front isPrefix _
        rw [matchedLabel_derivatives]
        exact noMatch (character :: front) (List.cons_prefix_cons.2 ⟨rfl, isPrefix⟩) (by simp)
      have first : matchedLabel patterns [character] = none :=
        noMatch [character] (by simp) (by simp)
      rw [longestMatchFrom_cons, first, restHypothesis restNoMatch]
      rfl

/-- The longest match replaces every one found before. -/
theorem LongestMatch.longestMatchFrom_eq
    {patterns : List (Label × Pattern)}
    {label : Label}
    {front back : List Char}
    (longest : LongestMatch patterns label front back)
    (length : Nat)
    (best : Option (Label × Nat)) :
    longestMatchFrom patterns length best (front ++ back) =
      some (label, length + front.length) := by
  induction front generalizing patterns length best with
  | nil =>
      exact absurd rfl longest.nonempty
  | cons character rest restHypothesis =>
      rw [List.cons_append, longestMatchFrom_cons]
      cases rest with
      | nil =>
          have backNoMatch : NoMatch (derivatives character patterns) back := by
            intro more isPrefix isNonempty
            rw [matchedLabel_derivatives]
            exact longest.maximal more isPrefix isNonempty
          rw [List.nil_append, backNoMatch.longestMatchFrom_eq, longest.matched]
          rfl
      | cons second others =>
          have restLongest :
              LongestMatch (derivatives character patterns) label (second :: others) back := by
            refine ⟨by simp, ?_, ?_⟩
            · rw [matchedLabel_derivatives]
              exact longest.matched
            · intro more isPrefix isNonempty
              rw [matchedLabel_derivatives]
              exact longest.maximal more isPrefix isNonempty
          rw [restHypothesis restLongest, List.length_cons (a := character)]
          congr 2
          omega

/-- Nothing is found where nothing matches. -/
theorem NoMatch.longestMatch_eq
    {patterns : List (Label × Pattern)}
    {text : List Char}
    (noMatch : NoMatch patterns text) :
    longestMatch patterns text = none :=
  noMatch.longestMatchFrom_eq 0 none

/-- The longest match is found with its length. -/
theorem LongestMatch.longestMatch_eq
    {patterns : List (Label × Pattern)}
    {label : Label}
    {front back : List Char}
    (longest : LongestMatch patterns label front back) :
    longestMatch patterns (front ++ back) = some (label, front.length) := by
  rw [longestMatch, longest.longestMatchFrom_eq, Nat.zero_add]

/-- A text begins with a longest match, or no beginning of it matches. -/
theorem exists_longestMatch_or_noMatch
    (patterns : List (Label × Pattern))
    (text : List Char) :
    (∃ label front back, text = front ++ back ∧ LongestMatch patterns label front back) ∨
      NoMatch patterns text := by
  induction text generalizing patterns with
  | nil =>
      right
      intro front isPrefix isNonempty
      exact absurd (List.prefix_nil.1 isPrefix) isNonempty
  | cons character rest restHypothesis =>
      rcases restHypothesis (derivatives character patterns) with
        ⟨label, front, back, rfl, longest⟩ | noMatch
      · left
        refine ⟨label, character :: front, back, rfl, by simp, ?_, ?_⟩
        · rw [← matchedLabel_derivatives]
          exact longest.matched
        · intro more isPrefix isNonempty
          rw [List.cons_append, ← matchedLabel_derivatives]
          exact longest.maximal more isPrefix isNonempty
      · have longer (more : List Char) (isPrefix : more <+: rest) (isNonempty : more ≠ []) :
            matchedLabel patterns (character :: more) = none := by
          rw [← matchedLabel_derivatives]
          exact noMatch more isPrefix isNonempty
        cases first : matchedLabel patterns [character] with
        | some label =>
            left
            exact ⟨label, [character], rest, rfl, by simp, first, longer⟩
        | none =>
            right
            intro front isPrefix isNonempty
            cases front with
            | nil =>
                exact absurd rfl isNonempty
            | cons head tail =>
                rcases List.cons_prefix_cons.1 isPrefix with ⟨rfl, tailPrefix⟩
                cases tail with
                | nil => exact first
                | cons second others => exact longer _ tailPrefix (by simp)

end AsmShell.Text
