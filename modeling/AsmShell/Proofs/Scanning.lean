import AsmShell.Proofs.LongestMatch
import AsmShell.Token.Scan

/-!
# Scanning a line again from the middle

A scan has no memory: what it finds from some place on depends on the characters
behind this place alone.  So a piece of a line that begins with a token and ends
with a token is split into the same tokens when it is scanned by itself, only the
columns move.

`scan_induction` is the induction that a scan performs: over the longest matches
and the unmatched characters of which a text is made.
-/

namespace AsmShell

open Text

/-! ## What the lexemes spell -/

/-- No label is found for a text exactly if no lexeme spells it. -/
theorem matchedLabel_patterns_eq_none_iff
    {text : List Char} :
    matchedLabel Lexeme.patterns text = none ↔
      ∀ lexeme ∈ Lexeme.all, ¬ lexeme.pattern.Matches text := by
  rw [matchedLabel_eq_none_iff, Lexeme.patterns, List.forall_mem_map]

/-- A longest match is spelled as its lexeme is. -/
theorem matches_of_longestMatch
    {lexeme : Lexeme}
    {front back : List Char}
    (longest : LongestMatch Lexeme.patterns lexeme front back) :
    lexeme ∈ Lexeme.all ∧ lexeme.pattern.Matches front := by
  rcases exists_pattern_of_matchedLabel longest.matched with ⟨pattern, listed, matched⟩
  rcases List.mem_map.1 listed with ⟨source, member, same⟩
  cases same
  exact ⟨member, matched⟩

/-! ## The steps of a scan -/

theorem tokensFrom_covered
    (column stillCovered : Nat)
    (character : Char)
    (rest : List Char) :
    tokensFrom column (stillCovered + 1) (character :: rest) =
      tokensFrom (column + 1) stillCovered rest :=
  rfl

/-- Covered characters are passed without a token. -/
theorem tokensFrom_append
    (column : Nat)
    (front back : List Char) :
    tokensFrom column front.length (front ++ back) =
      tokensFrom (column + front.length) 0 back := by
  induction front generalizing column with
  | nil =>
      rfl
  | cons character rest restHypothesis =>
      rw [List.cons_append, List.length_cons, tokensFrom_covered, restHypothesis]
      congr 1
      omega

theorem tokensFrom_longestMatch
    {kind : TokenKind}
    {front back : List Char}
    (longest : LongestMatch Lexeme.patterns (.token kind) front back)
    (column : Nat) :
    tokensFrom column 0 (front ++ back) =
      Token.ofSource kind column front :: tokensFrom (column + front.length) 0 back := by
  have found := longest.longestMatch_eq
  cases front with
  | nil =>
      exact absurd rfl longest.nonempty
  | cons character rest =>
      rw [List.cons_append] at found ⊢
      rw [tokensFrom.eq_def]
      simp only [found, List.length_cons, Nat.add_sub_cancel]
      rw [tokensFrom_append, ← List.cons_append, List.take_append_of_le_length (by simp)]
      simp only [List.length_cons, List.take_of_length_le, Nat.le_refl]
      congr 2
      omega

theorem tokensFrom_separators
    {front back : List Char}
    (longest : LongestMatch Lexeme.patterns .separators front back)
    (column : Nat) :
    tokensFrom column 0 (front ++ back) = tokensFrom (column + front.length) 0 back := by
  have found := longest.longestMatch_eq
  cases front with
  | nil =>
      exact absurd rfl longest.nonempty
  | cons character rest =>
      rw [List.cons_append] at found ⊢
      rw [tokensFrom.eq_def]
      simp only [found, List.length_cons, Nat.add_sub_cancel]
      rw [tokensFrom_append]
      congr 1
      omega

theorem tokensFrom_unknown
    {character : Char}
    {rest : List Char}
    (noMatch : NoMatch Lexeme.patterns (character :: rest))
    (column : Nat) :
    tokensFrom column 0 (character :: rest) =
      Token.ofSource .unknown column [character] :: tokensFrom (column + 1) 0 rest := by
  rw [tokensFrom.eq_def]
  simp only [noMatch.longestMatch_eq]

/-- At the beginning of a text, a scan takes the characters in front as a token of the kind. -/
inductive TakesToken : TokenKind → List Char → List Char → Prop where
  | matched {kind : TokenKind} {front back : List Char} :
      LongestMatch Lexeme.patterns (.token kind) front back →
      TakesToken kind front back
  | unmatched {character : Char} {back : List Char} :
      NoMatch Lexeme.patterns (character :: back) →
      TakesToken .unknown [character] back

namespace TakesToken

variable
    {kind : TokenKind}
    {front back cut : List Char}

theorem tokensFrom_eq
    (takes : TakesToken kind front back)
    (column : Nat) :
    tokensFrom column 0 (front ++ back) =
      Token.ofSource kind column front :: tokensFrom (column + front.length) 0 back := by
  cases takes with
  | matched longest => exact tokensFrom_longestMatch longest column
  | unmatched noMatch => exact tokensFrom_unknown noMatch column

theorem length_pos
    (takes : TakesToken kind front back) :
    0 < front.length := by
  cases takes with
  | matched longest => exact List.length_pos_iff.2 longest.nonempty
  | unmatched noMatch => exact Nat.one_pos

/-- What is taken as a token does not depend on how far the text goes on. -/
theorem of_append
    (takes : TakesToken kind front (back ++ cut)) :
    TakesToken kind front back := by
  cases takes with
  | matched longest => exact .matched longest.of_append
  | unmatched noMatch => exact .unmatched noMatch.of_append

end TakesToken

/-- Induction over the tokens and the separators that a scan takes one after the other. -/
@[elab_as_elim]
theorem scan_induction
    {motive : Nat → List Char → Prop}
    (finished : ∀ column, motive column [])
    (token : ∀ column kind front back,
      TakesToken kind front back →
      motive (column + front.length) back →
      motive column (front ++ back))
    (separators : ∀ column front back,
      LongestMatch Lexeme.patterns .separators front back →
      motive (column + front.length) back →
      motive column (front ++ back))
    (column : Nat)
    (text : List Char) :
    motive column text := by
  induction count : text.length using Nat.strongRecOn generalizing column text with
  | ind count shorter =>
      rcases exists_longestMatch_or_noMatch Lexeme.patterns text with
        ⟨lexeme, front, back, rfl, longest⟩ | noMatch
      · have positive : 0 < front.length := List.length_pos_iff.2 longest.nonempty
        rw [List.length_append] at count
        have backHypothesis : motive (column + front.length) back :=
          shorter back.length (by omega) _ back rfl
        cases lexeme with
        | separators => exact separators column front back longest backHypothesis
        | token kind => exact token column kind front back (.matched longest) backHypothesis
      · cases text with
        | nil =>
            exact finished column
        | cons character rest =>
            rw [List.length_cons] at count
            exact token column .unknown [character] rest (.unmatched noMatch)
              (shorter rest.length (by omega) _ rest rfl)

end AsmShell
