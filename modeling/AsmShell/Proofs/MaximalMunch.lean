import AsmShell.Proofs.TokenTiling

/-!
# Every token is the longest lexeme at its place

The scan of a line commits to nothing early: it takes as a token the longest
beginning of the rest of the line that any lexeme spells, and gives up a single
character only if no lexeme spells any beginning of it.  Since a text is spelled by
one lexeme at most, the kind of a token is decided by its characters and not by the
order in which the lexemes are tried.
-/

namespace AsmShell

open Text Text.Pattern

/-- No lexeme spells a beginning of the text that has more characters than `count`. -/
def NoLexemeBeyond (count : Nat) (text : List Char) : Prop :=
  ∀ front, front <+: text → count < front.length →
    ∀ lexeme ∈ Lexeme.all, ¬ lexeme.pattern.Matches front

/-- Behind a longest match no lexeme goes on. -/
theorem noLexemeBeyond_of_longestMatch
    {lexeme : Lexeme}
    {front back : List Char}
    (longest : LongestMatch Lexeme.patterns lexeme front back) :
    NoLexemeBeyond front.length (front ++ back) := by
  intro longer isPrefix isLonger
  -- Of two beginnings of one text the longer one begins with the shorter one.
  rcases List.prefix_of_prefix_length_le (List.prefix_append front back) isPrefix
      (Nat.le_of_lt isLonger) with
    ⟨more, rfl⟩
  apply matchedLabel_patterns_eq_none_iff.1
  refine longest.maximal more ((List.prefix_append_right_inj front).1 isPrefix) ?_
  rintro rfl
  simp at isLonger

theorem noLexemeBeyond_of_noMatch
    {text : List Char}
    (noMatch : NoMatch Lexeme.patterns text) :
    NoLexemeBeyond 0 text := by
  intro front isPrefix isNonempty
  exact matchedLabel_patterns_eq_none_iff.1
    (noMatch front isPrefix (List.length_pos_iff.1 isNonempty))

/-- Two lexemes spell no text in common. -/
theorem Lexeme.eq_of_matches
    {first second : Lexeme}
    {text : List Char}
    (firstMatched : first.pattern.Matches text)
    (secondMatched : second.pattern.Matches text) :
    first = second := by
  have same := (Lexeme.ofText?_of_matches firstMatched).symm.trans
    (Lexeme.ofText?_of_matches secondMatched)
  exact Option.some.inj same

/--
A token of a known kind is spelled as its kind is, and no lexeme spells a longer
beginning of the line from the token on.  At an unknown token no lexeme spells any
beginning of it.  No beginning is spelled by two lexemes.
-/
theorem tokens_are_longest_lexemes
    (line : String)
    (token : Token)
    (member : token ∈ tokenize line)
    (inside : token.kind ≠ .endOfLine) :
    (token.kind ≠ .unknown →
      Lexeme.token token.kind ∈ Lexeme.all ∧
        token.kind.pattern.Matches (token.span.slice line).toList ∧
        NoLexemeBeyond (token.span.slice line).length (line.toList.drop token.column)) ∧
    (token.kind = .unknown → NoLexemeBeyond 0 (line.toList.drop token.column)) ∧
    ∀ front, front <+: line.toList.drop token.column →
      ∀ first ∈ Lexeme.all, ∀ second ∈ Lexeme.all,
        first.pattern.Matches front → second.pattern.Matches front → first = second := by
  rcases exists_source_of_mem_tokenize member inside with ⟨back, rest, takes, _⟩
  rw [rest, ← String.length_toList]
  generalize (token.span.slice line).toList = source at takes ⊢
  refine ⟨?_, ?_, ?_⟩
  · intro known
    have longest := takes.longestMatch known
    rcases matches_of_longestMatch longest with ⟨listed, matched⟩
    exact ⟨listed, matched, noLexemeBeyond_of_longestMatch longest⟩
  · intro isUnknown
    rw [isUnknown] at takes
    rcases takes.exists_of_unknown with ⟨character, rfl, noMatch⟩
    exact noLexemeBeyond_of_noMatch noMatch
  · intro front _ first _ second _ firstMatched secondMatched
    exact Lexeme.eq_of_matches firstMatched secondMatched

/-- Behind `.5` a power of ten is begun and given up; behind `$` no name follows. -/
theorem tokens_are_longest_lexemes_of_abandoned :
    ⟨.float, ⟨3, 4⟩, ".5"⟩ ∈ tokenize "0x1.5e+$1" ∧
      ⟨.unknown, ⟨7, 7⟩, "$"⟩ ∈ tokenize "0x1.5e+$1" ∧
      Spelling.float.Matches ['.', '5'] ∧
      NoLexemeBeyond 2 ['.', '5', 'e', '+', '$', '1'] ∧
      NoLexemeBeyond 0 ['$', '1'] := by
  have floatMember : ⟨.float, ⟨3, 4⟩, ".5"⟩ ∈ tokenize "0x1.5e+$1" := by decide +kernel
  have dollarMember : ⟨.unknown, ⟨7, 7⟩, "$"⟩ ∈ tokenize "0x1.5e+$1" := by decide +kernel
  have floatLongest :=
    (tokens_are_longest_lexemes "0x1.5e+$1" _ floatMember (by decide)).1 (by decide)
  have dollarLongest :=
    (tokens_are_longest_lexemes "0x1.5e+$1" _ dollarMember (by decide)).2.1 rfl
  exact ⟨floatMember, dollarMember, floatLongest.2.1, floatLongest.2.2, dollarLongest⟩

end AsmShell
