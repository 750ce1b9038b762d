import AsmShell.Proofs.ArgumentPieces
import AsmShell.Proofs.HopelessTokens
import AsmShell.Proofs.TokenTiling
import Mathlib.Data.List.DropRight

/-!
# Texts that are not closed

Behind its opening quote a text is made of plain characters and of pairs, each a backslash and
the character that it escapes.  If no quote closes it, it goes on as long as this lasts, and in
a line without line feeds nothing but a backslash without a partner ends it early.  So at most
one character is left over, the last one of the line.  No token begins with it, so it is
reported in addition to the text.

All backslashes at the end of the line stand behind the opening quote, and there they come in
pairs.  The one without a partner is there exactly if their number is odd.
-/

namespace AsmShell

open Text

/-! ## What is left over -/

/-- An unclosed text ends with the line, or in front of a backslash that does. -/
theorem back_of_longestMatch_unclosedString
    {front back : List Char}
    (longest : LongestMatch Lexeme.patterns (.token .unclosedString) front back)
    (noLineFeed : '\n' ∉ back) :
    back = [] ∨ back = ['\\'] := by
  rcases exists_body_of_matches_unclosedString (matches_of_longestMatch longest).2 with
    ⟨body, rfl, bodyMatched⟩
  -- What goes on as a text does would be part of the text.
  have goesOn (more : List Char) (isPrefix : more <+: back) (isNonempty : more ≠ []) :
      ¬ Spelling.stringBody.Matches more := by
    intro moreMatched
    have longer : Spelling.unclosedString.Matches (['"'] ++ (body ++ more)) :=
      .seq (.oneOf rfl) (matches_stringBody_append bodyMatched moreMatched)
    exact matchedLabel_patterns_eq_none_iff.1 (longest.maximal more isPrefix isNonempty)
      (.token .unclosedString) (by decide) longer
  cases back with
  | nil =>
      exact Or.inl rfl
  | cons first rest =>
      have firstPrefix : [first] <+: first :: rest := ⟨rest, rfl⟩
      by_cases isBackslash : first = '\\'
      · subst isBackslash
        cases rest with
        | nil =>
            exact Or.inr rfl
        | cons escaped others =>
            have notLineFeed : escaped ≠ '\n' := by
              rintro rfl
              exact noLineFeed (by simp)
            exact absurd (matches_stringBody_escaped notLineFeed .starNil)
              (goesOn ['\\', escaped] ⟨others, rfl⟩ (List.cons_ne_nil _ _))
      · by_cases isQuote : first = '"'
        · subst isQuote
          have closed : Spelling.string.Matches (['"'] ++ (body ++ ['"'])) :=
            .seq (.oneOf rfl) (.seq bodyMatched (.oneOf rfl))
          exact absurd closed (matchedLabel_patterns_eq_none_iff.1
            (longest.maximal ['"'] firstPrefix (List.cons_ne_nil _ _))
            (.token .string) (by decide))
        · exact absurd (matches_stringBody_plain isQuote isBackslash .starNil)
            (goesOn [first] firstPrefix (List.cons_ne_nil _ _))

/-- The number of backslashes at the end of the text. -/
def backslashesAtEnd (text : List Char) : Nat :=
  (text.rtakeWhile (· == '\\')).length

theorem backslashesAtEnd_append_backslash
    (text : List Char) :
    backslashesAtEnd (text ++ ['\\']) = backslashesAtEnd text + 1 := by
  rw [backslashesAtEnd, List.rtakeWhile_concat_pos _ _ _ rfl, List.length_append]
  rfl

theorem backslashesAtEnd_append_of_ne
    (text : List Char)
    {character : Char}
    (notBackslash : character ≠ '\\') :
    backslashesAtEnd (text ++ [character]) = 0 := by
  rw [backslashesAtEnd, List.rtakeWhile_concat_neg _ _ _ (by simpa using notBackslash)]
  rfl

/-- Behind an even number of backslashes, a text between quotes ends with an even number: those
that it has come in pairs, up to one that escapes another character. -/
theorem backslashesAtEnd_append_stringBody
    {body : List Char}
    (matched : Spelling.stringBody.Matches body) :
    ∀ front,
      backslashesAtEnd front % 2 = 0 → backslashesAtEnd (front ++ body) % 2 = 0 := by
  refine stringBody_induction ?empty ?plain ?escaped matched
  case empty =>
      intro front even
      rwa [List.append_nil]
  case plain =>
      intro character rest _ notBackslash restHypothesis front _
      rw [List.append_cons]
      apply restHypothesis
      rw [backslashesAtEnd_append_of_ne _ notBackslash]
  case escaped =>
      intro character rest _ restHypothesis front even
      rw [List.append_cons, List.append_cons]
      apply restHypothesis
      by_cases isBackslash : character = '\\'
      · rw [isBackslash, backslashesAtEnd_append_backslash, backslashesAtEnd_append_backslash]
        omega
      · rw [backslashesAtEnd_append_of_ne _ isBackslash]

/-- The backslash that has no partner at the end of the line, as a token. -/
def strayBackslash (line : String) : List Token :=
  if backslashesAtEnd line.toList % 2 = 1 then
    [Token.ofSource .unknown (line.length - 1) ['\\']]
  else []

theorem kind_of_mem_strayBackslash
    {line : String}
    {token : Token}
    (member : token ∈ strayBackslash line) :
    token.kind = .unknown := by
  unfold strayBackslash at member
  split at member
  · rw [List.mem_singleton.1 member]
    rfl
  · cases member

/-- Behind an unclosed text stands at most one backslash without a partner. -/
theorem unclosedString_last_and_behind
    {line : String}
    (noLineFeed : '\n' ∉ line.toList)
    {before after : List Token}
    {token : Token}
    (scanned : tokenize line = before ++ token :: after)
    (unclosed : token.kind = .unclosedString) :
    token.span.last + 1 + (strayBackslash line).length = line.length ∧
      after = strayBackslash line ++ [Token.endOfLine line.length] := by
  rcases exists_source_of_tokensFrom 0 _ _ _ _ scanned (by simp [unclosed]) with
    ⟨front, source, back, parts, takes, same, behind⟩
  rw [unclosed] at takes
  have longest := takes.longestMatch (by decide)
  rcases exists_body_of_matches_unclosedString (takes.matches_pattern (by decide)) with
    ⟨body, rfl, bodyMatched⟩
  have even : backslashesAtEnd (front ++ '"' :: body) % 2 = 0 := by
    rw [List.append_cons]
    apply backslashesAtEnd_append_stringBody bodyMatched
    rw [backslashesAtEnd_append_of_ne _ (by decide)]
  have last : token.span.last = front.length + body.length := by
    rw [same]
    show 0 + front.length + (body.length + 1 - 1) = _
    omega
  have lengths : line.length = front.length + (body.length + 1) + back.length := by
    rw [← line.length_toList, parts, List.length_append, List.length_append, List.length_cons]
    omega
  have noLineFeedBehind : '\n' ∉ back := by
    intro member
    rw [parts] at noLineFeed
    simp [member] at noLineFeed
  rw [Nat.zero_add, List.length_cons] at behind
  rcases back_of_longestMatch_unclosedString longest noLineFeedBehind with rfl | rfl
  · have nothing : strayBackslash line = [] := by
      rw [List.append_nil] at parts
      rw [strayBackslash, parts, even]
      rfl
    rw [List.length_nil] at lengths
    rw [nothing, behind, last, lengths]
    exact ⟨rfl, rfl⟩
  · have stray :
        strayBackslash line = [Token.ofSource .unknown (line.length - 1) ['\\']] := by
      rw [← List.append_assoc] at parts
      rw [strayBackslash, if_pos]
      rw [parts, backslashesAtEnd_append_backslash]
      omega
    rw [List.length_singleton] at lengths
    rw [stray, behind, last, lengths]
    exact ⟨rfl, rfl⟩

/-! ## Errors -/

theorem Reading.leaf_eq_unclosedString
    {token : Token}
    (refused : Reading.leaf token = .error .unclosedString) :
    token.kind = .unclosedString := by
  unfold Reading.leaf at refused
  split at refused
  case h_8 unclosed =>
      exact unclosed
  case h_2 | h_3 =>
      split at refused <;> cases refused
  all_goals cases refused

/-- An unknown token is refused and passed. -/
theorem Parser.readArgument_of_unknown
    {parser : Parser}
    (unknown : parser.current.kind = .unknown) :
    parser.readArgument =
      (.error ⟨.invalidCharacter, parser.current.column⟩, parser.advanced) := by
  have refused :
      Reading.unary.run parser =
        .error ⟨.invalidCharacter, parser.current.column⟩ parser := by
    have noOperator : parser.current.kind.unaryOp? = none := by
      rw [unknown]
      rfl
    rw [Reading.unary, nestingLimit, Reading.unaryWithin_succ_run, noOperator]
    simp only [Reading.primaryWith_run, unknown, Reading.leaf]
    rfl
  rw [readArgument, refused]
  rfl

/-- Of unknown tokens in front of the end of the line each gives an error. -/
theorem Parser.ReadsPieces.errors_of_unknown
    {parser final : Parser}
    {pieces : List Piece}
    (readsPieces : parser.ReadsPieces pieces final)
    {ending : Token}
    (ends : ending.kind = .endOfLine)
    (strays : List Token)
    (unknown : ∀ token ∈ strays, token.kind = .unknown)
    (rest : parser.rest = strays ++ [ending]) :
    pieces.filterMap Piece.error? =
      strays.map fun token => ⟨.invalidCharacter, token.column⟩ := by
  induction strays generalizing parser pieces with
  | nil =>
      have current_eq := Parser.current_of_rest_eq rest
      cases readsPieces with
      | finished _ =>
          rfl
      | piece inside _ _ _ =>
          exact absurd (current_eq ▸ ends) inside
  | cons first others othersHypothesis =>
      have current_eq := Parser.current_of_rest_eq rest
      rcases List.forall_mem_cons.1 unknown with ⟨firstUnknown, othersUnknown⟩
      have isUnknown : parser.current.kind = .unknown := current_eq ▸ firstUnknown
      cases readsPieces with
      | finished finished =>
          rw [finished] at isUnknown
          cases isUnknown
      | piece inside read _ readsOthers =>
          have inFront := parser.rest_eq_current_cons inside
          rw [readArgument_of_unknown isUnknown, current_eq] at read
          rcases Prod.mk.inj read with ⟨rfl, rfl⟩
          have advanced := (List.cons.inj (inFront.symm.trans rest)).2
          exact congrArg (_ :: ·) (othersHypothesis readsOthers othersUnknown advanced)

/-- Behind the error about an unclosed text there is at most one about the backslash left over. -/
theorem errors_behind_unclosedString
    {line : String}
    (noLineFeed : '\n' ∉ line.toList)
    {before after : List SyntaxError}
    {error : SyntaxError}
    (errors : (parseLine line).errors = before ++ error :: after)
    (unclosed : error.fault = .unclosedString) :
    after = (strayBackslash line).map fun token => ⟨.invalidCharacter, token.column⟩ := by
  rcases exists_readArgument_of_errors errors (by simp [unclosed]) with
    ⟨reader, behind, final, others, ⟨skipped, tokens_eq⟩, failed, readsOthers, rfl⟩
  rcases Parser.exists_stopped_of_readArgument failed (by simp [unclosed]) (by simp [unclosed])
    with ⟨passed, stopped, rest, rfl, noLeaf, _⟩
  rw [unclosed] at noLeaf
  have isUnclosed := Reading.leaf_eq_unclosedString noLeaf
  have inFront := stopped.rest_eq_current_cons (by simp [isUnclosed])
  have scanned :
      tokenize line = (skipped ++ passed) ++ stopped.current :: stopped.advanced.rest := by
    rw [← tokens_eq, rest, ← inFront, List.append_assoc]
  exact readsOthers.errors_of_unknown rfl _ (fun _ => kind_of_mem_strayBackslash)
    (unclosedString_last_and_behind noLineFeed scanned isUnclosed).2

/-- No two faults have the same message. -/
theorem SyntaxFault.message_injective :
    Function.Injective SyntaxFault.message := by
  intro fault other same
  cases fault <;> cases other <;> first | rfl | exact absurd same (by decide)

/--
In a line without line feeds, let a token be a text that is not closed.  It covers the line up
to the last character, or up to the last but one if the line ends with an odd number of
backslashes, and behind it stands only this backslash, if there is one, and the end of the
line.  So a line gives at most one error about an unclosed text, and behind it at most one
more, about this backslash.
-/
theorem unclosed_text_takes_rest_of_line
    (line : String)
    (noLineFeed : '\n' ∉ line.toList) :
    (∀ before token after,
      tokenize line = before ++ token :: after →
      token.kind = .unclosedString →
      token.span.last + 1 + (strayBackslash line).length = line.length ∧
        after = strayBackslash line ++ [Token.endOfLine line.length]) ∧
    ∀ before error after,
      (parseLine line).errors = before ++ error :: after →
      error.message = "unterminated string literal" →
      (∀ other ∈ before, other.message ≠ "unterminated string literal") ∧
        after = (strayBackslash line).map fun token => ⟨.invalidCharacter, token.column⟩ := by
  refine ⟨fun _ _ _ scanned unclosed => unclosedString_last_and_behind noLineFeed scanned unclosed,
    fun before error after errors message => ?_⟩
  have unclosed : error.fault = .unclosedString := SyntaxFault.message_injective message
  refine ⟨fun other member otherMessage => ?_,
    errors_behind_unclosedString noLineFeed errors unclosed⟩
  have otherUnclosed : other.fault = .unclosedString :=
    SyntaxFault.message_injective otherMessage
  -- The second of two such errors would be behind the first one.
  rcases List.append_of_mem member with ⟨front, back, rfl⟩
  rw [List.append_assoc, List.cons_append] at errors
  have listed : error ∈ back ++ error :: after := List.mem_append_right _ List.mem_cons_self
  rw [errors_behind_unclosedString noLineFeed errors otherUnclosed] at listed
  rcases List.mem_map.1 listed with ⟨token, _, rfl⟩
  cases unclosed

/-- The quote in the text is escaped, and the backslashes at its end are a pair. -/
theorem unclosed_text_takes_rest_of_line_of_pair :
    '\n' ∉ "p 1 \"a\\\"b\\\\".toList ∧
      (tokenize "p 1 \"a\\\"b\\\\" =
          [⟨.identifier, ⟨0, 0⟩, "p"⟩, ⟨.integer, ⟨2, 2⟩, "1"⟩] ++
            ⟨.unclosedString, ⟨4, 10⟩, "\"a\\\"b\\\\"⟩ :: [Token.endOfLine 11] ∧
        10 + 1 + (strayBackslash "p 1 \"a\\\"b\\\\").length = 11 ∧
        [Token.endOfLine 11] = strayBackslash "p 1 \"a\\\"b\\\\" ++ [Token.endOfLine 11]) ∧
      (parseLine "p 1 \"a\\\"b\\\\").errors = [] ++ ⟨.unclosedString, 4⟩ :: [] ∧
        [] =
          (strayBackslash "p 1 \"a\\\"b\\\\").map fun token =>
            SyntaxError.mk .invalidCharacter token.column := by
  have noLineFeed : '\n' ∉ "p 1 \"a\\\"b\\\\".toList := by
    decide
  have scanned :
      tokenize "p 1 \"a\\\"b\\\\" =
        [⟨.identifier, ⟨0, 0⟩, "p"⟩, ⟨.integer, ⟨2, 2⟩, "1"⟩] ++
          ⟨.unclosedString, ⟨4, 10⟩, "\"a\\\"b\\\\"⟩ :: [Token.endOfLine 11] := by
    decide +kernel
  have errors :
      (parseLine "p 1 \"a\\\"b\\\\").errors = [] ++ ⟨.unclosedString, 4⟩ :: [] := by
    decide +kernel
  rcases unclosed_text_takes_rest_of_line _ noLineFeed with ⟨tokens, reported⟩
  exact ⟨noLineFeed, ⟨scanned, tokens _ _ _ scanned rfl⟩, errors, (reported _ _ _ errors rfl).2⟩

/-- A last backslash without a partner is no part of the text, and is reported behind it. -/
theorem unclosed_text_leaves_last_backslash :
    tokenize "\"a\\" =
        [⟨.unclosedString, ⟨0, 1⟩, "\"a"⟩, ⟨.unknown, ⟨2, 2⟩, "\\"⟩, Token.endOfLine 3] ∧
      (parseLine "p \"a\\").errors = [⟨.unclosedString, 2⟩, ⟨.invalidCharacter, 4⟩] := by
  decide +kernel

end AsmShell
