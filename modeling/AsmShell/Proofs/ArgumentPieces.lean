import Mathlib.Logic.ExistsUnique
import AsmShell.Proofs.FailurePlaces
import AsmShell.Proofs.SourceSpans
import AsmShell.Proofs.TokenOrder

/-!
# The pieces of a command line

The tokens behind the name of a command fall into consecutive pieces, and each piece
gives one argument or one error.  An argument covers its piece.  An error points to a
token of its piece, whichever way the parser recovers from it; only behind the last
piece it may point to the end of the line instead.  As the tokens of a line stand one
behind the other, so do the arguments and the errors.
-/

namespace AsmShell

/-! ## Tokens up to the end of the line -/

/-- The tokens end with their only end of the line. -/
structure ClosedBy (ending : Token) (tokens : List Token) : Prop where
  isEnd : ending.kind = .endOfLine
  parts : ∃ body, tokens = body ++ [ending] ∧ ∀ token ∈ body, token.kind ≠ .endOfLine

namespace ClosedBy

variable
    {ending : Token}
    {tokens left : List Token}

theorem hasEnd
    (closed : ClosedBy ending tokens) :
    HasEnd tokens := by
  rcases closed.parts with ⟨body, rfl, _⟩
  exact ⟨ending, by simp, closed.isEnd⟩

theorem of_suffix
    (closed : ClosedBy ending tokens)
    (isSuffix : left <:+ tokens)
    (hasEnd : HasEnd left) :
    ClosedBy ending left := by
  rcases closed.parts with ⟨body, rfl, inside⟩
  rcases List.suffix_concat_iff.1 isSuffix with rfl | ⟨shorter, rfl, shorterSuffix⟩
  · rcases hasEnd with ⟨token, member, _⟩
    cases member
  · exact ⟨closed.isEnd, shorter, rfl, fun token member =>
      inside token (shorterSuffix.subset member)⟩

theorem of_cons
    {token : Token}
    (closed : ClosedBy ending (token :: tokens))
    (inside : token.kind ≠ .endOfLine) :
    ClosedBy ending tokens := by
  have consEnd : HasEnd ([token] ++ tokens) := closed.hasEnd
  exact closed.of_suffix (List.suffix_cons token tokens)
    (consEnd.of_append (by simpa using inside))

/-- An end of the line is the last token. -/
theorem eq_of_isEnd
    {front behind : List Token}
    {token : Token}
    (closed : ClosedBy ending (front ++ token :: behind))
    (ends : token.kind = .endOfLine) :
    token = ending ∧ behind = [] := by
  have fromToken : ClosedBy ending (token :: behind) :=
    closed.of_suffix (List.suffix_append _ _) ⟨token, List.mem_cons_self, ends⟩
  rcases fromToken.parts with ⟨body, parts, inside⟩
  cases body with
  | nil =>
      exact List.cons.inj parts
  | cons first others =>
      rcases List.cons.inj parts with ⟨rfl, _⟩
      exact absurd ends (inside token List.mem_cons_self)

end ClosedBy

/-! ## Recovery never passes the end of the line -/

theorem hasEnd_dropToken
    {tokens : List Token}
    (hasEnd : HasEnd tokens) :
    HasEnd (dropToken tokens) := by
  cases tokens with
  | nil =>
      exact hasEnd
  | cons token rest =>
      by_cases ends : token.kind = .endOfLine
      · rwa [dropToken, if_pos ends]
      · have consEnd : HasEnd ([token] ++ rest) := hasEnd
        rw [dropToken, if_neg ends]
        exact consEnd.of_append (by simpa using ends)

theorem hasEnd_skipGroup
    {tokens : List Token}
    (hasEnd : HasEnd tokens)
    (inner : Nat) :
    HasEnd (skipGroup inner tokens) := by
  induction tokens generalizing inner with
  | nil =>
      exact hasEnd
  | cons token rest restHypothesis =>
      have dropped := hasEnd_dropToken hasEnd
      by_cases ends : token.kind = .endOfLine
      · simpa [skipGroup, ends] using hasEnd
      · rw [dropToken, if_neg ends] at dropped
        unfold skipGroup
        split
        · contradiction
        · exact restHypothesis dropped _
        · exact dropped
        · exact restHypothesis dropped _
        · exact restHypothesis dropped _

theorem hasEnd_skipArgument
    {tokens : List Token}
    (hasEnd : HasEnd tokens) :
    HasEnd (skipArgument tokens) := by
  induction tokens with
  | nil =>
      exact hasEnd
  | cons token rest restHypothesis =>
      have dropped := hasEnd_dropToken hasEnd
      cases written : token.kind.unaryOp? with
      | some op =>
          rw [dropToken, if_neg (TokenKind.ne_endOfLine_of_unaryOp? written)] at dropped
          rw [skipArgument_operator written]
          exact restHypothesis dropped
      | none =>
          by_cases opens : token.kind = .openParen
          · rw [dropToken, if_neg (by simp [opens])] at dropped
            rw [skipArgument_openParen opens]
            exact hasEnd_skipGroup dropped 0
          · have single : skipArgument (token :: rest) = dropToken (token :: rest) := by
              simp [skipArgument, written, opens]
            rwa [single]

theorem dropToken_suffix_dropToken
    {tokens left : List Token}
    (isSuffix : left <:+ tokens) :
    dropToken left <:+ dropToken tokens := by
  cases tokens with
  | nil =>
      cases List.suffix_nil.1 isSuffix
      exact List.suffix_refl _
  | cons token rest =>
      rcases List.suffix_cons_iff.1 isSuffix with rfl | shorter
      · exact List.suffix_refl _
      · rw [dropToken]
        split
        · exact (dropToken_suffix left).trans isSuffix
        · exact (dropToken_suffix left).trans shorter

/-! ## One piece -/

/-- A piece of a line, and the argument or the error that it gives. -/
structure Piece where
  tokens : List Token
  outcome : Except SyntaxError Expr

namespace Piece

def argument? (piece : Piece) : Option Expr :=
  piece.outcome.toOption

def error? (piece : Piece) : Option SyntaxError :=
  match piece.outcome with
  | .ok _ => none
  | .error error => some error

@[simp]
theorem argument?_eq_some_iff
    {piece : Piece}
    {argument : Expr} :
    piece.argument? = some argument ↔ piece.outcome = .ok argument := by
  rcases piece with ⟨tokens, outcome⟩
  cases outcome <;> simp [argument?, Except.toOption]

@[simp]
theorem error?_eq_some_iff
    {piece : Piece}
    {error : SyntaxError} :
    piece.error? = some error ↔ piece.outcome = .error error := by
  rcases piece with ⟨tokens, outcome⟩
  cases outcome <;> simp [error?]

/-- The columns that the outcome speaks about. -/
def extent (piece : Piece) : Span :=
  match piece.outcome with
  | .ok argument => argument.span
  | .error error => ⟨error.column, error.column⟩

theorem extent_of_ok
    {piece : Piece}
    {argument : Expr}
    (isArgument : piece.outcome = .ok argument) :
    piece.extent = argument.span := by
  rw [extent, isArgument]

theorem extent_of_error
    {piece : Piece}
    {error : SyntaxError}
    (isError : piece.outcome = .error error) :
    piece.extent = ⟨error.column, error.column⟩ := by
  rw [extent, isError]

/--
An argument is what its piece alone is read as, and covers the piece.  An error points
to a token of its piece, or to the end of the line behind the last piece.
-/
def Placed (ending : Token) (isLast : Prop) (piece : Piece) : Prop :=
  match piece.outcome with
  | .ok argument =>
      ReadAlone piece.tokens argument ∧ argument.span.Covers piece.tokens
  | .error error =>
      ∃ token,
        error.column = token.column ∧ (token ∈ piece.tokens ∨ token = ending ∧ isLast)

end Piece

/-- The recovery from an error leaves nothing of the token that the error points to. -/
theorem Parser.readArgument_error
    {parser : Parser}
    {error : SyntaxError}
    (hasEnd : HasEnd parser.rest)
    (failed : parser.readArgument.1 = .error error) :
    ∃ front token behind,
      parser.rest = front ++ token :: behind ∧ error.column = token.column ∧
        parser.readArgument.2.rest <:+ dropToken (token :: behind) ∧
        HasEnd parser.readArgument.2.rest := by
  rw [readArgument, Reading.unary] at failed ⊢
  cases ran : (Reading.unaryWithin nestingLimit).run parser with
  | ok expr after =>
      simp [ran] at failed
  | error fault after =>
      rcases Reading.failsBehind_unaryWithin nestingLimit _ _ _ hasEnd ran with
        ⟨front, token, behind, isFront, parts, place, isSuffix, afterEnd⟩
      simp only [ran] at failed ⊢
      split at failed
      · cases failed
        rename_i tooDeep
        rw [if_pos tooDeep]
        refine ⟨front, token, behind, parts, place, ?_, hasEnd_skipArgument hasEnd⟩
        show skipArgument parser.rest <:+ dropToken (token :: behind)
        rw [parts]
        exact isFront.skipArgument_suffix token behind
      · cases failed
        rename_i notTooDeep
        rw [if_neg notTooDeep]
        exact ⟨front, token, behind, parts, place, dropToken_suffix_dropToken isSuffix,
          hasEnd_dropToken afterEnd⟩

theorem Parser.readArgument_ok
    {parser after : Parser}
    {expr : Expr}
    (read : parser.readArgument = (.ok expr, after)) :
    ∃ operand : Operand,
      operand.Within nestingLimit ∧ expr = operand.tree ∧
        parser.rest = operand.tokens ++ after.rest := by
  rw [readArgument, Reading.unary] at read
  cases ran : (Reading.unaryWithin nestingLimit).run parser with
  | ok tree behind =>
      simp only [ran, Prod.mk.injEq, Except.ok.injEq] at read
      rcases read with ⟨rfl, rfl⟩
      rcases (Reading.unaryWithin_reads _ _ _ _).1 ran with
        ⟨operand, within, passed, tree_eq, _⟩
      exact ⟨operand, within, tree_eq, passed⟩
  | error error behind =>
      simp only [ran] at read
      split at read <;> cases read

/-- One step of reading arguments passes a piece, and its outcome is placed there. -/
theorem Parser.placed_of_readArgument
    {ending : Token}
    {parser after : Parser}
    {tokens : List Token}
    {outcome : Except SyntaxError Expr}
    (closed : ClosedBy ending parser.rest)
    (inside : parser.current.kind ≠ .endOfLine)
    (read : parser.readArgument = (outcome, after))
    (parts : parser.rest = tokens ++ after.rest) :
    tokens ≠ [] ∧ ClosedBy ending after.rest ∧
      Piece.Placed ending (after.rest = [ending]) ⟨tokens, outcome⟩ := by
  cases outcome with
  | ok argument =>
      rcases readArgument_ok read with ⟨operand, within, rfl, passed⟩
      have tokens_eq : tokens = operand.tokens :=
        List.append_cancel_right (parts.symm.trans passed)
      subst tokens_eq
      refine ⟨?_, ?_, within.readAlone, within.derived.covers⟩
      · rcases within.derived.covers with ⟨first, _, isFirst, _⟩
        intro empty
        rw [empty] at isFirst
        cases isFirst
      · refine closed.of_suffix ⟨operand.tokens, passed.symm⟩ ?_
        have hasEnd := closed.hasEnd
        rw [passed] at hasEnd
        exact hasEnd.of_append within.derived.kind_ne_endOfLine
  | error error =>
      rcases readArgument_error closed.hasEnd (congrArg Prod.fst read) with
        ⟨front, token, behind, pointed, place, isSuffix, afterEnd⟩
      rw [read] at isSuffix afterEnd
      have afterClosed : ClosedBy ending after.rest :=
        closed.of_suffix ⟨tokens, parts.symm⟩ afterEnd
      by_cases ends : token.kind = .endOfLine
      · -- The error is about the end of the line, so the piece is all that was in front of it.
        rcases (pointed ▸ closed).eq_of_isEnd ends with ⟨rfl, rfl⟩
        rw [dropToken, if_pos ends] at isSuffix
        have nothingLeft : after.rest = [token] := by
          rcases List.suffix_cons_iff.1 isSuffix with same | shorter
          · exact same
          · rw [List.suffix_nil.1 shorter] at afterEnd
            rcases afterEnd with ⟨other, member, _⟩
            cases member
        refine ⟨?_, afterClosed, token, place, Or.inr ⟨rfl, nothingLeft⟩⟩
        rintro rfl
        have current_eq := current_of_rest_eq (parts.trans nothingLeft)
        exact inside (current_eq ▸ ends)
      · rw [dropToken, if_neg ends] at isSuffix
        rcases isSuffix with ⟨extra, rfl⟩
        have tokens_eq : tokens = front ++ token :: extra := by
          have sameRest : tokens ++ after.rest = (front ++ token :: extra) ++ after.rest := by
            rw [← parts, pointed, List.append_assoc, List.cons_append]
          exact List.append_cancel_right sameRest
        have member : token ∈ tokens := by
          simp [tokens_eq]
        exact ⟨List.ne_nil_of_mem member, afterClosed, token, place, Or.inl member⟩

/-! ## All pieces -/

namespace Parser

/-- The steps of reading arguments, each with the piece that it passes. -/
inductive ReadsPieces : Parser → List Piece → Parser → Prop where
  | finished {parser : Parser} :
      parser.current.kind = .endOfLine →
      ReadsPieces parser [] parser
  | piece {parser after final : Parser} {tokens : List Token}
      {outcome : Except SyntaxError Expr} {others : List Piece} :
      parser.current.kind ≠ .endOfLine →
      parser.readArgument = (outcome, after) →
      parser.rest = tokens ++ after.rest →
      ReadsPieces after others final →
      ReadsPieces parser (⟨tokens, outcome⟩ :: others) final

variable
    {ending : Token}
    {parser final : Parser}
    {pieces : List Piece}

theorem exists_readsPieces
    (tokensLeft : Nat)
    (parser : Parser)
    (closed : ClosedBy ending parser.rest)
    (enough : parser.rest.length ≤ tokensLeft + 1) :
    ∃ pieces final,
      parser.ReadsPieces pieces final ∧
        parser.readArguments tokensLeft = (pieces.map Piece.outcome, final) := by
  induction tokensLeft generalizing parser with
  | zero =>
      refine ⟨[], parser, .finished ?_, rfl⟩
      rcases closed.parts with ⟨body, parts, _⟩
      have empty : body = [] := by
        rw [parts, List.length_append] at enough
        exact List.eq_nil_of_length_eq_zero (by simpa using enough)
      rw [Parser.current, parts, empty]
      exact closed.isEnd
  | succ tokensLeft shorter =>
      rw [readArguments]
      by_cases ends : parser.current.kind = .endOfLine
      · rw [if_pos ends]
        exact ⟨[], parser, .finished ends, rfl⟩
      · have isSuffix := parser.readArgument_suffix
        rcases read : parser.readArgument with ⟨outcome, after⟩
        rw [read] at isSuffix
        rcases isSuffix with ⟨tokens, parts⟩
        have parts : tokens ++ after.rest = parser.rest := parts
        rcases placed_of_readArgument closed ends read parts.symm with
          ⟨nonempty, afterClosed, _⟩
        have afterShorter : after.rest.length ≤ tokensLeft + 1 := by
          have positive : 0 < tokens.length := List.length_pos_iff.2 nonempty
          rw [← parts, List.length_append] at enough
          omega
        rcases shorter after afterClosed afterShorter with
          ⟨pieces, final, readsPieces, outcomes⟩
        refine ⟨⟨tokens, outcome⟩ :: pieces, final, .piece ends read parts.symm readsPieces, ?_⟩
        simp only [if_neg ends, outcomes, List.map_cons]

theorem ReadsPieces.rest_eq
    (readsPieces : parser.ReadsPieces pieces final)
    (closed : ClosedBy ending parser.rest) :
    parser.rest = pieces.flatMap Piece.tokens ++ [ending] ∧ final.rest = [ending] := by
  induction readsPieces with
  | @finished parser ends =>
      rcases closed.hasEnd.exists_behind with ⟨behind, inFront⟩
      rw [inFront, ← List.nil_append (_ :: _)] at closed
      rcases closed.eq_of_isEnd ends with ⟨current_eq, rfl⟩
      rw [inFront, current_eq]
      exact ⟨rfl, rfl⟩
  | piece inside read parts _ othersHypothesis =>
      rcases placed_of_readArgument closed inside read parts with ⟨_, afterClosed, _⟩
      rcases othersHypothesis afterClosed with ⟨afterParts, finalRest⟩
      rw [parts, afterParts, List.flatMap_cons, List.append_assoc]
      exact ⟨rfl, finalRest⟩

theorem ReadsPieces.nonempty
    (readsPieces : parser.ReadsPieces pieces final)
    (closed : ClosedBy ending parser.rest) :
    ∀ piece ∈ pieces, piece.tokens ≠ [] := by
  induction readsPieces with
  | finished _ =>
      simp
  | piece inside read parts _ othersHypothesis =>
      rcases placed_of_readArgument closed inside read parts with ⟨nonempty, afterClosed, _⟩
      exact List.forall_mem_cons.2 ⟨nonempty, othersHypothesis afterClosed⟩

/-- The outcome of each piece is placed in it. -/
theorem ReadsPieces.placed
    (readsPieces : parser.ReadsPieces pieces final)
    (closed : ClosedBy ending parser.rest)
    (before : List Piece)
    (piece : Piece)
    (following : List Piece)
    (split : pieces = before ++ piece :: following) :
    piece.Placed ending (following = []) := by
  induction readsPieces generalizing before with
  | finished _ =>
      simp at split
  | @piece parser after final tokens outcome others inside read parts readsOthers
      othersHypothesis =>
      rcases placed_of_readArgument closed inside read parts with ⟨_, afterClosed, placed⟩
      cases before with
      | cons first shorter =>
          exact othersHypothesis afterClosed shorter (List.cons.inj split).2
      | nil =>
          rcases List.cons.inj split with ⟨rfl, rfl⟩
          cases outcome with
          | ok argument =>
              exact placed
          | error error =>
              rcases placed with ⟨token, place, member | ⟨rfl, nothingLeft⟩⟩
              · exact ⟨token, place, Or.inl member⟩
              · refine ⟨token, place, Or.inr ⟨rfl, ?_⟩⟩
                cases readsOthers with
                | finished _ =>
                    rfl
                | piece othersInside _ _ _ =>
                    have current_eq := current_of_rest_eq nothingLeft
                    exact absurd (current_eq ▸ closed.isEnd) othersInside

/-- Each error comes from reading an argument, and reading goes on behind this argument. -/
theorem ReadsPieces.exists_readArgument
    (readsPieces : parser.ReadsPieces pieces final)
    (before : List SyntaxError)
    (error : SyntaxError)
    (after : List SyntaxError)
    (errors : pieces.filterMap Piece.error? = before ++ error :: after) :
    ∃ (reader behind : Parser) (others : List Piece),
      reader.rest <:+ parser.rest ∧ reader.readArgument = (.error error, behind) ∧
        behind.ReadsPieces others final ∧ after = others.filterMap Piece.error? := by
  induction readsPieces generalizing before with
  | finished _ =>
      simp at errors
  | @piece parser behind final tokens outcome others _ read parts readsOthers othersHypothesis =>
      have later (fewer : List SyntaxError)
          (othersErrors : others.filterMap Piece.error? = fewer ++ error :: after) :
          ∃ (reader behind : Parser) (others : List Piece),
            reader.rest <:+ parser.rest ∧ reader.readArgument = (.error error, behind) ∧
              behind.ReadsPieces others final ∧ after = others.filterMap Piece.error? := by
        rcases othersHypothesis fewer othersErrors with
          ⟨reader, further, rest, isSuffix, found⟩
        exact ⟨reader, further, rest, isSuffix.trans ⟨tokens, parts.symm⟩, found⟩
      cases outcome with
      | ok argument =>
          exact later before errors
      | error failure =>
          cases before with
          | nil =>
              rcases List.cons.inj errors with ⟨rfl, after_eq⟩
              exact ⟨parser, behind, others, List.suffix_refl _, read, readsOthers, after_eq.symm⟩
          | cons first fewer =>
              exact later fewer (List.cons.inj errors).2

end Parser

/-! ## The order of the outcomes -/

theorem Span.Covers.bounds
    {span : Span}
    {tokens : List Token}
    (covers : span.Covers tokens)
    (inOrder : InOrder tokens) :
    ∀ token ∈ tokens, span.first ≤ token.column ∧ token.span.last ≤ span.last := by
  rcases covers with ⟨first, last, isFirst, isLast, rfl⟩
  intro token member
  constructor
  · rcases List.head?_eq_some_iff.1 isFirst with ⟨others, rfl⟩
    have ordered := (List.pairwise_cons.1 inOrder.ordered).1
    have covering := inOrder.covering first List.mem_cons_self
    rcases List.mem_cons.1 member with rfl | inOthers
    · exact Nat.le_refl _
    · exact Nat.le_of_lt (Nat.lt_of_le_of_lt covering (ordered token inOthers))
  · rcases List.getLast?_eq_some_iff.1 isLast with ⟨others, rfl⟩
    have ordered := (List.pairwise_append.1 inOrder.ordered).2.2
    have covering := inOrder.covering last (by simp)
    rcases List.mem_append.1 member with inOthers | isLast
    · have before : token.span.last < last.column :=
        ordered token inOthers last List.mem_cons_self
      exact Nat.le_of_lt (Nat.lt_of_lt_of_le before covering)
    · cases List.mem_singleton.1 isLast
      exact Nat.le_refl _

namespace Piece.Placed

variable
    {ending : Token}
    {isLast : Prop}
    {piece : Piece}

/-- What an outcome speaks about begins with a token. -/
theorem exists_extent_first
    (placed : piece.Placed ending isLast) :
    ∃ token ∈ piece.tokens ++ [ending], piece.extent.first = token.column := by
  rcases piece with ⟨tokens, outcome⟩
  cases outcome with
  | error error =>
      rcases placed with ⟨token, place, member | ⟨rfl, _⟩⟩
      · exact ⟨token, List.mem_append_left _ member, place⟩
      · exact ⟨token, by simp, place⟩
  | ok argument =>
      rcases placed with ⟨_, first, last, isFirst, _, covered⟩
      refine ⟨first, List.mem_append_left _ (List.mem_of_head? isFirst), ?_⟩
      show argument.span.first = first.column
      rw [covered]

/-- What an outcome speaks about ends in its piece unless the piece is the last. -/
theorem extent_last_lt
    (placed : piece.Placed ending isLast)
    (notLast : ¬ isLast)
    {left : List Token}
    (inOrder : InOrder (piece.tokens ++ left)) :
    ∀ later ∈ left, piece.extent.last < later.column := by
  have ordered := (List.pairwise_append.1 inOrder.ordered).2.2
  intro later laterMember
  rcases piece with ⟨tokens, outcome⟩
  cases outcome with
  | error error =>
      rcases placed with ⟨token, place, member | ⟨_, last⟩⟩
      · have covering := inOrder.covering token (List.mem_append_left _ member)
        have before := ordered token member later laterMember
        show error.column < later.column
        rw [place]
        exact Nat.lt_of_le_of_lt covering before
      · exact absurd last notLast
  | ok argument =>
      rcases placed with ⟨_, first, last, _, isLast, covered⟩
      have before := ordered last (List.mem_of_getLast? isLast) later laterMember
      show argument.span.last < later.column
      rw [covered]
      exact before

end Piece.Placed

namespace Parser

variable
    {ending : Token}
    {parser final : Parser}
    {pieces : List Piece}

/-- The outcomes of the pieces stand one behind the other. -/
theorem ReadsPieces.pairwise_extent
    (readsPieces : parser.ReadsPieces pieces final)
    (closed : ClosedBy ending parser.rest)
    (inOrder : InOrder parser.rest) :
    pieces.Pairwise fun earlier later => earlier.extent.last < later.extent.first := by
  induction readsPieces with
  | finished _ =>
      exact .nil
  | @piece parser after final tokens outcome others inside read parts readsOthers
      othersHypothesis =>
      rcases placed_of_readArgument closed inside read parts with ⟨_, afterClosed, _⟩
      have wholeReads : parser.ReadsPieces (⟨tokens, outcome⟩ :: others) final :=
        .piece inside read parts readsOthers
      rw [parts] at inOrder
      refine List.pairwise_cons.2 ⟨?_, othersHypothesis afterClosed
        (inOrder.of_sublist (List.sublist_append_right _ _))⟩
      intro later laterMember
      have placed := wholeReads.placed closed [] _ others rfl
      rcases List.append_of_mem laterMember with ⟨between, following, rfl⟩
      have laterPlaced := readsOthers.placed afterClosed between later following rfl
      rcases laterPlaced.exists_extent_first with ⟨token, tokenMember, begins⟩
      -- The token with which the later outcome begins is left behind the earlier piece.
      have tokenLeft : token ∈ after.rest := by
        rw [(readsOthers.rest_eq afterClosed).1]
        rcases List.mem_append.1 tokenMember with inPiece | isEnding
        · exact List.mem_append_left _ (List.mem_flatMap.2 ⟨later, laterMember, inPiece⟩)
        · exact List.mem_append_right _ isEnding
      rw [begins]
      exact placed.extent_last_lt (by simp) inOrder token tokenLeft

end Parser

section Order

variable
    {pieces : List Piece}
    (ordered :
      pieces.Pairwise fun earlier later => earlier.extent.last < later.extent.first)

include ordered

theorem pairwise_arguments :
    (pieces.filterMap Piece.argument?).Pairwise fun earlier later =>
      earlier.span.last < later.span.first := by
  refine List.pairwise_filterMap.2 (ordered.imp ?_)
  intro earlier later before argument isArgument laterArgument isLaterArgument
  rw [Piece.argument?_eq_some_iff] at isArgument isLaterArgument
  rwa [Piece.extent_of_ok isArgument, Piece.extent_of_ok isLaterArgument] at before

theorem pairwise_errors :
    (pieces.filterMap Piece.error?).Pairwise fun earlier later =>
      earlier.column < later.column := by
  refine List.pairwise_filterMap.2 (ordered.imp ?_)
  intro earlier later before error isError laterError isLaterError
  rw [Piece.error?_eq_some_iff] at isError isLaterError
  rwa [Piece.extent_of_error isError, Piece.extent_of_error isLaterError] at before

theorem error_outside_argument
    {error : SyntaxError}
    (errorMember : error ∈ pieces.filterMap Piece.error?)
    {argument : Expr}
    (argumentMember : argument ∈ pieces.filterMap Piece.argument?) :
    error.column < argument.span.first ∨ argument.span.last < error.column := by
  rcases List.mem_filterMap.1 errorMember with ⟨failed, failedMember, isError⟩
  rcases List.mem_filterMap.1 argumentMember with ⟨read, readMember, isArgument⟩
  rw [Piece.error?_eq_some_iff] at isError
  rw [Piece.argument?_eq_some_iff] at isArgument
  rcases List.append_of_mem failedMember with ⟨before, behind, rfl⟩
  rcases List.pairwise_append.1 ordered with ⟨_, fromFailed, across⟩
  rcases List.mem_append.1 readMember with inBefore | fromHere
  · have order := across read inBefore failed List.mem_cons_self
    rw [Piece.extent_of_error isError, Piece.extent_of_ok isArgument] at order
    exact Or.inr order
  · rcases List.mem_cons.1 fromHere with rfl | inBehind
    · rw [isError] at isArgument
      cases isArgument
    · have order := (List.pairwise_cons.1 fromFailed).1 read inBehind
      rw [Piece.extent_of_error isError, Piece.extent_of_ok isArgument] at order
      exact Or.inl order

end Order

/-- A token is in one argument at most. -/
theorem eq_of_covered
    {arguments : List Expr}
    (ordered : arguments.Pairwise fun earlier later => earlier.span.last < later.span.first)
    {token : Token}
    (covering : token.column ≤ token.span.last)
    {index other : Fin arguments.length}
    (inside :
      (arguments.get index).span.first ≤ token.column ∧
        token.span.last ≤ (arguments.get index).span.last)
    (insideOther :
      (arguments.get other).span.first ≤ token.column ∧
        token.span.last ≤ (arguments.get other).span.last) :
    index = other := by
  have apart := List.pairwise_iff_getElem.1 ordered
  rcases Nat.lt_trichotomy index.1 other.1 with before | same | behind
  · have order := apart index.1 other.1 index.2 other.2 before
    simp only [List.get_eq_getElem] at inside insideOther
    omega
  · exact Fin.ext same
  · have order := apart other.1 index.1 other.2 index.2 behind
    simp only [List.get_eq_getElem] at inside insideOther
    omega

/-- Where every piece is an argument, each token is in exactly one of them. -/
theorem existsUnique_argument_of_token
    {pieces : List Piece}
    (ordered :
      pieces.Pairwise fun earlier later => earlier.extent.last < later.extent.first)
    (covers :
      ∀ piece ∈ pieces, ∀ argument, piece.outcome = .ok argument →
        argument.span.Covers piece.tokens)
    (noErrors : pieces.filterMap Piece.error? = [])
    (inOrder : InOrder (pieces.flatMap Piece.tokens))
    (token : Token)
    (member : token ∈ pieces.flatMap Piece.tokens) :
    ∃! index : Fin (pieces.filterMap Piece.argument?).length,
      ((pieces.filterMap Piece.argument?).get index).span.first ≤ token.column ∧
        token.span.last ≤ ((pieces.filterMap Piece.argument?).get index).span.last := by
  rcases List.mem_flatMap.1 member with ⟨piece, pieceMember, inPiece⟩
  cases outcome : piece.outcome with
  | error error =>
      have isError : error ∈ pieces.filterMap Piece.error? :=
        List.mem_filterMap.2 ⟨piece, pieceMember, Piece.error?_eq_some_iff.2 outcome⟩
      rw [noErrors] at isError
      cases isError
  | ok argument =>
      have isArgument : argument ∈ pieces.filterMap Piece.argument? :=
        List.mem_filterMap.2 ⟨piece, pieceMember, Piece.argument?_eq_some_iff.2 outcome⟩
      rcases List.mem_iff_get.1 isArgument with ⟨index, index_eq⟩
      have pieceInOrder : InOrder piece.tokens := by
        rcases List.append_of_mem pieceMember with ⟨before, behind, rfl⟩
        refine inOrder.of_sublist ?_
        rw [List.flatMap_append, List.flatMap_cons]
        exact (List.sublist_append_left _ _).trans (List.sublist_append_right _ _)
      have inside := (covers piece pieceMember argument outcome).bounds pieceInOrder token inPiece
      rw [← index_eq] at inside
      refine ⟨index, inside, ?_⟩
      intro other insideOther
      exact eq_of_covered (pairwise_arguments ordered) (inOrder.covering token member)
        insideOther inside

/-! ## Command lines -/

theorem closedBy_tokenize
    (line : String) :
    ClosedBy (Token.endOfLine line.toList.length) (tokenize line) := by
  rcases exists_body_of_tokensFrom 0 line.toList with ⟨body, scanned, inside⟩
  rw [Nat.zero_add] at scanned
  exact ⟨rfl, body, scanned, inside⟩

/-- A line with a name is read as a command with the outcomes of its arguments. -/
theorem Parser.readCommand_of_identifier
    {parser final : Parser}
    {pieces : List Piece}
    (named : parser.current.kind = .identifier)
    (read :
      parser.advanced.readArguments parser.rest.length = (pieces.map Piece.outcome, final)) :
    parser.readCommand =
      { command :=
          some ⟨parser.current.text, parser.current.span, pieces.filterMap Piece.argument?⟩
        errors := pieces.filterMap Piece.error?
        parser := final } := by
  simp only [readCommand, if_pos named, read, List.filterMap_map]
  rfl

/-- A line with a name in front is read in pieces. -/
theorem exists_readsPieces_of_identifier
    {line : String}
    {name : Token}
    {behind : List Token}
    (scanned : tokenize line = name :: behind)
    (named : name.kind = .identifier) :
    ∃ pieces final,
      (Parser.mk behind 0).ReadsPieces pieces final ∧
        ClosedBy (.endOfLine line.toList.length) behind ∧
        parseLine line =
          { command := some ⟨name.text, name.span, pieces.filterMap Piece.argument?⟩
            errors := pieces.filterMap Piece.error?
            parser := final } := by
  have inside : name.kind ≠ .endOfLine := by simp [named]
  have closed : ClosedBy (.endOfLine line.toList.length) behind :=
    (scanned ▸ closedBy_tokenize line).of_cons inside
  have readsFrom : (Parser.mk (name :: behind) 0).advanced = ⟨behind, 0⟩ :=
    Parser.advanced_cons _ _ _ inside
  have isNamed : (Parser.mk (name :: behind) 0).current.kind = .identifier := named
  rcases Parser.exists_readsPieces (name :: behind).length ⟨behind, 0⟩ closed
    (Nat.le_add_right_of_le (Nat.le_succ _)) with ⟨pieces, final, readsPieces, read⟩
  rw [← readsFrom] at read
  refine ⟨pieces, final, readsPieces, closed, ?_⟩
  rw [parseLine, Parser.ofLine_eq, scanned, Parser.readCommand_of_identifier isNamed read]
  rfl

/-- A line that does not begin with a name gives no command, and is refused at its first token. -/
theorem parseLine_of_not_identifier
    {line : String}
    {token : Token}
    {rest : List Token}
    (scanned : tokenize line = token :: rest)
    (notName : token.kind ≠ .identifier) :
    parseLine line = ⟨none, [⟨.expectedCommand, token.column⟩], ⟨token :: rest, 0⟩⟩ := by
  rw [parseLine, Parser.ofLine_eq, scanned, Parser.readCommand, Parser.current_cons,
    if_neg notName]

/-- An error of a line that has a name comes from reading an argument, and the errors behind it
come from reading on behind this argument. -/
theorem exists_readArgument_of_errors
    {line : String}
    {before after : List SyntaxError}
    {error : SyntaxError}
    (errors : (parseLine line).errors = before ++ error :: after)
    (inside : error.fault ≠ .expectedCommand) :
    ∃ (reader behind final : Parser) (others : List Piece),
      reader.rest <:+ tokenize line ∧ reader.readArgument = (.error error, behind) ∧
        behind.ReadsPieces others final ∧ after = others.filterMap Piece.error? := by
  rcases (closedBy_tokenize line).hasEnd with ⟨_, someToken, _⟩
  rcases List.exists_cons_of_ne_nil (List.ne_nil_of_mem someToken) with ⟨name, rest, scanned⟩
  by_cases named : name.kind = .identifier
  · rcases exists_readsPieces_of_identifier scanned named with
      ⟨pieces, final, readsPieces, _, parsed⟩
    rw [parsed] at errors
    rcases readsPieces.exists_readArgument before error after errors with
      ⟨reader, behind, others, isSuffix, failed, readsOthers, after_eq⟩
    rw [scanned]
    exact ⟨reader, behind, final, others, isSuffix.trans (List.suffix_cons name rest), failed,
      readsOthers, after_eq⟩
  · have member : error ∈ (parseLine line).errors := by
      rw [errors]
      exact List.mem_append_right _ List.mem_cons_self
    rw [parseLine_of_not_identifier scanned named] at member
    rw [List.mem_singleton.1 member] at inside
    exact absurd rfl inside

/--
The tokens between the name of a command and the end of the line are split into
consecutive pieces, none of them empty.  Each piece gives one argument or one error,
which is placed in it.  So arguments and errors stand one behind the other, no error
points into an argument, and where there are no errors every token is in exactly one
argument.
-/
theorem arguments_and_errors_partition_line
    (line : String)
    (named : (Parser.ofLine line).current.kind = .identifier) :
    ∃ (name : Token) (body : List Token) (command : Command) (pieces : List Piece),
      tokenize line = name :: (body ++ [Token.endOfLine line.toList.length]) ∧
      (∀ token ∈ body, token.kind ≠ .endOfLine) ∧
      (parseLine line).command = some command ∧
      command.name = name.text ∧
      command.arguments = pieces.filterMap Piece.argument? ∧
      (parseLine line).errors = pieces.filterMap Piece.error? ∧
      body = pieces.flatMap Piece.tokens ∧
      (∀ piece ∈ pieces, piece.tokens ≠ []) ∧
      (Parser.ofLine line).advanced.ReadsPieces pieces (parseLine line).parser ∧
      (∀ before piece following,
        pieces = before ++ piece :: following →
        piece.Placed (Token.endOfLine line.toList.length) (following = [])) ∧
      (command.arguments.Pairwise fun earlier later =>
        earlier.span.last < later.span.first) ∧
      ((parseLine line).errors.Pairwise fun earlier later => earlier.column < later.column) ∧
      (∀ error ∈ (parseLine line).errors, ∀ argument ∈ command.arguments,
        error.column < argument.span.first ∨ argument.span.last < error.column) ∧
      ((parseLine line).errors = [] →
        ∀ token ∈ body,
          ∃! index : Fin command.arguments.length,
            (command.arguments.get index).span.first ≤ token.column ∧
              token.span.last ≤ (command.arguments.get index).span.last) := by
  have lineClosed := closedBy_tokenize line
  have lineInOrder := inOrder_tokenize line
  have rest_eq : (Parser.ofLine line).rest = tokenize line := by
    rw [Parser.ofLine_eq]
  have inside : (Parser.ofLine line).current.kind ≠ .endOfLine := by
    rw [named]
    decide
  have inFront := (Parser.ofLine line).rest_eq_current_cons inside
  rw [← rest_eq, inFront] at lineClosed lineInOrder
  have closed := lineClosed.of_cons inside
  have inOrder := lineInOrder.of_sublist (List.sublist_cons_self _ _)
  have enough :
      (Parser.ofLine line).advanced.rest.length ≤ (Parser.ofLine line).rest.length + 1 := by
    rw [inFront, List.length_cons]
    omega
  rcases Parser.exists_readsPieces _ _ closed enough with ⟨pieces, final, readsPieces, read⟩
  have parsed := Parser.readCommand_of_identifier named read
  have parts := (readsPieces.rest_eq closed).1
  have placed := readsPieces.placed closed
  have ordered := readsPieces.pairwise_extent closed inOrder
  have covers : ∀ piece ∈ pieces, ∀ argument, piece.outcome = .ok argument →
      argument.span.Covers piece.tokens := by
    intro piece member argument outcome
    rcases List.append_of_mem member with ⟨before, following, split⟩
    have piecePlaced := placed before piece following split
    rw [Piece.Placed, outcome] at piecePlaced
    exact piecePlaced.2
  have bodyInOrder : InOrder (pieces.flatMap Piece.tokens) := by
    rw [parts] at inOrder
    exact inOrder.of_sublist (List.sublist_append_left _ _)
  have bodyInside : ∀ token ∈ pieces.flatMap Piece.tokens, token.kind ≠ .endOfLine := by
    rcases closed.parts with ⟨body, bodyParts, bodyInside⟩
    rw [parts] at bodyParts
    rwa [(List.append_inj' bodyParts rfl).1]
  rw [parseLine, parsed]
  refine ⟨(Parser.ofLine line).current, pieces.flatMap Piece.tokens, _, pieces, ?_, bodyInside,
    rfl, rfl, rfl, rfl, rfl, readsPieces.nonempty closed, readsPieces, placed,
    pairwise_arguments ordered, pairwise_errors ordered, ?_, ?_⟩
  · rw [← rest_eq, inFront, parts]
  · intro error errorMember argument argumentMember
    exact error_outside_argument ordered errorMember argumentMember
  · intro noErrors
    exact existsUnique_argument_of_token ordered covers noErrors bodyInOrder

/-- The pieces of `p a ) (b` are an argument, a stray parenthesis and a group without an end. -/
theorem arguments_and_errors_partition_line_of_unmatched :
    (Parser.ofLine "p a ) (b").current.kind = .identifier ∧
      ∃ (command : Command) (pieces : List Piece),
        (parseLine "p a ) (b").command = some command ∧
        command.arguments = pieces.filterMap Piece.argument? ∧
        pieces.filterMap Piece.error? =
          [⟨.unmatchedParentheses, 4⟩, ⟨.unmatchedParentheses, 6⟩] ∧
        (pieces.flatMap Piece.tokens).map Token.column = [2, 4, 6, 7] ∧
        ∀ piece ∈ pieces, piece.tokens ≠ [] := by
  refine ⟨rfl, ?_⟩
  rcases arguments_and_errors_partition_line "p a ) (b" rfl with
    ⟨name, body, command, pieces, scanned, _, parsed, _, arguments, errors, parts, nonempty, _⟩
  refine ⟨command, pieces, parsed, arguments, errors.symm.trans rfl, ?_, nonempty⟩
  have columns : (tokenize "p a ) (b").map Token.column = 0 :: ([2, 4, 6, 7] ++ [8]) := rfl
  rw [scanned, List.map_cons, List.map_append] at columns
  rw [← parts]
  exact List.append_cancel_right (List.cons.inj columns).2

end AsmShell
