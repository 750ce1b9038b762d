import AsmShell.Proofs.Columns
import AsmShell.Proofs.Scanning

/-!
# The tokens of a piece of a line

A piece of a line that begins where a token begins and ends where a token ends is
split into the tokens it covers in the line, with all columns counted from its own
beginning.  What stands in front of the piece is left out because a scan has no
memory, and what stands behind it is left out because a longest match stays one when
the text is cut behind it.
-/

namespace AsmShell

open Text

/-- The characters of a line that a span covers, its last column included. -/
def Span.slice (span : Span) (line : String) : String :=
  String.ofList ((line.toList.drop span.first).take (span.last + 1 - span.first))

theorem Token.ofSource_add
    (kind : TokenKind)
    (column columns : Nat)
    (source : List Char) :
    Token.ofSource kind (column + columns) source =
      (Token.ofSource kind column source).moveColumns (· + columns) := by
  simp only [Token.ofSource, Token.moveColumns, Span.moveColumns, Nat.add_right_comm]

/-- A scan that begins at a later column finds the same tokens at later columns. -/
theorem tokensFrom_add
    (column columns : Nat)
    (text : List Char) :
    tokensFrom (column + columns) 0 text =
      (tokensFrom column 0 text).map (Token.moveColumns (· + columns)) := by
  induction column, text using scan_induction with
  | finished column =>
      rfl
  | token column kind front back takes backHypothesis =>
      rw [takes.tokensFrom_eq, takes.tokensFrom_eq, List.map_cons, ← backHypothesis,
        Token.ofSource_add, Nat.add_right_comm]
  | separators column front back longest backHypothesis =>
      rw [tokensFrom_separators longest, tokensFrom_separators longest, ← backHypothesis,
        Nat.add_right_comm]

/-- A scan can be taken up again in front of each of its tokens. -/
theorem exists_scan_from_token
    (column : Nat)
    (text : List Char)
    (before : List Token)
    (token : Token)
    (after : List Token)
    (scanned : tokensFrom column 0 text = before ++ token :: after) :
    ∃ front back,
      text = front ++ back ∧ token.column = column + front.length ∧
        tokensFrom token.column 0 back = token :: after := by
  induction column, text using scan_induction generalizing before with
  | finished column =>
      cases before with
      | nil =>
          cases scanned
          exact ⟨[], [], rfl, rfl, rfl⟩
      | cons first others =>
          have noneLeft := (List.cons.inj scanned).2
          simp at noneLeft
  | token column kind front back takes backHypothesis =>
      rw [takes.tokensFrom_eq] at scanned
      cases before with
      | nil =>
          rcases List.cons.inj scanned with ⟨rfl, rfl⟩
          exact ⟨[], front ++ back, rfl, rfl, takes.tokensFrom_eq column⟩
      | cons first others =>
          rcases backHypothesis others (List.cons.inj scanned).2 with
            ⟨skipped, rest, rfl, place, rescanned⟩
          refine ⟨front ++ skipped, rest, by rw [List.append_assoc], ?_, rescanned⟩
          rw [place, List.length_append, Nat.add_assoc]
  | separators column front back longest backHypothesis =>
      rw [tokensFrom_separators longest] at scanned
      rcases backHypothesis before scanned with ⟨skipped, rest, rfl, place, rescanned⟩
      refine ⟨front ++ skipped, rest, by rw [List.append_assoc], ?_, rescanned⟩
      rw [place, List.length_append, Nat.add_assoc]

/-- A text that is cut behind one of its tokens has the tokens up to the cut. -/
theorem exists_scan_up_to_token
    (column : Nat)
    (text : List Char)
    (before : List Token)
    (token : Token)
    (after : List Token)
    (scanned : tokensFrom column 0 text = before ++ token :: after)
    (inside : token.kind ≠ .endOfLine) :
    ∃ front back,
      text = front ++ back ∧ token.span.last + 1 = column + front.length ∧
        tokensFrom column 0 front =
          before ++ [token, Token.endOfLine (token.span.last + 1)] := by
  induction column, text using scan_induction generalizing before with
  | finished column =>
      cases before with
      | nil =>
          cases scanned
          exact absurd rfl inside
      | cons first others =>
          have noneLeft := (List.cons.inj scanned).2
          simp at noneLeft
  | token column kind front back takes backHypothesis =>
      rw [takes.tokensFrom_eq] at scanned
      cases before with
      | nil =>
          rcases List.cons.inj scanned with ⟨rfl, _⟩
          have place :
              (Token.ofSource kind column front).span.last + 1 = column + front.length := by
            have := takes.length_pos
            show column + (front.length - 1) + 1 = column + front.length
            omega
          refine ⟨front, back, rfl, place, ?_⟩
          rw [← List.nil_append back] at takes
          have cutScan := takes.of_append.tokensFrom_eq column
          rw [List.append_nil] at cutScan
          rw [cutScan, place]
          rfl
      | cons first others =>
          rcases List.cons.inj scanned with ⟨rfl, backScanned⟩
          rcases backHypothesis others backScanned with ⟨kept, rest, rfl, place, rescanned⟩
          refine ⟨front ++ kept, rest, by rw [List.append_assoc], ?_, ?_⟩
          · rw [place, List.length_append, Nat.add_assoc]
          · rw [takes.of_append.tokensFrom_eq, rescanned]
            rfl
  | separators column front back longest backHypothesis =>
      rw [tokensFrom_separators longest] at scanned
      rcases backHypothesis before scanned with ⟨kept, rest, rfl, place, rescanned⟩
      refine ⟨front ++ kept, rest, by rw [List.append_assoc], ?_, ?_⟩
      · rw [place, List.length_append, Nat.add_assoc]
      · rw [tokensFrom_separators longest.of_append, rescanned]

/-- The tokens of a piece of a line from the beginning of one token to the end of another. -/
theorem tokenize_slice
    (line : String)
    (before middle after : List Token)
    (first last : Token)
    (scanned : tokenize line = before ++ (middle ++ after))
    (isFirst : middle.head? = some first)
    (isLast : middle.getLast? = some last)
    (inside : last.kind ≠ .endOfLine) :
    (tokenize (Span.slice ⟨first.column, last.span.last⟩ line)).map
        (Token.moveColumns (· + first.column)) =
      middle ++ [Token.endOfLine (last.span.last + 1)] := by
  rcases List.head?_eq_some_iff.1 isFirst with ⟨others, firstParts⟩
  rcases List.getLast?_eq_some_iff.1 isLast with ⟨init, lastParts⟩
  have firstScanned : tokensFrom 0 0 line.toList = before ++ first :: (others ++ after) := by
    rw [← List.cons_append, ← firstParts]
    exact scanned
  rcases exists_scan_from_token 0 _ before first _ firstScanned with
    ⟨front, rest, lineParts, firstPlace, restScanned⟩
  have lastScanned : tokensFrom first.column 0 rest = init ++ last :: after := by
    rw [restScanned, ← List.cons_append, ← firstParts, lastParts, List.append_assoc,
      List.singleton_append]
  rcases exists_scan_up_to_token first.column rest init last after lastScanned inside with
    ⟨piece, behind, rfl, lastPlace, pieceScanned⟩
  have sliced : Span.slice ⟨first.column, last.span.last⟩ line = String.ofList piece := by
    have frontLength : front.length = first.column := by omega
    have pieceLength : piece.length = last.span.last + 1 - first.column := by omega
    rw [Span.slice, lineParts, ← frontLength, List.drop_left, frontLength, ← pieceLength,
      List.take_left]
  rw [sliced, tokenize, String.toList_ofList, ← tokensFrom_add, Nat.zero_add, pieceScanned,
    lastParts]
  simp

end AsmShell
