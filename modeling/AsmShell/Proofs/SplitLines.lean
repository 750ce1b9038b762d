import AsmShell.Proofs.DecodedTexts
import AsmShell.Proofs.Deliveries

/-!
# Splitting bytes and splitting text

A script is cut at its line feeds while it is bytes, and its lines are decoded one by
one; a text in memory is cut when it is already text.  `Lines.CutAt` says what the cuts
are, for bytes and for characters, and `Lines.ofPieces` which lines come of the pieces.
Encoding a text neither adds nor hides a line feed or a carriage return, so it takes the
pieces of the text to those of its bytes, and decoding leads back.
-/

namespace AsmShell.Text.Lines

/-! ## Pieces -/

section

variable
    {Item : Type}
    {lineFeed carriageReturn : Item}

/-- The items are the pieces with a line feed behind each, and the last piece with none; there are
no other line feeds. -/
structure CutAt (lineFeed : Item) (items : List Item) (pieces : List (List Item))
    (last : List Item) : Prop where
  joined : items = pieces.flatMap (· ++ [lineFeed]) ++ last
  pieces_free : ∀ piece ∈ pieces, lineFeed ∉ piece
  last_free : lineFeed ∉ last

/-- Whatever the items are, they can be cut. -/
theorem exists_cutAt
    [DecidableEq Item]
    (lineFeed : Item)
    (items : List Item) :
    ∃ pieces last, CutAt lineFeed items pieces last := by
  induction items with
  | nil =>
      exact ⟨[], [], rfl, by simp, by simp⟩
  | cons item rest restHypothesis =>
      rcases restHypothesis with ⟨pieces, last, joined, piecesFree, lastFree⟩
      by_cases ends : item = lineFeed
      · refine ⟨[] :: pieces, last, ?_, ?_, lastFree⟩
        · rw [ends, joined]
          rfl
        · exact List.forall_mem_cons.2 ⟨List.not_mem_nil, piecesFree⟩
      · have free {piece : List Item} (pieceFree : lineFeed ∉ piece) :
            lineFeed ∉ item :: piece :=
          List.not_mem_cons_of_ne_of_not_mem (Ne.symm ends) pieceFree
        cases pieces with
        | nil =>
            exact ⟨[], item :: last, congrArg (item :: ·) joined, by simp, free lastFree⟩
        | cons piece others =>
            rcases List.forall_mem_cons.1 piecesFree with ⟨pieceFree, othersFree⟩
            exact ⟨(item :: piece) :: others, last, congrArg (item :: ·) joined,
              List.forall_mem_cons.2 ⟨free pieceFree, othersFree⟩, lastFree⟩

variable [DecidableEq Item]

/-- A piece without a carriage return at its end. -/
def withoutReturn (carriageReturn : Item) (piece : List Item) : List Item :=
  if piece.getLast? = some carriageReturn then piece.dropLast else piece

/-- The lines of the pieces: one for each, and one for the last piece unless that is empty. -/
def ofPieces (carriageReturn : Item) (pieces : List (List Item)) (last : List Item) :
    List (List Item) :=
  pieces.map (withoutReturn carriageReturn) ++ if last = [] then [] else [last]

/-- Each line is decided by its own piece. -/
theorem getElem?_ofPieces_congr
    {pieces otherPieces : List (List Item)}
    {last otherLast : List Item}
    (sameNumber : pieces.length = otherPieces.length)
    {index : Nat}
    (samePiece : (pieces ++ [last])[index]? = (otherPieces ++ [otherLast])[index]?) :
    (ofPieces carriageReturn pieces last)[index]? =
      (ofPieces carriageReturn otherPieces otherLast)[index]? := by
  simp only [ofPieces, List.getElem?_append, List.length_map, List.getElem?_map]
  simp only [List.getElem?_append] at samePiece
  rw [sameNumber] at samePiece ⊢
  by_cases ended : index < otherPieces.length
  · rw [if_pos ended, if_pos ended] at samePiece ⊢
    rw [samePiece]
  · rw [if_neg ended, if_neg ended] at samePiece ⊢
    cases position : index - otherPieces.length with
    | zero =>
        rw [position] at samePiece
        rw [Option.some.inj samePiece]
    | succ beyond =>
        split <;> split <;> rfl

/-! ## The lines of a list -/

theorem chunks_append_lineFeed
    {piece : List Item}
    (free : lineFeed ∉ piece)
    (rest : List Item) :
    chunks lineFeed (piece ++ lineFeed :: rest) =
      (piece ++ [lineFeed]) :: chunks lineFeed rest := by
  induction piece with
  | nil =>
      rw [List.nil_append, chunks, if_pos rfl]
      rfl
  | cons item piece pieceHypothesis =>
      rw [List.cons_append, chunks, if_neg (Ne.symm (List.ne_of_not_mem_cons free)),
        pieceHypothesis (List.not_mem_of_not_mem_cons free)]
      rfl

theorem chunks_of_free
    {last : List Item}
    (free : lineFeed ∉ last) :
    chunks lineFeed last = if last = [] then [] else [last] := by
  induction last with
  | nil => rfl
  | cons item rest restHypothesis =>
      rw [chunks, if_neg (Ne.symm (List.ne_of_not_mem_cons free)),
        restHypothesis (List.not_mem_of_not_mem_cons free)]
      cases rest <;> rfl

theorem stripEnd_append_lineFeed
    (piece : List Item) :
    stripEnd lineFeed carriageReturn (piece ++ [lineFeed]) =
      withoutReturn carriageReturn piece := by
  rw [stripEnd, List.getLast?_concat, if_pos rfl, List.dropLast_concat]
  rfl

theorem stripEnd_of_free
    {last : List Item}
    (free : lineFeed ∉ last) :
    stripEnd lineFeed carriageReturn last = last :=
  if_neg fun isLast => free (List.mem_of_getLast? isLast)

/-- The lines of a list are those of its pieces. -/
theorem CutAt.map_stripEnd_chunks
    {items last : List Item}
    {pieces : List (List Item)}
    (cut : CutAt lineFeed items pieces last)
    (carriageReturn : Item) :
    (chunks lineFeed items).map (stripEnd lineFeed carriageReturn) =
      ofPieces carriageReturn pieces last := by
  rcases cut with ⟨rfl, piecesFree, lastFree⟩
  induction pieces with
  | nil =>
      rw [List.flatMap_nil, List.nil_append, chunks_of_free lastFree, ofPieces]
      split
      · rfl
      · rw [List.map_singleton, stripEnd_of_free lastFree]
        rfl
  | cons piece others othersHypothesis =>
      rcases List.forall_mem_cons.1 piecesFree with ⟨pieceFree, othersFree⟩
      have joined :
          (piece :: others).flatMap (· ++ [lineFeed]) ++ last =
            piece ++ lineFeed :: (others.flatMap (· ++ [lineFeed]) ++ last) := by
        simp only [List.flatMap_cons, List.append_assoc, List.cons_append, List.nil_append]
      rw [joined, chunks_append_lineFeed pieceFree, List.map_cons, stripEnd_append_lineFeed,
        othersHypothesis othersFree]
      rfl

end

/-! ## Pieces of a text and of its bytes -/

/-- A character that is a single byte is found in the bytes of a text where it is in the text. -/
theorem mem_of_mem_encode
    {text : List Char}
    {character : Char}
    {byte : UInt8}
    (low : byte.toNat < 0x80)
    (isByte : character.toNat = byte.toNat)
    (member : byte ∈ Utf8.encode text) :
    character ∈ text := by
  rcases List.mem_flatMap.1 member with ⟨found, foundMember, inBytes⟩
  have sameCode := (Utf8.eq_singleton_of_mem_utf8EncodeChar inBytes low).1
  rwa [Char.toNat_inj.1 (sameCode.trans isByte.symm)] at foundMember

/-- Encoding a text encodes its pieces. -/
theorem CutAt.encode
    {text last : List Char}
    {pieces : List (List Char)}
    (cut : CutAt '\n' text pieces last) :
    CutAt lineFeedByte (Utf8.encode text) (pieces.map Utf8.encode) (Utf8.encode last) := by
  rcases cut with ⟨joined, piecesFree, lastFree⟩
  have free {piece : List Char} (pieceFree : '\n' ∉ piece) :
      lineFeedByte ∉ Utf8.encode piece :=
    fun member => pieceFree (mem_of_mem_encode (by decide) rfl member)
  refine ⟨?_, ?_, free lastFree⟩
  · rw [joined, Utf8.encode_append]
    simp only [Utf8.encode, List.flatMap_assoc, List.flatMap_map, List.flatMap_append]
    rfl
  · intro piece member
    rcases List.mem_map.1 member with ⟨original, originalMember, rfl⟩
    exact free (piecesFree original originalMember)

theorem withoutReturn_encode
    (piece : List Char) :
    withoutReturn carriageReturnByte (Utf8.encode piece) =
      Utf8.encode (withoutReturn '\r' piece) := by
  rcases List.eq_nil_or_concat' piece with rfl | ⟨front, character, rfl⟩
  · rfl
  · have concat : Utf8.encode (front ++ [character]) =
        Utf8.encode front ++ String.utf8EncodeChar character := by
      rw [Utf8.encode_append]
      exact congrArg (Utf8.encode front ++ ·) (List.append_nil _)
    rw [withoutReturn, withoutReturn, concat, List.getLast?_concat, List.dropLast_concat]
    by_cases isReturn : character = '\r'
    · rw [isReturn, show String.utf8EncodeChar '\r' = [carriageReturnByte] from rfl,
        List.getLast?_concat, if_pos rfl, if_pos rfl, List.dropLast_concat]
    · rw [if_neg (fun isLast => isReturn (Option.some.inj isLast)), if_neg, concat]
      intro isLast
      rcases Utf8.exists_spells character with ⟨first, following, _, bytes, _⟩
      have inCharacter : carriageReturnByte ∈ String.utf8EncodeChar character := by
        rw [bytes] at isLast ⊢
        rw [List.getLast?_append_of_ne_nil _ (List.cons_ne_nil _ _)] at isLast
        exact List.mem_of_getLast? isLast
      have sameCode := (Utf8.eq_singleton_of_mem_utf8EncodeChar inCharacter (by decide)).1
      exact isReturn (Char.toNat_inj.1 sameCode)

theorem ofPieces_encode
    (pieces : List (List Char))
    (last : List Char) :
    ofPieces carriageReturnByte (pieces.map Utf8.encode) (Utf8.encode last) =
      (ofPieces '\r' pieces last).map Utf8.encode := by
  have lastLine :
      (if Utf8.encode last = [] then [] else [Utf8.encode last]) =
        (if last = [] then [] else [last]).map Utf8.encode := by
    cases last with
    | nil => rfl
    | cons character rest =>
        have notEmpty : Utf8.encode (character :: rest) ≠ [] := by
          rcases Utf8.exists_spells character with ⟨first, following, _, bytes, _⟩
          simp [Utf8.encode, bytes]
        rw [if_neg notEmpty, if_neg (List.cons_ne_nil _ _)]
        rfl
  rw [ofPieces, ofPieces, lastLine, List.map_append, List.map_map, List.map_map]
  exact congrArg (· ++ _) (List.map_congr_left fun piece _ => withoutReturn_encode piece)

/-! ## Lines that are read -/

/-- The lines of bytes that are cut, decoded. -/
def decoded (pieces : List (List UInt8)) (last : List UInt8) : List String :=
  (ofPieces carriageReturnByte pieces last).map fun line => String.ofList (Utf8.decodeLossy line)

theorem CutAt.ofBytes_eq
    {bytes last : List UInt8}
    {pieces : List (List UInt8)}
    (cut : CutAt lineFeedByte bytes pieces last) :
    ofBytes bytes = decoded pieces last := by
  rw [ofBytes, bytesOfLines, cut.map_stripEnd_chunks carriageReturnByte]
  rfl

theorem CutAt.ofText_eq
    {text : String}
    {last : List Char}
    {pieces : List (List Char)}
    (cut : CutAt '\n' text.toList pieces last) :
    ofText text = (ofPieces '\r' pieces last).map String.ofList := by
  rw [← cut.map_stripEnd_chunks '\r', List.map_map]
  rfl

/-- The lines of a text are those of its bytes. -/
theorem ofBytes_toUTF8
    (text : String) :
    ofBytes text.toUTF8.data.toList = ofText text := by
  rcases exists_cutAt '\n' text.toList with ⟨pieces, last, cut⟩
  rw [Utf8.toList_data_toUTF8, cut.encode.ofBytes_eq, decoded, ofPieces_encode, cut.ofText_eq,
    List.map_map]
  exact List.map_congr_left fun line _ => congrArg String.ofList (Utf8.decodeLossy_encode line)

end AsmShell.Text.Lines

namespace AsmShell

open AsmShell.Text

namespace InputStack

/-! ## Reading all lines of a source -/

/-- The next reads give the lines, one to each, and leave the other stack. -/
def Gives (stack : InputStack) (lines : List String) (after : InputStack) : Prop :=
  stack.makeAll (List.replicate lines.length .read) =
    (lines.map fun line => .ok (some line), after)

theorem Gives.cons
    {stack between after : InputStack}
    {line : String}
    {lines : List String}
    (first : stack.readLine = (.ok (some line), between))
    (others : between.Gives lines after) :
    stack.Gives (line :: lines) after := by
  rw [Gives, List.length_cons, List.replicate_succ, makeAll, make, first]
  simp only
  rw [others]
  rfl

/-- A source gives its lines, wherever it stands on a stack on which it is read first, and is then
still there, with none left. -/
theorem gives_pending
    (place : Source → InputStack)
    (readsFirst : ∀ name line lines failure delivered,
      (place ⟨name, line :: lines, failure, delivered⟩).readLine =
        (.ok (some line), place ⟨name, lines, failure, delivered + 1⟩))
    (source : Source) :
    (place source).Gives source.pending
      (place { source with
          pending := []
          delivered := source.delivered + source.pending.length }) := by
  rcases source with ⟨name, lines, failure, delivered⟩
  induction lines generalizing delivered with
  | nil => rfl
  | cons line lines linesHypothesis =>
      have others := linesHypothesis (delivered + 1)
      rw [Nat.add_right_comm] at others
      exact .cons (readsFirst name line lines failure delivered) others

/-- A script with the bytes can be pushed, gives the lines, one to each read, and then leaves the
reads to what it was pushed on. -/
def HandsOut (stack : InputStack) (name : String) (bytes : List UInt8) (lines : List String) :
    Prop :=
  ∃ pushed after,
    stack.push (.ofContents name { bytes := bytes }) = .ok pushed ∧
      pushed.Gives lines after ∧
      after.readLine = stack.readLine

theorem handsOut_ofBytes
    {stack : InputStack}
    (room : stack.depth < stackLimit)
    (name : String)
    (bytes : List UInt8) :
    stack.HandsOut name bytes (Lines.ofBytes bytes) := by
  have gives :=
    gives_pending (fun script => ⟨script :: stack.scripts, stack.terminal⟩)
      (fun _ _ _ _ _ => rfl) (.ofContents name { bytes := bytes })
  exact ⟨_, _, if_neg (Nat.not_le_of_lt room), gives, rfl⟩

end InputStack

/--
A script, whatever its bytes are, is cut at its line feeds, and it gives one line for each
piece: the piece without the line feed and a carriage return in front of that, decoded; a
last piece with no line feed gives a line as it is, unless it is empty.  Behind these lines
the reads go on below the script.  Each line is decided by its own piece, so bytes that are
not well formed affect no line but theirs.  Where the bytes are those of a text, the lines
are those that the text gives in memory, which are cut from its characters in the same way.
-/
theorem bytes_and_text_are_split_alike
    (stack : InputStack)
    (room : stack.depth < stackLimit)
    (name : String) :
    (∀ bytes, ∃ pieces last, Lines.CutAt Lines.lineFeedByte bytes pieces last) ∧
      (∀ bytes pieces last,
        Lines.CutAt Lines.lineFeedByte bytes pieces last →
          stack.HandsOut name bytes (Lines.decoded pieces last)) ∧
      (∀ pieces last otherPieces otherLast,
        pieces.length = otherPieces.length →
          ∀ index : Nat, (pieces ++ [last])[index]? = (otherPieces ++ [otherLast])[index]? →
            (Lines.decoded pieces last)[index]? =
              (Lines.decoded otherPieces otherLast)[index]?) ∧
      ∀ text : String,
        stack.HandsOut name text.toUTF8.data.toList (Lines.ofText text) ∧
          (∃ after,
            InputStack.Gives ⟨[], .terminal (Lines.ofText text) none⟩ (Lines.ofText text) after ∧
              after.readLine = (.ok none, after)) ∧
          ∀ pieces last,
            Lines.CutAt '\n' text.toList pieces last →
              Lines.ofText text = (Lines.ofPieces '\r' pieces last).map String.ofList := by
  refine ⟨Lines.exists_cutAt _, ?_, ?_, ?_⟩
  · intro bytes pieces last cut
    rw [← cut.ofBytes_eq]
    exact InputStack.handsOut_ofBytes room name bytes
  · intro pieces last otherPieces otherLast sameNumber index samePiece
    rw [Lines.decoded, Lines.decoded, List.getElem?_map, List.getElem?_map,
      Lines.getElem?_ofPieces_congr sameNumber samePiece]
  · intro text
    have gives :=
      InputStack.gives_pending (fun terminal => ⟨[], terminal⟩) (fun _ _ _ _ _ => rfl)
        (.terminal (Lines.ofText text) none)
    refine ⟨?_, ⟨_, gives, rfl⟩, fun _ _ cut => cut.ofText_eq⟩
    rw [← Lines.ofBytes_toUTF8]
    exact InputStack.handsOut_ofBytes room name _

/-- A line that is not well formed stands between two that are read as if it did not; the carriage
return of the last line, behind which there is no line feed, stays.  A text with a character of two
bytes is read from its bytes as it is. -/
theorem bytes_and_text_are_split_alike_of_broken_line :
    let stack : InputStack := ⟨[], .terminal ["t"] none⟩
    stack.depth < stackLimit ∧
      stack.HandsOut "s" [97, 13, 10, 0xFF, 10, 98, 13] ["a", "\uFFFD", "b\x0d"] ∧
      stack.HandsOut "s" "é\x0d\n\nb".toUTF8.data.toList ["é", "", "b"] := by
  intro stack
  have room : stack.depth < stackLimit := by decide
  rcases bytes_and_text_are_split_alike stack room "s" with ⟨_, ofBytes, _, ofText⟩
  refine ⟨room, ?_, (ofText "é\x0d\n\nb").1⟩
  exact ofBytes _ [[97, 13], [0xFF]] [98, 13] ⟨rfl, by decide, by decide⟩

end AsmShell
