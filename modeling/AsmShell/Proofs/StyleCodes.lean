import AsmShell.Proofs.DiagnosticPlaces
import AsmShell.Program.Shell

/-!
# Deleting the codes of styles

The sequence of a style begins with an escape and a bracket and ends with the letter m.
Such codes are told from a text only by the escape: a text that ends with the beginning
of a code would swallow what follows it.  So a text without an escape comes back when
the codes of its styles are deleted, whatever follows (`Strips`).  This is kept when
texts are joined, and all that is shown is joined from such pieces.

What is shown in styles is also written without them, with separators and padding of
its own; without codes the two are the same text.
-/

namespace AsmShell

namespace Text

namespace Style

/-! ## Deleting codes -/

/-- A character that may stand between the bracket of a code and its end. -/
def isParameter (character : Char) : Bool :=
  isDigit character || character == ';'

/-- The number of characters of the code that a text begins with, or zero. -/
def codeLength : List Char → Nat
  | '\x1b' :: '[' :: rest =>
      let parameters := rest.takeWhile isParameter
      if (rest.drop parameters.length).head? = some 'm' then parameters.length + 3 else 0
  | _ => 0

/-- The text without its codes, of which the first `covered` characters belong to a code that was
already found. -/
def withoutCodesFrom (covered : Nat) : List Char → List Char
  | [] => []
  | character :: rest =>
      match covered with
      | stillCovered + 1 => withoutCodesFrom stillCovered rest
      | 0 =>
          match codeLength (character :: rest) with
          | 0 => character :: withoutCodesFrom 0 rest
          | others + 1 => withoutCodesFrom others rest

/-- The text without its codes. -/
def withoutCodes (text : List Char) : List Char :=
  withoutCodesFrom 0 text

/-- No sequence begins with another character than an escape. -/
theorem codeLength_of_ne
    {first : Char}
    (plain : first ≠ escape)
    (rest : List Char) :
    codeLength (first :: rest) = 0 := by
  unfold codeLength
  split
  · rename_i same
    exact absurd (List.cons.inj same).1 plain
  · rfl

/-- A whole sequence is its opening, its parameters and its end. -/
theorem codeLength_code
    {parameters : List Char}
    (areParameters : ∀ parameter ∈ parameters, isParameter parameter = true)
    (back : List Char) :
    codeLength (escape :: '[' :: (parameters ++ 'm' :: back)) = parameters.length + 3 := by
  have taken : (parameters ++ 'm' :: back).takeWhile isParameter = parameters := by
    rw [List.takeWhile_append_of_pos areParameters, List.takeWhile_cons_of_neg (by decide),
      List.append_nil]
  simp only [codeLength, escape, taken, List.drop_left, List.head?_cons, if_true]

/-- Characters of a sequence are left out. -/
theorem withoutCodesFrom_covered
    (front back : List Char) :
    withoutCodesFrom front.length (front ++ back) = withoutCodes back := by
  induction front with
  | nil => rfl
  | cons character front frontHypothesis => exact frontHypothesis

/-- A text without an escape stays. -/
theorem withoutCodes_append_of_free
    {front : List Char}
    (free : escape ∉ front)
    (back : List Char) :
    withoutCodes (front ++ back) = front ++ withoutCodes back := by
  induction front with
  | nil => rfl
  | cons character front frontHypothesis =>
      have plain : character ≠ escape := Ne.symm (List.ne_of_not_mem_cons free)
      have others := frontHypothesis (List.not_mem_of_not_mem_cons free)
      rw [List.cons_append, withoutCodes, withoutCodesFrom, codeLength_of_ne plain]
      exact congrArg (character :: ·) others

/-- A code goes. -/
theorem withoutCodes_code
    {parameters : List Char}
    (areParameters : ∀ parameter ∈ parameters, isParameter parameter = true)
    (back : List Char) :
    withoutCodes (escape :: '[' :: (parameters ++ ['m']) ++ back) = withoutCodes back := by
  have covered := withoutCodesFrom_covered ('[' :: (parameters ++ ['m'])) back
  simp only [List.length_cons, List.length_append, List.length_nil, List.cons_append,
    List.append_assoc, List.nil_append] at covered ⊢
  rw [withoutCodes, withoutCodesFrom, codeLength_code areParameters]
  exact covered

/-! ## Texts of which only the codes are deleted -/

/-- There is no escape in the plain text, and it is left when the codes of the styled one are
deleted, whatever follows. -/
structure Strips (styled plain : List Char) : Prop where
  free : escape ∉ plain
  deleted : ∀ back, withoutCodes (styled ++ back) = plain ++ withoutCodes back

/-- A text without escapes has no sequence to strip. -/
theorem Strips.of_free
    {text : List Char}
    (free : escape ∉ text) :
    Strips text text :=
  ⟨free, withoutCodes_append_of_free free⟩

/-- Sequences are stripped from texts one behind the other, as none is cut in two. -/
theorem Strips.append
    {first firstPlain second secondPlain : List Char}
    (firstStrips : Strips first firstPlain)
    (secondStrips : Strips second secondPlain) :
    Strips (first ++ second) (firstPlain ++ secondPlain) := by
  refine ⟨?_, fun back => ?_⟩
  · rw [List.mem_append, not_or]
    exact ⟨firstStrips.free, secondStrips.free⟩
  · rw [List.append_assoc, firstStrips.deleted, secondStrips.deleted, List.append_assoc]

theorem Strips.flatMap
    {Item : Type}
    {items : List Item}
    {styled plain : Item → List Char}
    (each : ∀ item ∈ items, Strips (styled item) (plain item)) :
    Strips (items.flatMap styled) (items.flatMap plain) := by
  induction items with
  | nil => exact .of_free List.not_mem_nil
  | cons item others othersHypothesis =>
      rcases List.forall_mem_cons.1 each with ⟨itemStrips, othersStrip⟩
      rw [List.flatMap_cons, List.flatMap_cons]
      exact itemStrips.append (othersHypothesis othersStrip)

/-- The codes are all that is deleted. -/
theorem Strips.withoutCodes_eq
    {styled plain : List Char}
    (strips : Strips styled plain) :
    withoutCodes styled = plain := by
  have whole := strips.deleted []
  rwa [List.append_nil, show withoutCodes [] = [] from rfl, List.append_nil] at whole

theorem strips_code
    (parameters : List Char)
    (areParameters : ∀ parameter ∈ parameters, isParameter parameter = true) :
    Strips (escape :: '[' :: (parameters ++ ['m'])) [] :=
  ⟨List.not_mem_nil, withoutCodes_code areParameters⟩

/-- A style is opened by a sequence. -/
theorem strips_opening
    (style : Style) :
    Strips style.opening [] := by
  apply strips_code
  apply List.all_eq_true.1
  rcases style with ⟨_ | _, _ | color⟩
  · decide
  · cases color <;> decide
  · decide
  · cases color <;> decide

theorem strips_reset :
    Strips reset [] :=
  strips_code ['0'] (List.all_eq_true.1 (by decide))

/-- Where no style ends inside a text, none begins again. -/
theorem resumed_of_free
    {text : List Char}
    (free : escape ∉ text)
    (opening : List Char) :
    resumed opening text = text := by
  induction text with
  | nil => rfl
  | cons character rest restHypothesis =>
      rw [resumed, restHypothesis (List.not_mem_of_not_mem_cons free)]
      rintro _ rfl _
      exact absurd List.mem_cons_self free

end Style

/-! ## Styled texts -/

/-- There is no escape in the text. -/
def EscapeFree (text : String) : Prop :=
  Style.escape ∉ text.toList

theorem EscapeFree.ofList
    {characters : List Char}
    (free : Style.escape ∉ characters) :
    EscapeFree (String.ofList characters) := by
  rw [EscapeFree, String.toList_ofList]
  exact free

theorem EscapeFree.append
    {front back : String}
    (frontFree : EscapeFree front)
    (backFree : EscapeFree back) :
    EscapeFree (front ++ back) := by
  rw [EscapeFree, String.toList_append, List.mem_append, not_or]
  exact ⟨frontFree, backFree⟩

/-- There is no escape in what the styled text says. -/
def Styled.EscapeFree (styled : Styled) : Prop :=
  ∀ segment ∈ styled, Text.EscapeFree segment.text

/-- A plain line has no styles. -/
theorem Styled.escapeFree_plain
    {text : String}
    (free : Text.EscapeFree text) :
    (Styled.plain text).EscapeFree := by
  intro segment member
  rw [List.mem_singleton.1 member]
  exact free

/-- What is stripped of a segment with a style is the style. -/
theorem Segment.strips_render
    {segment : Segment}
    (free : EscapeFree segment.text) :
    Style.Strips (segment.render true) (segment.render false) := by
  rw [render, render]
  cases segment.style with
  | none => exact .of_free free
  | some style =>
      have styled :=
        ((Style.strips_opening style).append (.of_free free)).append Style.strips_reset
      rw [List.nil_append, List.append_nil] at styled
      simp only [if_true, Style.resumed_of_free free]
      exact styled

/-- Of a styled text the codes are all that is deleted. -/
theorem Styled.EscapeFree.strips_render
    {styled : Styled}
    (free : styled.EscapeFree) :
    Style.Strips (styled.render true).toList (styled.render false).toList := by
  rw [toList_render, toList_render]
  exact .flatMap fun segment member => Segment.strips_render (free segment member)

end Text

open Text

/-! ## What is written without styles -/

theorem Builtin.render_usageLine_false
    (useColor : Bool)
    (usage : String × String) :
    (usageLine useColor usage).render false = (usageLine false usage).render false := by
  cases useColor with
  | false => rfl
  | true =>
      apply String.toList_injective
      simp [usageLine, Styled.plain, Styled.toList_render, Segment.render]

theorem Program.render_banner_false
    (useColor : Bool)
    (target : Target) :
    (banner useColor target).render false = (banner false target).render false := by
  cases useColor with
  | false => rfl
  | true =>
      apply String.toList_injective
      simp [banner, Styled.plain, Styled.toList_render, Segment.render]

end AsmShell
