/-!
# Styled text

Text for a terminal is a list of segments, some of which are to be shown in a
style.  Where the terminal takes colors, a styled segment stands between the
sequence that begins its style and the sequence that ends every style; a
sequence of the latter kind inside the segment is followed by the style again.
Otherwise the segments are written as they are.
-/

namespace AsmShell.Text

/-- A color of the letters. -/
inductive Color where
  | brightRed
  | brightGreen
  | brightYellow
  | brightCyan
deriving DecidableEq, Inhabited, Repr

/-- The number of the color in a style sequence. -/
def Color.code : Color → String
  | .brightRed => "91"
  | .brightGreen => "92"
  | .brightYellow => "93"
  | .brightCyan => "96"

/-- How a segment is shown. -/
structure Style where
  bold : Bool
  color : Option Color
deriving DecidableEq, Inhabited, Repr

namespace Style

/-- The numbers of the style, the weight first. -/
def codes (style : Style) : List String :=
  (if style.bold then ["1"] else []) ++ (style.color.map Color.code).toList

/-- The character with which every sequence begins. -/
def escape : Char :=
  '\x1b'

/-- The sequence that begins the style. -/
def opening (style : Style) : List Char :=
  escape :: '[' :: (";".intercalate style.codes).toList ++ ['m']

/-- The sequence that ends every style. -/
def reset : List Char :=
  [escape, '[', '0', 'm']

/-- Begin the style again behind every sequence that ends it. -/
def resumed (opening : List Char) : List Char → List Char
  | '\x1b' :: '[' :: '0' :: 'm' :: rest => reset ++ opening ++ resumed opening rest
  | character :: rest => character :: resumed opening rest
  | [] => []

end Style

/-- A piece of text and the style it is shown in, where that is not the usual one. -/
structure Segment where
  text : String
  style : Option Style := none
deriving DecidableEq, Inhabited, Repr

/-- The characters of the segment, with the sequences of its style where it is `colored`. -/
def Segment.render (colored : Bool) (segment : Segment) : List Char :=
  match segment.style with
  | some style =>
      if colored then
        style.opening ++ Style.resumed style.opening segment.text.toList ++ Style.reset
      else segment.text.toList
  | none => segment.text.toList

/-- A text of which some segments are shown in a style. -/
abbrev Styled : Type :=
  List Segment

namespace Styled

/-- A text without any style. -/
def plain (text : String) : Styled :=
  [{ text := text }]

/-- The characters of the text, with the sequences of its styles where it is `colored`. -/
def render (colored : Bool) (styled : Styled) : String :=
  String.ofList (styled.flatMap (Segment.render colored))

@[simp]
theorem render_plain
    (colored : Bool)
    (text : String) :
    (plain text).render colored = text := by
  simp [plain, render, Segment.render]

end Styled

end AsmShell.Text
