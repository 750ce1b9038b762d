/-!
# Regular patterns and their longest matches

A pattern denotes a set of texts, given by `Pattern.Matches`.  It is run by
derivatives: the derivative of a pattern by a character denotes what may still
follow that character, so a text matches exactly when the pattern left after
all its characters accepts the empty text.  The constructors used while
deriving drop branches that can no longer match, which keeps a pattern that is
run over a long text as small as it was at the start.

A list of labelled patterns is run side by side.  `longestMatch` keeps the last
position at which some pattern accepted, hence finds the longest prefix that
any of them matches, and among patterns that match the same prefix the one
listed first.
-/

namespace AsmShell.Text

/-- A regular set of texts; `Matches` says which texts a pattern denotes. -/
inductive Pattern where
  | never
  | empty
  | oneOf (accepts : Char → Bool)
  | seq (first second : Pattern)
  | alt (left right : Pattern)
  | star (body : Pattern)
deriving Inhabited

namespace Pattern

/-- The texts that a pattern denotes. -/
inductive Matches : Pattern → List Char → Prop where
  | empty : Matches .empty []
  | oneOf {accepts : Char → Bool} {character : Char} :
      accepts character = true → Matches (.oneOf accepts) [character]
  | seq {first second : Pattern} {front back : List Char} :
      Matches first front → Matches second back →
      Matches (.seq first second) (front ++ back)
  | altLeft {left right : Pattern} {text : List Char} :
      Matches left text → Matches (.alt left right) text
  | altRight {left right : Pattern} {text : List Char} :
      Matches right text → Matches (.alt left right) text
  | starNil {body : Pattern} : Matches (.star body) []
  | starCons {body : Pattern} {front back : List Char} :
      Matches body front → Matches (.star body) back →
      Matches (.star body) (front ++ back)

/-- Exactly the given character. -/
def char (wanted : Char) : Pattern :=
  .oneOf (· == wanted)

/-- Exactly the given characters, in order. -/
def literal : List Char → Pattern
  | [] => .empty
  | [character] => char character
  | character :: rest => .seq (char character) (literal rest)

/-- One text of the pattern or more. -/
def plus (body : Pattern) : Pattern :=
  .seq body (.star body)

/-- A text of the pattern, or nothing. -/
def optional (body : Pattern) : Pattern :=
  .alt body .empty

/-- A text of any of the patterns. -/
def anyOf : List Pattern → Pattern
  | [] => .never
  | [pattern] => pattern
  | pattern :: rest => .alt pattern (anyOf rest)

/-- Texts of the patterns, one after the other. -/
def inOrder : List Pattern → Pattern
  | [] => .empty
  | [pattern] => pattern
  | pattern :: rest => .seq pattern (inOrder rest)

/-- Whether the pattern denotes the empty text. -/
def acceptsEmpty : Pattern → Bool
  | .never => false
  | .empty => true
  | .oneOf _ => false
  | .seq first second => first.acceptsEmpty && second.acceptsEmpty
  | .alt left right => left.acceptsEmpty || right.acceptsEmpty
  | .star _ => true

/-- Whether the pattern was reduced to one that plainly denotes nothing. -/
def isNever : Pattern → Bool
  | .never => true
  | _ => false

/-- Denotes what `seq` denotes, reduced where one side decides the result. -/
def joined : Pattern → Pattern → Pattern
  | .never, _ => .never
  | _, .never => .never
  | .empty, second => second
  | first, second => .seq first second

/-- Denotes what `alt` denotes, reduced where one side denotes nothing. -/
def either : Pattern → Pattern → Pattern
  | .never, right => right
  | left, .never => left
  | left, right => .alt left right

/-- Denotes the texts that extend `character` to a text of the pattern. -/
def derivative (character : Char) : Pattern → Pattern
  | .never => .never
  | .empty => .never
  | .oneOf accepts => if accepts character then .empty else .never
  | .seq first second =>
      let through := joined (derivative character first) second
      if first.acceptsEmpty then either through (derivative character second)
      else through
  | .alt left right => either (derivative character left) (derivative character right)
  | .star body => joined (derivative character body) (.star body)

/-- Whether the text is one that the pattern denotes. -/
def accepts (pattern : Pattern) : List Char → Bool
  | [] => pattern.acceptsEmpty
  | character :: rest => (pattern.derivative character).accepts rest

end Pattern

variable {Label : Type}

/-- The labelled patterns that remain possible after one more character. -/
def derivatives (character : Char) (patterns : List (Label × Pattern)) :
    List (Label × Pattern) :=
  (patterns.map fun entry => (entry.1, entry.2.derivative character)).filter
    fun entry => !entry.2.isNever

/-- The label of the first pattern that accepts the empty text. -/
def acceptedLabel (patterns : List (Label × Pattern)) : Option Label :=
  (patterns.find? fun entry => entry.2.acceptsEmpty).map (·.1)

/--
Continue a search for the longest match.  `length` characters were taken so
far, and `best` is the label and the length of the longest match among them.
-/
def longestMatchFrom (patterns : List (Label × Pattern)) (length : Nat)
    (best : Option (Label × Nat)) : List Char → Option (Label × Nat)
  | [] => best
  | character :: rest =>
      match derivatives character patterns with
      | [] => best
      | live =>
          let found := (acceptedLabel live).map fun label => (label, length + 1)
          longestMatchFrom live (length + 1) (found.or best) rest

/--
The label and the length of the longest non-empty prefix of the text that one
of the patterns matches.
-/
def longestMatch (patterns : List (Label × Pattern)) (text : List Char) :
    Option (Label × Nat) :=
  longestMatchFrom patterns 0 none text

end AsmShell.Text
