import AsmShell.Value.Basic

/-!
# Tables of variables

A table holds at most one value for a name.  Its entries are kept in the order
of the names, which is the order they are listed in: names are compared
character by character, hence also as their bytes are.
-/

namespace AsmShell

/-- A table of variables, with its entries in increasing order of the names. -/
structure Bindings where
  entries : List (String × Value) := []
deriving Inhabited

namespace Bindings

/-- Put a value under a name, in its place among the other names. -/
def insertEntry (name : String) (value : Value) :
    List (String × Value) → List (String × Value)
  | [] => [(name, value)]
  | entry :: rest =>
      if entry.1 = name then (name, value) :: rest
      else if name < entry.1 then (name, value) :: entry :: rest
      else entry :: insertEntry name value rest

/-- The value of a name. -/
def find? (bindings : Bindings) (name : String) : Option Value :=
  (bindings.entries.find? fun entry => entry.1 == name).map (·.2)

/-- Give a name a value; also the value it had before. -/
def define (bindings : Bindings) (name : String) (value : Value) : Option Value × Bindings :=
  (bindings.find? name, ⟨insertEntry name value bindings.entries⟩)

/-- Take a name out of the table; also the value it had before. -/
def remove (bindings : Bindings) (name : String) : Option Value × Bindings :=
  (bindings.find? name, ⟨bindings.entries.filter fun entry => entry.1 != name⟩)

/-- The number of names that have a value. -/
def size (bindings : Bindings) : Nat :=
  bindings.entries.length

/-- Whether no name has a value. -/
def isEmpty (bindings : Bindings) : Bool :=
  bindings.entries.isEmpty

end Bindings

end AsmShell
