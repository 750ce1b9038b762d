import AsmShell.Bindings

/-!
# Tables of variables as ordered maps

Defining and removing a name change what is found under this name and under no other.
A table whose names strictly increase stays one, so it lists every name once, and what
it lists under a name is what is found there.
-/

namespace AsmShell.Bindings

/-! ## What is found -/

theorem find?_cons
    (entry : String × Value)
    (rest : List (String × Value))
    (name : String) :
    find? ⟨entry :: rest⟩ name = if entry.1 = name then some entry.2 else find? ⟨rest⟩ name := by
  by_cases same : entry.1 = name
  · simp [find?, same]
  · simp [find?, same]

theorem find?_insertEntry
    (name other : String)
    (value : Value)
    (entries : List (String × Value)) :
    find? ⟨insertEntry name value entries⟩ other =
      if name = other then some value else find? ⟨entries⟩ other := by
  induction entries with
  | nil =>
      rw [insertEntry, find?_cons]
  | cons entry rest restHypothesis =>
      rw [insertEntry]
      split
      · -- The entry of the name is replaced.
        rename_i same
        rw [find?_cons, find?_cons, same]
        by_cases isName : name = other
        · rw [if_pos isName, if_pos isName]
        · rw [if_neg isName, if_neg isName, if_neg isName]
      · split
        · rw [find?_cons]
        · rename_i different _
          rw [find?_cons, find?_cons, restHypothesis]
          by_cases isEntry : entry.1 = other
          · rw [if_pos isEntry, if_pos isEntry, if_neg (isEntry ▸ Ne.symm different)]
          · rw [if_neg isEntry, if_neg isEntry]

/-- Defining a name gives it the value and leaves all other names as they were. -/
theorem find?_define
    (bindings : Bindings)
    (name other : String)
    (value : Value) :
    (bindings.define name value).2.find? other =
      if name = other then some value else bindings.find? other :=
  find?_insertEntry name other value bindings.entries

/-- Removing a name leaves all other names as they were. -/
theorem find?_remove
    (bindings : Bindings)
    (name other : String) :
    (bindings.remove name).2.find? other =
      if name = other then none else bindings.find? other := by
  rcases bindings with ⟨entries⟩
  show find? ⟨entries.filter fun entry => entry.1 != name⟩ other = _
  induction entries with
  | nil =>
      simp [find?]
  | cons entry rest restHypothesis =>
      by_cases removed : entry.1 = name
      · rw [List.filter_cons_of_neg (by simp [removed]), restHypothesis, find?_cons, removed]
        by_cases isName : name = other
        · rw [if_pos isName, if_pos isName]
        · rw [if_neg isName, if_neg isName, if_neg isName]
      · rw [List.filter_cons_of_pos (by simp [removed]), find?_cons, find?_cons, restHypothesis]
        by_cases isEntry : entry.1 = other
        · rw [if_pos isEntry, if_pos isEntry, if_neg (isEntry ▸ Ne.symm removed)]
        · rw [if_neg isEntry, if_neg isEntry]

/-! ## Order -/

/-- The names of the table strictly increase. -/
def Ordered (bindings : Bindings) : Prop :=
  bindings.entries.Pairwise fun earlier later => earlier.1 < later.1

theorem mem_insertEntry
    {name : String}
    {value : Value}
    {entries : List (String × Value)}
    {entry : String × Value}
    (member : entry ∈ insertEntry name value entries) :
    entry = (name, value) ∨ entry ∈ entries := by
  induction entries with
  | nil =>
      exact Or.inl (List.mem_singleton.1 member)
  | cons first rest restHypothesis =>
      rw [insertEntry] at member
      split at member
      · rcases List.mem_cons.1 member with isNew | inRest
        · exact Or.inl isNew
        · exact Or.inr (List.mem_cons_of_mem _ inRest)
      · split at member
        · exact List.mem_cons.1 member
        · rcases List.mem_cons.1 member with isFirst | inserted
          · exact Or.inr (isFirst ▸ List.mem_cons_self)
          · exact (restHypothesis inserted).imp_right (List.mem_cons_of_mem _)

theorem Ordered.define
    {bindings : Bindings}
    (ordered : bindings.Ordered)
    (name : String)
    (value : Value) :
    (bindings.define name value).2.Ordered := by
  rcases bindings with ⟨entries⟩
  show (insertEntry name value entries).Pairwise _
  replace ordered : entries.Pairwise fun earlier later => earlier.1 < later.1 := ordered
  induction entries with
  | nil =>
      exact List.pairwise_singleton _ _
  | cons entry rest restHypothesis =>
      rcases List.pairwise_cons.1 ordered with ⟨below, restOrdered⟩
      rw [insertEntry]
      split
      · rename_i same
        rw [same] at below
        exact List.pairwise_cons.2 ⟨below, restOrdered⟩
      · split
        · rename_i before
          refine List.pairwise_cons.2 ⟨?_, ordered⟩
          intro other member
          rcases List.mem_cons.1 member with rfl | inRest
          · exact before
          · exact String.lt_trans before (below other inRest)
        · rename_i different notBefore
          have behind : entry.1 < name := by
            apply Decidable.by_contra
            intro notBehind
            exact different (String.le_antisymm (String.not_lt.1 notBefore)
              (String.not_lt.1 notBehind))
          refine List.pairwise_cons.2 ⟨?_, restHypothesis restOrdered⟩
          intro other member
          rcases mem_insertEntry member with rfl | inRest
          · exact behind
          · exact below other inRest

theorem Ordered.remove
    {bindings : Bindings}
    (ordered : bindings.Ordered)
    (name : String) :
    (bindings.remove name).2.Ordered :=
  ordered.filter _

/-- What an ordered table lists under a name is what is found there. -/
theorem Ordered.find?_of_mem
    {bindings : Bindings}
    (ordered : bindings.Ordered)
    {entry : String × Value}
    (member : entry ∈ bindings.entries) :
    bindings.find? entry.1 = some entry.2 := by
  rcases bindings with ⟨entries⟩
  replace ordered : entries.Pairwise fun earlier later => earlier.1 < later.1 := ordered
  replace member : entry ∈ entries := member
  induction entries with
  | nil =>
      cases member
  | cons first rest restHypothesis =>
      rcases List.pairwise_cons.1 ordered with ⟨below, restOrdered⟩
      rw [find?_cons]
      rcases List.mem_cons.1 member with rfl | inRest
      · rw [if_pos rfl]
      · have different : first.1 ≠ entry.1 := by
          intro same
          have before := below entry inRest
          rw [same] at before
          exact String.lt_irrefl _ before
        rw [if_neg different]
        exact restHypothesis restOrdered inRest

end AsmShell.Bindings
