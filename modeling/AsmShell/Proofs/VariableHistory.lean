import AsmShell.Proofs.ByteOrder
import AsmShell.Proofs.OrderedTables
import Mathlib.Data.Set.Card
import Mathlib.Logic.Relation

/-!
# Tables of variables and their histories

A table that was empty at first is told by the changes made to it: a name has the value
it was given last, unless it was removed since.  The table stays ordered, and an ordered
table is told by what is found in it, because it lists each name once with its value, in
the order of the bytes of the names.  So changes of different names may be made in any
order.
-/

namespace AsmShell.Bindings

/-! ## Changes -/

/-- A change of a table. -/
inductive Change where
  | define (name : String) (value : Value)
  | remove (name : String)

/-- The name that is changed. -/
def Change.name : Change → String
  | .define name _ => name
  | .remove name => name

/-- The value that a change leaves under its name. -/
def Change.value? : Change → Option Value
  | .define _ value => some value
  | .remove _ => none

/-- Make a change; also what it answers. -/
def change (bindings : Bindings) : Change → Option Value × Bindings
  | .define name value => bindings.define name value
  | .remove name => bindings.remove name

/-- Make changes one after the other; also what they answer. -/
def changeAll (bindings : Bindings) : List Change → List (Option Value) × Bindings
  | [] => ([], bindings)
  | change :: changes =>
      let (answer, changed) := bindings.change change
      let (answers, final) := changed.changeAll changes
      (answer :: answers, final)

theorem find?_change
    (bindings : Bindings)
    (change : Change)
    (name : String) :
    (bindings.change change).2.find? name =
      if change.name = name then change.value? else bindings.find? name := by
  cases change with
  | define changed value => exact find?_define bindings changed name value
  | remove changed => exact find?_remove bindings changed name

theorem Ordered.change
    {bindings : Bindings}
    (ordered : bindings.Ordered)
    (change : Change) :
    (bindings.change change).2.Ordered := by
  cases change with
  | define name value => exact ordered.define name value
  | remove name => exact ordered.remove name

theorem changeAll_append
    (bindings : Bindings)
    (earlier later : List Change) :
    bindings.changeAll (earlier ++ later) =
      ((bindings.changeAll earlier).1 ++ ((bindings.changeAll earlier).2.changeAll later).1,
        ((bindings.changeAll earlier).2.changeAll later).2) := by
  induction earlier generalizing bindings with
  | nil =>
      rfl
  | cons change earlier earlierHypothesis =>
      simp only [List.cons_append, changeAll, earlierHypothesis]

theorem length_changeAll
    (bindings : Bindings)
    (changes : List Change) :
    (bindings.changeAll changes).1.length = changes.length := by
  induction changes generalizing bindings with
  | nil =>
      rfl
  | cons change changes changesHypothesis =>
      simp only [changeAll, List.length_cons, changesHypothesis]

theorem Ordered.changeAll
    {bindings : Bindings}
    (ordered : bindings.Ordered)
    (changes : List Change) :
    (bindings.changeAll changes).2.Ordered := by
  induction changes generalizing bindings with
  | nil =>
      exact ordered
  | cons change changes changesHypothesis =>
      exact changesHypothesis (ordered.change change)

/-- The table that changes make of an empty one. -/
def ofChanges (changes : List Change) : Bindings :=
  (({} : Bindings).changeAll changes).2

theorem ofChanges_concat
    (changes : List Change)
    (last : Change) :
    ofChanges (changes ++ [last]) = ((ofChanges changes).change last).2 := by
  rw [ofChanges, changeAll_append]
  rfl

theorem ordered_empty :
    ({} : Bindings).Ordered :=
  List.Pairwise.nil

theorem ordered_ofChanges
    (changes : List Change) :
    (ofChanges changes).Ordered :=
  ordered_empty.changeAll changes

/-! ## The history of a name -/

/-- The last change of the name gave it the value. -/
def LastDefined (changes : List Change) (name : String) (value : Value) : Prop :=
  ∃ earlier later,
    changes = earlier ++ .define name value :: later ∧ ∀ change ∈ later, change.name ≠ name

theorem lastDefined_concat_iff
    (changes : List Change)
    (last : Change)
    (name : String)
    (value : Value) :
    LastDefined (changes ++ [last]) name value ↔
      if last.name = name then last.value? = some value else LastDefined changes name value := by
  constructor
  · rintro ⟨earlier, later, parts, undisturbed⟩
    rcases List.eq_nil_or_concat later with rfl | ⟨between, other, rfl⟩
    · rcases List.append_inj' parts rfl with ⟨_, same⟩
      rw [List.singleton_inj] at same
      rw [same]
      exact if_pos rfl ▸ rfl
    · rw [List.concat_eq_append] at parts undisturbed
      rw [← List.cons_append, ← List.append_assoc] at parts
      rcases List.append_inj' parts rfl with ⟨rfl, same⟩
      rw [List.singleton_inj] at same
      subst same
      rw [if_neg (undisturbed last (by simp))]
      exact ⟨earlier, between, rfl, fun change member =>
        undisturbed change (List.mem_append_left _ member)⟩
  · intro told
    by_cases same : last.name = name
    · rw [if_pos same] at told
      cases last with
      | remove removed =>
          cases told
      | define defined given =>
          cases same
          cases told
          exact ⟨changes, [], rfl, List.forall_mem_nil _⟩
    · rw [if_neg same] at told
      rcases told with ⟨earlier, later, rfl, undisturbed⟩
      refine ⟨earlier, later ++ [last], by simp, ?_⟩
      exact List.forall_mem_append.2 ⟨undisturbed, List.forall_mem_singleton.2 same⟩

/-- A name has the value that it was given last, unless it was removed since. -/
theorem find?_ofChanges_eq_some_iff
    (changes : List Change)
    (name : String)
    (value : Value) :
    (ofChanges changes).find? name = some value ↔ LastDefined changes name value := by
  induction changes using List.reverseRecOn with
  | nil =>
      simp [ofChanges, changeAll, find?, LastDefined]
  | append_singleton changes last changesHypothesis =>
      rw [ofChanges_concat, lastDefined_concat_iff, find?_change]
      split
      · exact Iff.rfl
      · exact changesHypothesis

/-! ## What a table lists -/

section Listing

variable {bindings : Bindings}

/-- An ordered table lists exactly what is found in it. -/
theorem Ordered.mem_entries_iff
    (ordered : bindings.Ordered)
    (name : String)
    (value : Value) :
    (name, value) ∈ bindings.entries ↔ bindings.find? name = some value := by
  constructor
  · exact ordered.find?_of_mem
  · intro found
    rcases Option.map_eq_some_iff.1 found with ⟨entry, isEntry, rfl⟩
    have named : entry.1 = name := by
      simpa using List.find?_some isEntry
    exact named ▸ List.mem_of_find?_eq_some isEntry

theorem Ordered.nodup
    (ordered : bindings.Ordered) :
    (bindings.entries.map Prod.fst).Nodup := by
  refine List.pairwise_map.2 (ordered.imp ?_)
  intro earlier later before same
  exact String.lt_irrefl _ (same ▸ before)

/-- An ordered table lists as many names as have a value. -/
theorem Ordered.encard_names
    (ordered : bindings.Ordered) :
    Set.encard {name | (bindings.find? name).isSome} = bindings.size := by
  have listed :
      {name | (bindings.find? name).isSome} =
        ((bindings.entries.map Prod.fst).toFinset : Set String) := by
    ext name
    simp only [Set.mem_ofPred_eq, Option.isSome_iff_exists, ← ordered.mem_entries_iff,
      List.coe_toFinset, List.mem_map, Prod.exists, exists_and_right, exists_eq_right]
  rw [listed, Set.encard_coe_eq_coe_finsetCard, List.toFinset_card_of_nodup ordered.nodup,
    List.length_map]
  rfl

/-- An ordered table is told by what is found in it. -/
theorem Ordered.eq_of_find?_eq
    {other : Bindings}
    (ordered : bindings.Ordered)
    (otherOrdered : other.Ordered)
    (same : ∀ name, bindings.find? name = other.find? name) :
    bindings = other := by
  have sameMembers (entry : String × Value) :
      entry ∈ bindings.entries ↔ entry ∈ other.entries := by
    rw [ordered.mem_entries_iff, otherOrdered.mem_entries_iff, same]
  have permuted : bindings.entries.Perm other.entries :=
    (List.perm_ext_iff_of_nodup ordered.nodup.of_map otherOrdered.nodup.of_map).2 sameMembers
  have entries_eq : bindings.entries = other.entries := by
    refine permuted.eq_of_pairwise ?_ ordered otherOrdered
    intro first second _ _ before behind
    exact absurd (String.lt_trans before behind) (String.lt_irrefl _)
  cases bindings
  cases other
  exact congrArg Bindings.mk entries_eq

/-- The first entry does not come behind the second in the order of the bytes of their names. -/
def notBehind (first second : String × Value) : Bool :=
  decide (first.1.toUTF8.data.toList ≤ second.1.toUTF8.data.toList)

theorem notBehind_iff
    (first second : String × Value) :
    notBehind first second = true ↔ first.1 ≤ second.1 := by
  rw [notBehind, decide_eq_true_iff, Text.Utf8.toUTF8_le_toUTF8_iff]

/-- Whatever the order in which the entries are found, sorting them gives the list. -/
theorem Ordered.mergeSort_eq
    (ordered : bindings.Ordered)
    {found : List (String × Value)}
    (permuted : found.Perm bindings.entries) :
    found.mergeSort notBehind = bindings.entries := by
  have sorted : (found.mergeSort notBehind).Pairwise (fun first second => first.1 ≤ second.1) := by
    refine (List.pairwise_mergeSort ?_ ?_ found).imp (notBehind_iff _ _).1
    · intro first second third
      simp only [notBehind_iff]
      exact String.le_trans
    · intro first second
      simp only [Bool.or_eq_true, notBehind_iff]
      exact String.le_total _ _
  refine ((List.mergeSort_perm found notBehind).trans permuted).eq_of_pairwise ?_ sorted
    (ordered.imp fun before => String.not_lt.1 (String.lt_asymm before))
  rintro first second firstMember secondMember before behind
  have firstFound := ordered.find?_of_mem
    (permuted.subset ((List.mergeSort_perm found notBehind).subset firstMember))
  have secondFound := ordered.find?_of_mem secondMember
  have sameName := String.le_antisymm before behind
  rw [sameName, secondFound, Option.some.injEq] at firstFound
  exact Prod.ext sameName firstFound.symm

end Listing

/-! ## The order of changes -/

/-- Two changes of different names that follow one another are exchanged. -/
inductive Exchanged : List Change → List Change → Prop where
  | swap (front : List Change) {first second : Change} (back : List Change) :
      first.name ≠ second.name →
      Exchanged (front ++ first :: second :: back) (front ++ second :: first :: back)

/-- Changes of different names may be made in any order. -/
theorem Ordered.change_comm
    {bindings : Bindings}
    (ordered : bindings.Ordered)
    {first second : Change}
    (different : first.name ≠ second.name) :
    ((bindings.change first).2.change second).2 =
      ((bindings.change second).2.change first).2 := by
  refine ((ordered.change first).change second).eq_of_find?_eq
    ((ordered.change second).change first) fun name => ?_
  rw [find?_change, find?_change, find?_change, find?_change]
  by_cases isFirst : first.name = name
  · rw [if_pos isFirst, if_neg (isFirst ▸ different.symm), if_pos isFirst]
  · rw [if_neg isFirst, if_neg isFirst]

theorem ofChanges_eq_of_exchanged
    {changes others : List Change}
    (exchanged : Exchanged changes others) :
    ofChanges changes = ofChanges others := by
  rcases exchanged with ⟨front, back, different⟩
  rw [ofChanges, ofChanges, changeAll_append, changeAll_append]
  exact congrArg (fun table => (table.changeAll back).2)
    ((ordered_ofChanges front).change_comm different)

/--
After any changes of an empty table, a name has the value it was given last, unless it was
removed since, and every change has answered the value its name had just before it.  The
size of the table is the number of names with a value.  The table lists exactly these names
with their values, strictly increasing in the order of their bytes, so each of them once;
this is what sorting the entries gives, in whatever order they are found.  Changes that
differ only by exchanges of neighbours with different names lead to the same list.
-/
theorem tables_follow_their_history
    (changes : List Change) :
    (∀ name value,
      (ofChanges changes).find? name = some value ↔
        ∃ earlier later,
          changes = earlier ++ .define name value :: later ∧
            ∀ change ∈ later, change.name ≠ name) ∧
      (({} : Bindings).changeAll changes).1.length = changes.length ∧
      (∀ earlier change later,
        changes = earlier ++ change :: later →
        (({} : Bindings).changeAll changes).1[earlier.length]? =
          some ((ofChanges earlier).find? change.name)) ∧
      Set.encard {name | ((ofChanges changes).find? name).isSome} = (ofChanges changes).size ∧
      (∀ name value,
        (name, value) ∈ (ofChanges changes).entries ↔
          (ofChanges changes).find? name = some value) ∧
      (ofChanges changes).entries.Pairwise
        (fun earlier later => earlier.1.toUTF8.data.toList < later.1.toUTF8.data.toList) ∧
      (∀ found : List (String × Value),
        found.Perm (ofChanges changes).entries →
        found.mergeSort notBehind = (ofChanges changes).entries) ∧
      ∀ others,
        Relation.ReflTransGen Exchanged changes others →
        (ofChanges others).entries = (ofChanges changes).entries := by
  have ordered := ordered_ofChanges changes
  refine ⟨find?_ofChanges_eq_some_iff changes, length_changeAll _ changes, ?_,
    ordered.encard_names, ordered.mem_entries_iff, ?_, fun _ => ordered.mergeSort_eq, ?_⟩
  · rintro earlier change later rfl
    have place := length_changeAll {} earlier
    rw [changeAll_append, List.getElem?_append_right (Nat.le_of_eq place), place, Nat.sub_self]
    cases change <;> rfl
  · exact ordered.imp (Text.Utf8.toUTF8_lt_toUTF8_iff _ _).2
  · intro others exchanged
    induction exchanged with
    | refl =>
        rfl
    | tail _ last sameSoFar =>
        rw [← sameSoFar, ofChanges_eq_of_exchanged last]

end AsmShell.Bindings
