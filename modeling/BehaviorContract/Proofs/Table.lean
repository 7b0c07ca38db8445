import BehaviorContract.Store.Instance

namespace BehaviorContract

universe u v

namespace Entries

variable {α : Type u}

theorem get?_eq_some_iff {bound : Option String} (entries : Entries α bound)
    {key : String} {value : α} :
    entries.get? key = some value ↔ (key, value) ∈ entries.toList := by
  induction entries with
  | nil => simp [get?]
  | cons first follows held rest induction =>
      rw [get?, toList_cons, List.mem_cons, Prod.mk.injEq]
      by_cases same : first = key
      · subst same
        have once : (first, value) ∉ rest.toList := fun member =>
          String.lt_irrefl first (rest.follows_of_mem _ member)
        simp [once, eq_comm]
      · simp [same, Ne.symm same, induction]

theorem mem_values_iff {bound : Option String} (entries : Entries α bound) {value : α} :
    value ∈ entries.values ↔ ∃ key, entries.get? key = some value := by
  simp [values, get?_eq_some_iff]

theorem mem_keys_iff {bound : Option String} (entries : Entries α bound) {key : String} :
    key ∈ entries.keys ↔ (entries.get? key).isSome := by
  simp [keys, Option.isSome_iff_exists, get?_eq_some_iff]

theorem pairwise_keys {bound : Option String} (entries : Entries α bound) :
    entries.keys.Pairwise (· < ·) :=
  List.pairwise_map.2 entries.pairwise_toList

section Label

variable {bound : Option String} (entries : Entries α bound) (label : α → String)

/-- Where every value bears its key as a label, a search by label is a look-up. -/
theorem find?_values_of_label
    (labelled : ∀ entry ∈ entries.toList, label entry.2 = entry.1) (key : String) :
    entries.values.find? (label · == key) = entries.get? key := by
  unfold values
  induction entries with
  | nil => rfl
  | cons first follows value rest induction =>
      have ofFirst : label value = first := labelled (first, value) (by simp)
      have ofRest := induction fun entry member => labelled entry (by simp [member])
      rw [toList_cons, List.map_cons, get?]
      by_cases same : first = key
      · rw [List.find?_cons_of_pos (by simp [ofFirst, same]), if_pos same]
      · rw [List.find?_cons_of_neg (by simp [ofFirst, same]), if_neg same, ofRest]

theorem countP_values_of_label
    (labelled : ∀ entry ∈ entries.toList, label entry.2 = entry.1) (key : String) :
    entries.values.countP (label · == key) =
      if (entries.get? key).isSome then 1 else 0 := by
  unfold values
  induction entries with
  | nil => rfl
  | cons first follows value rest induction =>
      have ofFirst : label value = first := labelled (first, value) (by simp)
      have ofRest := induction fun entry member => labelled entry (by simp [member])
      rw [toList_cons, List.map_cons, List.countP_cons, ofRest, get?]
      by_cases same : first = key
      · subst same
        have once : rest.get? first = none :=
          rest.get?_of_not_follows (String.lt_irrefl first)
        simp [ofFirst, once]
      · simp [ofFirst, same]

end Label

theorem map_get?_keys {bound : Option String} (entries : Entries α bound) :
    entries.keys.map entries.get? = entries.values.map some := by
  unfold keys values
  rw [List.map_map, List.map_map]
  apply List.map_congr_left
  intro entry member
  exact entries.get?_eq_some_iff.2 member

theorem lt_of_get?_eq_some {bound : String} (entries : Entries α (some bound))
    {key : String} {value : α} (found : entries.get? key = some value) : bound < key :=
  entries.follows_of_mem _ (entries.get?_eq_some_iff.1 found)

/-- What the look-ups find determines the table. -/
theorem ext_get? {bound : Option String} {left right : Entries α bound}
    (same : ∀ key, left.get? key = right.get? key) : left = right := by
  induction left with
  | nil =>
      cases right with
      | nil => rfl
      | cons key follows value rest =>
          have found := same key
          simp [get?] at found
  | cons key follows value rest induction =>
      cases right with
      | nil =>
          have found := same key
          simp [get?] at found
      | cons other otherFollows otherValue otherRest =>
          -- If the first keys differed, each would stand after the other one.
          have sameKey : key = other := by
            apply Classical.byContradiction
            intro different
            have first := same key
            have second := same other
            simp only [get?, if_true, Ne.symm different, different,
              if_false] at first second
            exact String.lt_irrefl key
              (String.lt_trans (rest.lt_of_get?_eq_some second)
                (otherRest.lt_of_get?_eq_some first.symm))
          subst sameKey
          have sameValue : value = otherValue := by
            have found := same key
            simpa [get?] using found
          subst sameValue
          congr 1
          apply induction
          intro later
          by_cases first : key = later
          · subst first
            rw [rest.get?_of_not_follows (String.lt_irrefl key),
              otherRest.get?_of_not_follows (String.lt_irrefl key)]
          · have found := same later
            simpa only [get?, first, if_false] using found

@[simp] theorem get?_map {β : Type v} {bound : Option String} (f : α → β)
    (entries : Entries α bound) (key : String) :
    (entries.map f).get? key = (entries.get? key).map f := by
  induction entries with
  | nil => rfl
  | cons first follows value rest induction =>
      rw [map, get?, get?, induction]
      split
      · rfl
      · rfl

def filter {bound : Option String} (keep : α → Bool) : Entries α bound → Entries α bound
  | .nil => .nil
  | .cons key follows value rest =>
      if keep value then .cons key follows value (rest.filter keep)
      else (rest.filter keep).loosen follows

@[simp] theorem get?_filter {bound : Option String} (keep : α → Bool)
    (entries : Entries α bound) (key : String) :
    (entries.filter keep).get? key = (entries.get? key).filter keep := by
  induction entries with
  | nil => rfl
  | cons first follows value rest induction =>
      have once : rest.get? first = none :=
        rest.get?_of_not_follows (String.lt_irrefl first)
      unfold filter
      split
      · rename_i kept
        by_cases same : first = key
        · simp [get?, same, Option.filter, kept]
        · simp [get?, same, induction]
      · rename_i dropped
        rw [get?_loosen, induction]
        by_cases same : first = key
        · subst same
          simp [get?, once, Option.filter, dropped]
        · simp [get?, same]

theorem toList_eq_of_beqBy {same : α → α → Bool} {leftBound rightBound : Option String}
    {left : Entries α leftBound} {right : Entries α rightBound}
    (equal : left.beqBy same right = true)
    (reflects : ∀ entry ∈ right.toList, ∀ other,
      same other entry.2 = true → other = entry.2) :
    left.toList = right.toList := by
  induction left generalizing rightBound with
  | nil =>
      cases right with
      | nil => rfl
      | cons => cases equal
  | cons key follows value rest induction =>
      cases right with
      | nil => cases equal
      | cons otherKey otherFollows otherValue otherRest =>
          simp only [beqBy, Bool.and_eq_true, beq_iff_eq] at equal
          obtain ⟨⟨sameKey, sameValue⟩, sameRest⟩ := equal
          have first := reflects (otherKey, otherValue) (by simp) value sameValue
          have later := induction sameRest fun entry member =>
            reflects entry (by simp [member])
          rw [toList_cons, toList_cons, later, sameKey, first]

/-- Of entries that are put into a table one after the other, the last one under
a key counts. -/
theorem get?_foldl_insert {bound : Option String} (entries : Entries α bound)
    (table : Table α) (key : String) :
    (entries.toList.foldl (fun table entry => table.insert entry.1 entry.2) table).get?
      key = (entries.get? key).or (table.get? key) := by
  induction entries generalizing table with
  | nil => rfl
  | cons first follows value rest induction =>
      rw [toList_cons, List.foldl_cons, induction, get?_insert, get?]
      split
      · rename_i same
        subst same
        rw [rest.get?_of_not_follows (String.lt_irrefl first)]
        rfl
      · rfl

theorem mem_of_mem_foldl_insert {list : List (String × α)} {table : Table α}
    {entry : String × α} (mem : entry ∈
      (list.foldl (fun table entry => table.insert entry.1 entry.2) table).toList) :
    entry ∈ list ∨ entry ∈ table.toList := by
  induction list generalizing table with
  | nil => exact .inr mem
  | cons first rest induction =>
      rcases induction mem with later | inTable
      · exact .inl (List.mem_cons_of_mem _ later)
      · rw [← get?_eq_some_iff, get?_insert] at inTable
        split at inTable
        · rename_i same
          have isFirst : first = entry := Prod.ext same (Option.some.inj inTable)
          exact .inl (isFirst ▸ List.mem_cons_self)
        · exact .inr ((table.get?_eq_some_iff).1 inTable)

/-- Says that a table holds the names of a list, each with the number of times
that it stands there, and no others. -/
def Counts (table : Table Nat) (names : List String) : Prop :=
  ∀ name count, table.get? name = some count ↔ 1 ≤ count ∧ count = names.count name

theorem counts_empty : Counts ∅ [] := by
  intro name count
  have nothing : (∅ : Table Nat).get? name = none := rfl
  rw [nothing, List.count_nil]
  constructor
  · intro impossible
    cases impossible
  · rintro ⟨positive, zero⟩
    omega

namespace Counts

variable {table : Table Nat} {names : List String}

theorem getD_get? (counts : Counts table names) (name : String) :
    (table.get? name).getD 0 = names.count name := by
  cases found : table.get? name with
  | some count => exact ((counts name count).1 found).2
  | none =>
      have absent : ¬ 1 ≤ names.count name := by
        intro positive
        have held := (counts name _).2 ⟨positive, rfl⟩
        rw [found] at held
        cases held
      exact (Nat.lt_one_iff.1 (Nat.lt_of_not_le absent)).symm

theorem snoc (counts : Counts table names) (name : String) :
    Counts (table.insert name ((table.get? name).getD 0 + 1)) (names ++ [name]) := by
  intro other count
  rw [Entries.get?_insert, counts.getD_get?, List.count_append, List.count_singleton]
  by_cases same : name = other
  · subst same
    rw [if_pos rfl, if_pos (beq_self_eq_true name), Option.some.injEq]
    omega
  · rw [if_neg same, if_neg (by simpa using same), counts other count, Nat.add_zero]

theorem foldl (counts : Counts table names) (more : List String) :
    Counts (more.foldl (fun counts name =>
      counts.insert name ((counts.get? name).getD 0 + 1)) table)
      (names ++ more) := by
  induction more generalizing table names with
  | nil =>
      rw [List.append_nil]
      exact counts
  | cons name more induction =>
      rw [List.append_cons]
      exact induction (counts.snoc name)

end Counts

end Entries

theorem Table.ofList_toList {α : Type u} (table : Table α) :
    Table.ofList table.toList = table := by
  apply Entries.ext_get?
  intro key
  rw [Table.ofList, Entries.get?_foldl_insert]
  exact Option.or_none

theorem Table.mem_of_mem_ofList {α : Type u} {list : List (String × α)}
    {entry : String × α} (mem : entry ∈ (Table.ofList list).toList) : entry ∈ list := by
  rcases Entries.mem_of_mem_foldl_insert mem with inList | inEmpty
  · exact inList
  · cases inEmpty

theorem Instances.mem_all_iff (instances : Instances) (entity : String)
    {self : Instance} :
    self ∈ instances.all entity ↔ ∃ id, instances.find? entity id = some self :=
  (instances.ofEntity entity).mem_values_iff

end BehaviorContract
