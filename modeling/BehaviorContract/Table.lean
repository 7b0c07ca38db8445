/-! Tables from text keys to values. The entries stand in ascending key order
and each key stands once; both facts are part of the type, so a table is
determined by its entries and needs no invariant of its own. -/

namespace BehaviorContract

universe u v

/-- Says that an entry with this key may stand after the bound, or anywhere if
there is no bound. -/
def Follows : Option String → String → Prop
  | none, _ => True
  | some bound, key => bound < key

/-- Entries in ascending key order, all of them after the bound. -/
inductive Entries (α : Type u) : Option String → Type u
  | nil {bound : Option String} : Entries α bound
  | cons {bound : Option String} (key : String) (follows : Follows bound key) (value : α)
      (rest : Entries α (some key)) : Entries α bound

abbrev Table (α : Type u) := Entries α none

theorem Follows.trans {bound : Option String} {key later : String}
    (first : Follows bound key) (second : key < later) : Follows bound later := by
  cases bound with
  | none => trivial
  | some bound => exact String.lt_trans first second

theorem lt_of_not_lt_of_ne {left right : String} (notLess : ¬ left < right)
    (different : left ≠ right) :
    right < left :=
  Std.lt_of_le_of_ne (String.not_lt.1 notLess) (Ne.symm different)

namespace Entries

variable {α : Type u} {β : Type v} {bound : Option String}

def toList {bound : Option String} : Entries α bound → List (String × α)
  | .nil => []
  | .cons key _ value rest => (key, value) :: rest.toList

def keys (entries : Entries α bound) : List String :=
  entries.toList.map (·.1)

def values (entries : Entries α bound) : List α :=
  entries.toList.map (·.2)

def size (entries : Entries α bound) : Nat :=
  entries.toList.length

def isEmpty : Entries α bound → Bool
  | .nil => true
  | .cons .. => false

def get? {bound : Option String} : Entries α bound → String → Option α
  | .nil, _ => none
  | .cons key _ value rest, wanted =>
      if key = wanted then some value else rest.get? wanted

def contains (entries : Entries α bound) (key : String) : Bool :=
  (entries.get? key).isSome

def insertAfter {bound : Option String} (new : String) (value : α) :
    Entries α bound → Follows bound new → Entries α bound
  | .nil, follows => .cons new follows value .nil
  | .cons key keyFollows old rest, follows =>
      if same : key = new then .cons key keyFollows value rest
      else if before : key < new then
        .cons key keyFollows old (rest.insertAfter new value before)
      else .cons new follows value (.cons key (lt_of_not_lt_of_ne before same) old rest)

def insert (table : Table α) (key : String) (value : α) : Table α :=
  table.insertAfter key value trivial

def loosen {key : String} (follows : Follows bound key) :
    Entries α (some key) → Entries α bound
  | .nil => .nil
  | .cons later laterFollows value rest =>
      .cons later (follows.trans laterFollows) value rest

def erase {bound : Option String} : Entries α bound → String → Entries α bound
  | .nil, _ => .nil
  | .cons key follows value rest, unwanted =>
      if key = unwanted then rest.loosen follows
      else .cons key follows value (rest.erase unwanted)

def map {bound : Option String} (f : α → β) : Entries α bound → Entries β bound
  | .nil => .nil
  | .cons key follows value rest => .cons key follows (f value) (rest.map f)

def beqBy (same : α → α → Bool) :
    {left right : Option String} → Entries α left → Entries α right → Bool
  | _, _, .nil, .nil => true
  | _, _, .cons key _ value rest, .cons key' _ value' rest' =>
      key == key' && same value value' && rest.beqBy same rest'
  | _, _, _, _ => false

instance : EmptyCollection (Table α) := ⟨.nil⟩

instance : Inhabited (Table α) := ⟨.nil⟩

@[simp] theorem toList_nil : (Entries.nil : Entries α bound).toList = [] := rfl

@[simp] theorem toList_cons (key : String) (follows : Follows bound key) (value : α)
    (rest : Entries α (some key)) :
    (Entries.cons key follows value rest).toList = (key, value) :: rest.toList := rfl

theorem follows_of_mem {bound : Option String} (entries : Entries α bound) :
    ∀ entry ∈ entries.toList, Follows bound entry.1 := by
  induction entries with
  | nil => simp
  | cons key follows value rest induction =>
      intro entry member
      rcases List.mem_cons.1 member with rfl | later
      · exact follows
      · exact follows.trans (induction entry later)

theorem pairwise_toList {bound : Option String} (entries : Entries α bound) :
    entries.toList.Pairwise (fun left right => left.1 < right.1) := by
  induction entries with
  | nil => simp
  | cons key follows value rest induction =>
      exact List.Pairwise.cons (fun entry member =>
        rest.follows_of_mem entry member) induction

theorem toList_inj {bound : Option String} {left right : Entries α bound}
    (same : left.toList = right.toList) : left = right := by
  induction left with
  | nil =>
      cases right with
      | nil => rfl
      | cons => simp at same
  | cons key follows value rest induction =>
      cases right with
      | nil => simp at same
      | cons key' follows' value' rest' =>
          simp only [toList_cons, List.cons.injEq, Prod.mk.injEq] at same
          obtain ⟨⟨rfl, rfl⟩, sameRest⟩ := same
          rw [induction sameRest]

theorem get?_of_not_follows {bound : Option String} (entries : Entries α bound)
    {key : String} (missing : ¬ Follows bound key) : entries.get? key = none := by
  induction entries with
  | nil => rfl
  | cons first follows value rest induction =>
      have different : first ≠ key := fun same => missing (same ▸ follows)
      simp only [get?, different, if_false]
      exact induction (fun later => missing (follows.trans later))

theorem get?_insertAfter {bound : Option String} (entries : Entries α bound)
    (new : String) (value : α) (follows : Follows bound new) (key : String) :
    (entries.insertAfter new value follows).get? key =
      if new = key then some value else entries.get? key := by
  induction entries with
  | nil => simp [insertAfter, get?]
  | cons first firstFollows old rest induction =>
      unfold insertAfter
      split
      · rename_i same
        subst same
        by_cases h : first = key <;> simp [get?, h]
      · rename_i different
        split
        · rename_i before
          simp only [get?, induction before]
          by_cases h : first = key
          · subst h
            simp [Ne.symm different]
          · simp [h]
        · by_cases h : new = key
          · simp [get?, h]
          · simp [get?, h]

@[simp] theorem get?_insert (table : Table α) (new : String) (value : α) (key : String) :
    (table.insert new value).get? key =
      if new = key then some value else table.get? key :=
  get?_insertAfter table new value trivial key

theorem get?_loosen {first : String} (follows : Follows bound first)
    (entries : Entries α (some first)) (key : String) :
    (entries.loosen follows).get? key = entries.get? key := by
  cases entries <;> rfl

@[simp] theorem get?_erase {bound : Option String} (entries : Entries α bound)
    (unwanted key : String) :
    (entries.erase unwanted).get? key =
      if unwanted = key then none else entries.get? key := by
  induction entries with
  | nil => simp [erase, get?]
  | cons first follows value rest induction =>
      unfold erase
      split
      · rename_i same
        subst same
        rw [get?_loosen]
        by_cases h : first = key
        · subst h
          simp [rest.get?_of_not_follows (String.lt_irrefl first)]
        · simp [get?, h]
      · rename_i different
        by_cases h : first = key
        · subst h
          simp [get?, Ne.symm different]
        · simp [get?, h, induction]

end Entries

/-- The table of a list of entries; of entries with one key the last counts. -/
def Table.ofList {α : Type u} (entries : List (String × α)) : Table α :=
  entries.foldl (fun table entry => table.insert entry.1 entry.2) ∅

def sumOver {α : Type} (count : α → Nat) (items : List α) : Nat :=
  items.foldr (fun item rest => count item + rest) 0

end BehaviorContract
