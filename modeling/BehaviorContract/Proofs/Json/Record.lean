import BehaviorContract.Json.Record
import BehaviorContract.Proofs.Json.Depth

/-! Reading records, in two directions. What the reading gives has the
properties that its fields give it, whichever way the record is written; and a
record that was written as an object, with every field under its key, is read
field by field. -/

namespace BehaviorContract

variable {α β : Type}

namespace Record

def All (Holds : Json → Prop) : Record → Prop
  | .named entries => ∀ entry ∈ entries, Holds entry.2
  | .positional items => ∀ item ∈ items, Holds item

variable {Holds : Json → Prop}

theorem holds_of_mem_entriesAt {entries : List (String × Json)}
    (all : ∀ entry ∈ entries, Holds entry.2) {key : String} {value : Json}
    (mem : value ∈ Json.entriesAt key entries) : Holds value := by
  obtain ⟨entry, isEntry, rfl⟩ := List.mem_map.1 mem
  exact all entry (List.mem_filter.1 isEntry).1

theorem All.take {record rest : Record} (all : record.All Holds) {key : String}
    {slot : Slot} (taken : record.take key = some (slot, rest)) :
    (∀ value, slot = .given value → Holds value) ∧ rest.All Holds := by
  match record with
  | .positional [] =>
      cases taken
      exact ⟨nofun, all⟩
  | .positional (first :: others) =>
      cases taken
      obtain ⟨ofFirst, ofOthers⟩ := List.forall_mem_cons.1 all
      exact ⟨fun value same => Slot.given.inj same ▸ ofFirst, ofOthers⟩
  | .named entries =>
      have held : ∀ value ∈ Json.entriesAt key entries, Holds value :=
        fun _ => holds_of_mem_entriesAt all
      rw [Record.take] at taken
      split at taken
      · cases taken
        exact ⟨nofun, all⟩
      · rename_i found
        cases taken
        rw [found] at held
        exact ⟨fun value same => Slot.given.inj same ▸ held _ (List.mem_singleton.2 rfl),
          all⟩
      · cases taken

theorem All.tagged? {record rest : Record} (all : record.All Holds) {key : String}
    {tag : Json} (tagged : record.tagged? key = some (tag, rest)) : rest.All Holds := by
  match record with
  | .positional [] => cases tagged
  | .positional (first :: others) =>
      cases tagged
      exact (List.forall_mem_cons.1 all).2
  | .named entries =>
      rw [Record.tagged?] at tagged
      split at tagged
      · cases tagged
        exact fun entry mem => all entry (List.mem_filter.1 mem).1
      · cases tagged

end Record

/-- What a slot gives: the value in it, or what stands for a field that is not there. -/
def Slot.read? (decode : Json → Option α) (unnamed exhausted : Option α) : Slot → Option α
  | .given value => decode value
  | .unnamed => unnamed
  | .exhausted => exhausted

namespace FieldReader

def ofSlot (key : String) (read : Slot → Option α) : FieldReader α := fun record =>
  (record.take key).bind fun (slot, rest) => (read slot).map (·, rest)

theorem take_bind_eq_ofSlot (key : String) {next : Slot → FieldReader α}
    {read : Slot → Option α} (reads : ∀ slot rest,
      next slot rest = (read slot).map (·, rest)) :
    (bind (Record.take key : FieldReader Slot) next) = ofSlot key read := by
  funext record
  unfold ofSlot
  cases taken : record.take key with
  | none => simp [bind, StateT.bind, taken]
  | some slot => simp [bind, StateT.bind, taken, reads]

theorem liftM_eq_map (result : Option α) (rest : Record) :
    (liftM result : FieldReader α) rest = result.map (·, rest) := by
  cases result with
  | none => rfl
  | some value => rfl

theorem required_eq (key : String) (decode : Json → Option α) :
    required key decode = ofSlot key (Slot.read? decode none none) := by
  apply take_bind_eq_ofSlot
  intro slot rest
  cases slot with
  | given value => exact liftM_eq_map (decode value) rest
  | unnamed => rfl
  | exhausted => rfl

theorem defaulted_eq (key : String) (default : α) (decode : Json → Option α) :
    defaulted key default decode =
      ofSlot key (Slot.read? decode (some default) (some default)) := by
  apply take_bind_eq_ofSlot
  intro slot rest
  cases slot with
  | given value => exact liftM_eq_map (decode value) rest
  | unnamed => rfl
  | exhausted => rfl

section Gives

variable {Holds : Json → Prop} {P : α → Prop}

/-- Says what the reading gives of a record, of whose values something is known. -/
def Gives (Holds : Json → Prop) (reader : FieldReader α) (P : α → Prop) : Prop :=
  ∀ record value rest, record.All Holds → reader record = some (value, rest) →
    P value ∧ rest.All Holds

theorem gives_pure {value : α} (holds : P value) : Gives Holds (pure value) P := by
  intro record result rest all reads
  cases reads
  exact ⟨holds, all⟩

theorem gives_failure : Gives Holds (failure : FieldReader α) P := nofun

theorem Gives.bind {reader : FieldReader α} (first : Gives Holds reader P)
    {next : α → FieldReader β} {Q : β → Prop}
    (later : ∀ value, P value → Gives Holds (next value) Q) :
    Gives Holds (reader >>= next) Q := by
  intro record result rest all reads
  obtain ⟨⟨value, between⟩, readsFirst, readsLater⟩ := Option.bind_eq_some_iff.1 reads
  obtain ⟨holds, allBetween⟩ := first record value between all readsFirst
  exact later value holds between result rest allBetween readsLater

theorem Gives.imp {reader : FieldReader α} (gives : Gives Holds reader P) {Q : α → Prop}
    (implies : ∀ value, P value → Q value) : Gives Holds reader Q := by
  intro record value rest all reads
  obtain ⟨holds, allRest⟩ := gives record value rest all reads
  exact ⟨implies value holds, allRest⟩

theorem gives_ofSlot {key : String} {read : Slot → Option α}
    (reads : ∀ slot value, (∀ json, slot = .given json → Holds json) →
      read slot = some value → P value) :
    Gives Holds (ofSlot key read) P := by
  intro record value rest all taken
  obtain ⟨⟨slot, between⟩, taken, given⟩ := Option.bind_eq_some_iff.1 taken
  obtain ⟨result, isResult, same⟩ := Option.map_eq_some_iff.1 given
  cases same
  obtain ⟨holds, allRest⟩ := all.take taken
  exact ⟨reads slot value holds isResult, allRest⟩

variable {key : String} {decode : Json → Option α}

theorem gives_required (decodes : ∀ json value,
      Holds json → decode json = some value → P value) :
    Gives Holds (required key decode) P := by
  rw [required_eq]
  apply gives_ofSlot
  intro slot value holds reads
  cases slot with
  | given json => exact decodes json value (holds json rfl) reads
  | unnamed => cases reads
  | exhausted => cases reads

theorem gives_defaulted {default : α} (ofDefault : P default)
    (decodes : ∀ json value, Holds json → decode json = some value → P value) :
    Gives Holds (defaulted key default decode) P := by
  rw [defaulted_eq]
  apply gives_ofSlot
  intro slot value holds reads
  cases slot with
  | given json => exact decodes json value (holds json rfl) reads
  | unnamed => exact Option.some.inj reads ▸ ofDefault
  | exhausted => exact Option.some.inj reads ▸ ofDefault

theorem gives_required_any : Gives Holds (required key decode) fun _ => True :=
  gives_required fun _ _ _ _ => trivial

theorem gives_defaulted_any {default : α} :
    Gives Holds (defaulted key default decode) fun _ => True :=
  gives_defaulted trivial fun _ _ _ _ => trivial

end Gives

section Finds

variable {entries : List (String × Json)} {key : String} {decode : Json → Option α}

/-- Says what a reading finds in a record that is written as an object. -/
def Finds (entries : List (String × Json)) (reader : FieldReader α) (value : α) : Prop :=
  reader (.named entries) = some (value, .named entries)

theorem finds_pure (value : α) : Finds entries (pure value) value := rfl

theorem Finds.bind {reader : FieldReader α} {value : α}
    (first : Finds entries reader value) {next : α → FieldReader β} {result : β}
    (later : Finds entries (next value) result) :
    Finds entries (reader >>= next) result := by
  have runs : (reader >>= next) (.named entries) =
      (reader (.named entries)).bind fun given => next given.1 given.2 := rfl
  rw [Finds, runs, show reader (.named entries) = _ from first]
  exact later

theorem finds_ofSlot {read : Slot → Option α} {json : Json}
    (once : Json.entriesAt key entries = [json]) {value : α}
    (reads : read (.given json) = some value) :
    Finds entries (ofSlot key read) value := by
  rw [Finds, ofSlot, Record.take, once]
  simp [reads]

theorem finds_required {json : Json} (once : Json.entriesAt key entries = [json])
    {value : α} (decodes : decode json = some value) :
    Finds entries (required key decode) value := by
  rw [required_eq]
  exact finds_ofSlot once decodes

theorem finds_defaulted {json : Json} (once : Json.entriesAt key entries = [json])
    {value default : α} (decodes : decode json = some value) :
    Finds entries (defaulted key default decode) value := by
  rw [defaulted_eq]
  exact finds_ofSlot once decodes

theorem finds_optional {encode : α → Json} {value : Option α}
    (once : Json.entriesAt key entries = [Json.ofOption encode value])
    (decodes : ∀ content ∈ value,
      encode content ≠ .null ∧ decode (encode content) = some content) :
    Finds entries (optional key decode) value := by
  apply finds_defaulted once
  cases value with
  | none => rfl
  | some content =>
      obtain ⟨notNull, decodes⟩ := decodes content rfl
      rw [Json.ofOption, orNull]
      · rw [decodes]
        rfl
      · exact notNull

theorem finds_entryOfOption {encode : α → Json} {value : Option α}
    (stands : Json.entriesAt key entries = (value.map encode).toList)
    {read : α → Option α} (decodes : ∀ content ∈ value,
      orNull decode (encode content) = some (read content)) :
    Finds entries (optional key decode) (value.bind read) := by
  cases value with
  | none =>
      rw [FieldReader.optional, defaulted_eq, Finds, ofSlot, Record.take, stands]
      rfl
  | some content => exact finds_defaulted stands (decodes content rfl)

end Finds

end FieldReader

namespace Json

section Entries

variable (key : String)

theorem entriesAt_nil : entriesAt key [] = [] := rfl

theorem entriesAt_cons (entry : String × Json) (rest : List (String × Json)) :
    entriesAt key (entry :: rest) =
      if entry.1 = key then entry.2 :: entriesAt key rest else entriesAt key rest := by
  unfold entriesAt
  split
  · rename_i same
    rw [List.filter_cons_of_pos (by simp [same]), List.map_cons]
  · rename_i different
    rw [List.filter_cons_of_neg (by simp [different])]

theorem entriesAt_append (left right : List (String × Json)) :
    entriesAt key (left ++ right) = entriesAt key left ++ entriesAt key right := by
  simp [entriesAt]

theorem entriesAt_entryOfOption (other : String) (encode : α → Json) (value : Option α) :
    entriesAt key (entryOfOption other encode value) =
      if other = key then (value.map encode).toList else [] := by
  cases value with
  | none => simp [entryOfOption, entriesAt_nil]
  | some content => simp [entryOfOption, entriesAt_cons, entriesAt_nil]

end Entries

theorem legibleEntries_append {left right : List (String × Json)} :
    LegibleEntries (left ++ right) ↔ LegibleEntries left ∧ LegibleEntries right := by
  simp only [legibleEntries_iff, List.forall_mem_append]

theorem legible_entryOfOption {key : String} {encode : α → Json} {value : Option α}
    (legible : ∀ content ∈ value, (encode content).Legible) :
    LegibleEntries (entryOfOption key encode value) := by
  cases value with
  | none => trivial
  | some content => exact ⟨legible content rfl, trivial⟩

theorem all_of_record? {json : Json} {record : Record}
    (isRecord : json.record? = some record) :
    record.All (fun part => part.depth < json.depth) := by
  cases json with
  | object entries =>
      cases isRecord
      intro entry mem
      rw [depth]
      exact Nat.lt_succ_of_le (depthEntries_le_iff.1 (Nat.le_refl _) entry mem)
  | array items =>
      cases isRecord
      intro item mem
      rw [depth]
      exact Nat.lt_succ_of_le (depthItems_le_iff.1 (Nat.le_refl _) item mem)
  | _ => cases isRecord

theorem holds_of_read? {reader : FieldReader α} {Holds : Json → Prop} {P : α → Prop}
    (gives : FieldReader.Gives Holds reader P) {record : Record} (all : record.All Holds)
    {value : α} (reads : record.read? reader = some value) : P value := by
  obtain ⟨⟨result, rest⟩, readsFields, finished⟩ := Option.bind_eq_some_iff.1 reads
  obtain ⟨-, same⟩ := Option.ite_none_right_eq_some.1 finished
  cases same
  exact (gives record value rest all readsFields).1

/-- The parts of a record stand less deep than the record. -/
theorem holds_of_decodeRecord {reader : FieldReader α} {json : Json} {P : α → Prop}
    (gives : FieldReader.Gives (fun part => part.depth < json.depth) reader P) {value : α}
    (reads : json.decodeRecord reader = some value) : P value := by
  obtain ⟨record, isRecord, reads⟩ := Option.bind_eq_some_iff.1 reads
  exact holds_of_read? gives (all_of_record? isRecord) reads

theorem depth_pos_of_decodeRecord {reader : FieldReader α} {json : Json} {value : α}
    (reads : json.decodeRecord reader = some value) : 0 < json.depth := by
  obtain ⟨record, isRecord, -⟩ := Option.bind_eq_some_iff.1 reads
  cases json with
  | object entries => exact Nat.succ_pos _
  | array items => exact Nat.succ_pos _
  | _ => cases isRecord

theorem read?_of_finds {reader : FieldReader α} {entries : List (String × Json)}
    {value : α} (finds : FieldReader.Finds entries reader value) :
    Record.read? reader (.named entries) = some value := by
  rw [Record.read?, show reader.run (.named entries) = _ from finds]
  rfl

theorem decodeRecord_of_finds {reader : FieldReader α} {entries : List (String × Json)}
    {value : α} (finds : FieldReader.Finds entries reader value) :
    (Json.object entries).decodeRecord reader = some value :=
  read?_of_finds finds

section Lists

variable {decode : Json → Option α}

theorem exists_of_mem_mapM {items : List Json} {values : List α}
    (reads : items.mapM decode = some values) {value : α} (mem : value ∈ values) :
    ∃ item ∈ items, decode item = some value := by
  induction items generalizing values with
  | nil =>
      cases reads
      cases mem
  | cons item rest induction =>
      rw [List.mapM_cons] at reads
      obtain ⟨first, decodes, reads⟩ := Option.bind_eq_some_iff.1 reads
      obtain ⟨others, readsRest, same⟩ := Option.bind_eq_some_iff.1 reads
      cases same
      rcases List.mem_cons.1 mem with rfl | later
      · exact ⟨item, List.mem_cons_self, decodes⟩
      · obtain ⟨other, isOther, decodesOther⟩ := induction readsRest later
        exact ⟨other, List.mem_cons_of_mem _ isOther, decodesOther⟩

theorem exists_of_mem_list? {json : Json} {values : List α}
    (reads : json.list? decode = some values) {value : α} (mem : value ∈ values) :
    ∃ item : Json, item.depth < json.depth ∧ decode item = some value := by
  cases json with
  | array items =>
      obtain ⟨item, isItem, decodes⟩ := exists_of_mem_mapM reads mem
      rw [depth]
      exact ⟨item, Nat.lt_succ_of_le (depthItems_le_iff.1 (Nat.le_refl _) item isItem),
        decodes⟩
  | _ => cases reads

theorem depth_pos_of_list? {json : Json} {values : List α}
    (reads : json.list? decode = some values) :
    0 < json.depth := by
  cases json with
  | array items =>
      rw [depth]
      exact Nat.succ_pos _
  | _ => cases reads

theorem depth_map_le_of_list? (encode : α → Json) (bound : Nat) {json : Json}
    {values : List α} (reads : json.list? decode = some values)
    (shallow : ∀ item value, decode item = some value →
      (encode value).depth ≤ max bound item.depth) :
    (Json.array (values.map encode)).depth ≤ max (bound + 1) json.depth := by
  have inside : depthItems (values.map encode) ≤ max bound (json.depth - 1) := by
    rw [depthItems_le_iff, List.forall_mem_map]
    intro value mem
    obtain ⟨item, less, decodes⟩ := exists_of_mem_list? reads mem
    have atMost := shallow item value decodes
    omega
  have positive := depth_pos_of_list? reads
  rw [depth]
  omega

theorem list?_map {encode : β → Json} {read : β → α} {values : List β}
    (decodes : ∀ value ∈ values, decode (encode value) = some (read value)) :
    (Json.array (values.map encode)).list? decode = some (values.map read) := by
  rw [list?]
  induction values with
  | nil => rfl
  | cons value rest induction =>
      rw [List.forall_mem_cons] at decodes
      rw [List.map_cons, List.mapM_cons, decodes.1, induction decodes.2]
      rfl

theorem list?_map_self {encode : α → Json} {values : List α}
    (decodes : ∀ value ∈ values, decode (encode value) = some value) :
    (Json.array (values.map encode)).list? decode = some values := by
  have reads := list?_map (show ∀ value ∈ values,
    decode (encode value) = some (id value) from decodes)
  rwa [List.map_id] at reads

theorem legible_map {encode : α → Json} {values : List α}
    (legible : ∀ value ∈ values, (encode value).Legible) :
    (Json.array (values.map encode)).Legible :=
  legibleItems_iff.2 (List.forall_mem_map.2 legible)

end Lists

theorem legible_ofOption_text (content : Option String) :
    (ofOption .text content).Legible := by
  cases content with
  | none => trivial
  | some content => trivial

theorem depth_ofOption_text (content : Option String) :
    (ofOption .text content).depth = 0 := by
  cases content with
  | none => rfl
  | some content => rfl

end Json

namespace FieldReader

theorem finds_optionalText {entries : List (String × Json)} {key : String}
    {content : Option String} (once : Json.entriesAt key entries =
      [Json.ofOption .text content]) :
    Finds entries (optional key Json.text?) content :=
  finds_optional once fun _ _ => ⟨nofun, rfl⟩

theorem gives_list {decode : Json → Option α} (encode : α → Json) (bound : Nat)
    {P : α → Prop} (decodes : ∀ item value,
      decode item = some value → (encode value).depth ≤ max bound item.depth ∧ P value)
    (limit : Nat) (key : String) :
    Gives (fun part => part.depth < limit)
        (defaulted key [] (Json.list? decode)) fun values =>
      (Json.array (values.map encode)).depth < max (bound + 2) limit ∧
        ∀ value ∈ values, P value := by
  apply gives_defaulted
  · refine ⟨?_, nofun⟩
    simp only [List.map_nil, Json.depth, Json.depthItems]
    omega
  · intro json values less reads
    have atMost := Json.depth_map_le_of_list? encode bound reads fun item value reads =>
      (decodes item value reads).1
    refine ⟨by omega, fun value mem => ?_⟩
    obtain ⟨item, -, readsItem⟩ := Json.exists_of_mem_list? reads mem
    exact (decodes item value readsItem).2

section Depth

variable {decode : Json → Option α} (encode : α → Json)

theorem gives_listWithin (bound : Nat)
    (shallow : ∀ item value, decode item = some value →
      (encode value).depth ≤ max bound item.depth) (limit : Nat) (key : String) :
    Gives (fun part => part.depth < limit)
        (defaulted key [] (Json.list? decode)) fun values =>
      (Json.array (values.map encode)).depth < max (bound + 2) limit := by
  have decodes : ∀ item value,
      decode item = some value → (encode value).depth ≤ max bound item.depth ∧ True :=
    fun item value reads => ⟨shallow item value reads, trivial⟩
  exact (gives_list encode bound decodes limit key).imp fun _ given => given.1

theorem gives_shallowList (shallow : ∀ item value, decode item = some value →
      (encode value).depth ≤ item.depth) (limit : Nat) (key : String) :
    Gives (fun part => part.depth < limit)
        (defaulted key [] (Json.list? decode)) fun values =>
      (Json.array (values.map encode)).depth < max 2 limit :=
  gives_listWithin encode 0 (fun item value reads =>
    Nat.le_trans (shallow item value reads) (Nat.le_max_right _ _))
    limit key

end Depth

end FieldReader

end BehaviorContract
