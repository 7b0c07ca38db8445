import BehaviorContract.Expr.Json
import BehaviorContract.Proofs.Json.Record
import BehaviorContract.Proofs.Value.Json

namespace BehaviorContract

open FieldReader

theorem UnaryOp.ofSymbol?_symbol (op : UnaryOp) : ofSymbol? op.symbol = some op := by
  cases op <;> decide

theorem BinaryOp.ofSymbol?_symbol (op : BinaryOp) : ofSymbol? op.symbol = some op := by
  cases op <;> decide

namespace Expr

mutual

def floatFree : Expr → Bool
  | .literal value => value.floatFree
  | .identifier _ => true
  | .member target _ => target.floatFree
  | .index target position => target.floatFree && position.floatFree
  | .unary _ operand => operand.floatFree
  | .binary _ left right => left.floatFree && right.floatFree
  | .call callee arguments => callee.floatFree && listFloatFree arguments
  | .old expression => expression.floatFree
  | .list elements => listFloatFree elements
  | .object fields => fieldsFloatFree fields

def listFloatFree : List Expr → Bool
  | [] => true
  | element :: rest => element.floatFree && listFloatFree rest

def fieldsFloatFree : List (String × Expr) → Bool
  | [] => true
  | (_, value) :: rest => value.floatFree && fieldsFloatFree rest

end

theorem listFloatFree_iff {elements : List Expr} :
    listFloatFree elements = true ↔ ∀ element ∈ elements, element.floatFree = true := by
  induction elements with
  | nil => simp [listFloatFree]
  | cons element rest induction =>
      rw [listFloatFree, Bool.and_eq_true, induction, List.forall_mem_cons]

theorem fieldsFloatFree_iff {fields : List (String × Expr)} :
    fieldsFloatFree fields = true ↔ ∀ field ∈ fields, field.2.floatFree = true := by
  induction fields with
  | nil => simp [fieldsFloatFree]
  | cons field rest induction =>
      rw [fieldsFloatFree, Bool.and_eq_true, induction, List.forall_mem_cons]

theorem listToJson_eq_map (elements : List Expr) :
    listToJson elements = elements.map toJson := by
  induction elements with
  | nil => rfl
  | cons element rest induction => rw [listToJson, induction, List.map_cons]

def fieldToJson (field : String × Expr) : Json :=
  .object [("key", .text field.1), ("value", field.2.toJson)]

theorem fieldsToJson_eq_map (fields : List (String × Expr)) :
    fieldsToJson fields = fields.map fieldToJson := by
  induction fields with
  | nil => rfl
  | cons field rest induction => rw [fieldsToJson, induction, List.map_cons, fieldToJson]

theorem fieldOfJson?_fieldToJson {decode : Json → Option Expr} {field : String × Expr}
    (decodes : decode field.2.toJson = some field.2) :
    fieldOfJson? decode (fieldToJson field) = some field := by
  apply Json.decodeRecord_of_finds
  apply (finds_required (by rfl) (by rfl)).bind
  apply (finds_required (by rfl) decodes).bind
  exact finds_pure _

theorem ofJsonWithin?_kind {kind : String} (isKind : kind ∈ kinds)
    {entries : List (String × Json)} (untagged : ∀ entry ∈ entries, entry.1 ≠ "kind")
    {levels : Nat} {expr : Expr}
    (finds : Finds entries (fieldsOfKind (ofJsonWithin? levels true) kind) expr)
    (inside : Bool) :
    ofJsonWithin? (levels + 1) inside (.object (("kind", .text kind) :: entries)) =
      some expr := by
  have noTag : entries.filter (·.1 == "kind") = [] :=
    List.filter_eq_nil_iff.2 fun entry mem => by simp [untagged entry mem]
  have kept : entries.filter (·.1 != "kind") = entries :=
    List.filter_eq_self.2 fun entry mem => by simp [untagged entry mem]
  have tagged : Record.tagged? "kind" (.named (("kind", .text kind) :: entries)) =
      some (.text kind, .named entries) := by
    simp [Record.tagged?, Json.entriesAt, noTag, kept]
  have told : (Json.text kind).tag? kinds inside = some kind := if_pos isKind
  have reads := Json.read?_of_finds finds
  simp only [ofJsonWithin?, Json.record?, Option.bind_some, tagged, told,
    Option.bind_eq_bind, reads]

section Parts

variable {decode : Json → Option Expr} {levels : Nat}
  (reads : ∀ part : Expr, part.floatFree = true → part.toJson.depth ≤ levels →
    decode part.toJson = some part)

include reads

theorem list?_listToJson {elements : List Expr} (free : listFloatFree elements = true)
    (shallow : Json.depthItems (listToJson elements) ≤ levels) :
    (Json.array (listToJson elements)).list? decode = some elements := by
  rw [listToJson_eq_map] at shallow ⊢
  rw [Json.depthItems_le_iff, List.forall_mem_map] at shallow
  rw [listFloatFree_iff] at free
  exact Json.list?_map_self fun element mem =>
    reads element (free element mem) (shallow element mem)

theorem list?_fieldsToJson {fields : List (String × Expr)}
    (free : fieldsFloatFree fields = true)
    (shallow : Json.depthItems (fieldsToJson fields) ≤ levels + 1) :
    (Json.array (fieldsToJson fields)).list? (fieldOfJson? decode) = some fields := by
  rw [fieldsToJson_eq_map] at shallow ⊢
  rw [Json.depthItems_le_iff, List.forall_mem_map] at shallow
  rw [fieldsFloatFree_iff] at free
  apply Json.list?_map_self
  intro field mem
  have inside := shallow field mem
  simp only [fieldToJson, Json.depth, Json.depthEntries] at inside
  exact fieldOfJson?_fieldToJson (reads field.2 (free field mem) (by omega))

end Parts

theorem ofJsonWithin?_toJson {levels : Nat} {expr : Expr} (free : expr.floatFree = true)
    (enough : expr.toJson.depth ≤ levels) (inside : Bool) :
    ofJsonWithin? levels inside expr.toJson = some expr := by
  -- By induction on the levels and not on the expression: the parts of a list
  -- are then given by membership.
  induction levels generalizing expr inside with
  | zero => cases expr <;> simp [toJson, Json.depth] at enough
  | succ levels induction =>
      have reads : ∀ part : Expr, part.floatFree = true → part.toJson.depth ≤ levels →
          ofJsonWithin? levels true part.toJson = some part :=
            fun _ free shallow => induction free shallow true
      cases expr with
      | literal value =>
          apply ofJsonWithin?_kind (by decide) (by simp)
          apply (finds_required (by rfl) (Value.ofJson?_toJson free)).bind
          exact finds_pure _
      | identifier name =>
          apply ofJsonWithin?_kind (by decide) (by simp)
          apply (finds_required (by rfl) (by rfl)).bind
          exact finds_pure _
      | member target property =>
          simp only [toJson, Json.depth, Json.depthEntries] at enough
          have ofTarget := reads target free (by omega)
          apply ofJsonWithin?_kind (by decide) (by simp)
          apply (finds_required (by rfl) ofTarget).bind
          apply (finds_required (by rfl) (by rfl)).bind
          exact finds_pure _
      | index target position =>
          simp only [toJson, Json.depth, Json.depthEntries] at enough
          rw [floatFree, Bool.and_eq_true] at free
          have ofTarget := reads _ free.1 (by omega)
          have ofPosition := reads _ free.2 (by omega)
          apply ofJsonWithin?_kind (by decide) (by simp)
          apply (finds_required (by rfl) ofTarget).bind
          apply (finds_required (by rfl) ofPosition).bind
          exact finds_pure _
      | unary op operand =>
          simp only [toJson, Json.depth, Json.depthEntries] at enough
          have ofOperand := reads operand free (by omega)
          apply ofJsonWithin?_kind (by decide) (by simp)
          apply (finds_required (by rfl) op.ofSymbol?_symbol).bind
          apply (finds_required (by rfl) ofOperand).bind
          exact finds_pure _
      | binary op left right =>
          simp only [toJson, Json.depth, Json.depthEntries] at enough
          rw [floatFree, Bool.and_eq_true] at free
          have ofLeft := reads _ free.1 (by omega)
          have ofRight := reads _ free.2 (by omega)
          apply ofJsonWithin?_kind (by decide) (by simp)
          apply (finds_required (by rfl) op.ofSymbol?_symbol).bind
          apply (finds_required (by rfl) ofLeft).bind
          apply (finds_required (by rfl) ofRight).bind
          exact finds_pure _
      | call callee arguments =>
          simp only [toJson, Json.depth, Json.depthEntries] at enough
          rw [floatFree, Bool.and_eq_true] at free
          have ofCallee := reads _ free.1 (by omega)
          have ofArguments := list?_listToJson reads free.2 (by omega)
          apply ofJsonWithin?_kind (by decide) (by simp)
          apply (finds_required (by rfl) ofCallee).bind
          apply (finds_defaulted (by rfl) ofArguments).bind
          exact finds_pure _
      | old expression =>
          simp only [toJson, Json.depth, Json.depthEntries] at enough
          have ofExpression := reads expression free (by omega)
          apply ofJsonWithin?_kind (by decide) (by simp)
          apply (finds_required (by rfl) ofExpression).bind
          exact finds_pure _
      | list elements =>
          simp only [toJson, Json.depth, Json.depthEntries] at enough
          have ofElements := list?_listToJson reads free (by omega)
          apply ofJsonWithin?_kind (by decide) (by simp)
          apply (finds_required (by rfl) ofElements).bind
          exact finds_pure _
      | object fields =>
          simp only [toJson, Json.depth, Json.depthEntries] at enough
          have ofFields := list?_fieldsToJson reads free (by omega)
          apply ofJsonWithin?_kind (by decide) (by simp)
          apply (finds_required (by rfl) ofFields).bind
          exact finds_pure _

mutual

theorem legible_toJson : ∀ {expr : Expr}, expr.floatFree = true → expr.toJson.Legible
  | .literal _, free => ⟨trivial, Value.legible_toJson free, trivial⟩
  | .identifier _, _ => ⟨trivial, trivial, trivial⟩
  | .member target _, free =>
      ⟨trivial, legible_toJson (show target.floatFree = true from free), trivial, trivial⟩
  | .index _ _, free => by
      rw [floatFree, Bool.and_eq_true] at free
      exact ⟨trivial, legible_toJson free.1, legible_toJson free.2, trivial⟩
  | .unary _ operand, free =>
      ⟨trivial, trivial, legible_toJson (show operand.floatFree = true from free),
        trivial⟩
  | .binary _ _ _, free => by
      rw [floatFree, Bool.and_eq_true] at free
      exact ⟨trivial, trivial, legible_toJson free.1, legible_toJson free.2, trivial⟩
  | .call _ _, free => by
      rw [floatFree, Bool.and_eq_true] at free
      exact ⟨trivial, legible_toJson free.1, legibleItems_listToJson free.2, trivial⟩
  | .old expression, free =>
      ⟨trivial, legible_toJson (show expression.floatFree = true from free), trivial⟩
  | .list _, free => ⟨trivial, legibleItems_listToJson free, trivial⟩
  | .object _, free => ⟨trivial, legibleItems_fieldsToJson free, trivial⟩

theorem legibleItems_listToJson :
    ∀ {elements : List Expr}, listFloatFree elements = true →
    Json.LegibleItems (listToJson elements)
  | [], _ => trivial
  | _ :: _, free => by
      rw [listFloatFree, Bool.and_eq_true] at free
      exact ⟨legible_toJson free.1, legibleItems_listToJson free.2⟩

theorem legibleItems_fieldsToJson :
    ∀ {fields : List (String × Expr)}, fieldsFloatFree fields = true →
    Json.LegibleItems (fieldsToJson fields)
  | [], _ => trivial
  | _ :: _, free => by
      rw [fieldsFloatFree, Bool.and_eq_true] at free
      exact ⟨⟨trivial, legible_toJson free.1, trivial⟩, legibleItems_fieldsToJson free.2⟩

end

theorem ofJson?_toJson {expr : Expr} (free : expr.floatFree = true) :
    ofJson? expr.toJson = some expr := by
  rw [ofJson?, if_pos (Json.readable_of_legible (legible_toJson free))]
  exact ofJsonWithin?_toJson free (Nat.le_refl _) false

theorem depth_toJson_pos (expr : Expr) : 0 < expr.toJson.depth := by
  cases expr <;> exact Nat.succ_pos _

section Depth

variable {decode : Json → Option Expr}
  (shallow : ∀ json part, decode json = some part → part.toJson.depth ≤ json.depth)

include shallow

theorem depth_listToJson_le {json : Json} {elements : List Expr}
    (reads : json.list? decode = some elements) :
    (Json.array (listToJson elements)).depth ≤ json.depth := by
  have positive := Json.depth_pos_of_list? reads
  have atMost := Json.depth_map_le_of_list? toJson 0 reads fun item element decodes =>
    Nat.le_trans (shallow item element decodes) (Nat.le_max_right _ _)
  rw [listToJson_eq_map]
  omega

theorem depth_fieldToJson_le {json : Json} {field : String × Expr}
    (reads : fieldOfJson? decode json = some field) :
    (fieldToJson field).depth ≤ json.depth := by
  refine Json.holds_of_decodeRecord
    (P := fun field => (fieldToJson field).depth ≤ json.depth) ?_ reads
  apply gives_required_any.bind
  intro key _
  apply (gives_required (P := fun value => value.toJson.depth < json.depth) ?_).bind
  · intro value less
    apply gives_pure
    simp only [fieldToJson, Json.depth, Json.depthEntries]
    omega
  · intro part value less reads
    exact Nat.lt_of_le_of_lt (shallow part value reads) less

theorem depth_fieldsToJson_le {json : Json} {fields : List (String × Expr)}
    (reads : json.list? (fieldOfJson? decode) = some fields) :
    (Json.array (fieldsToJson fields)).depth ≤ json.depth := by
  have positive := Json.depth_pos_of_list? reads
  have atMost := Json.depth_map_le_of_list? fieldToJson 0 reads fun item field decodes =>
    Nat.le_trans (depth_fieldToJson_le shallow decodes) (Nat.le_max_right _ _)
  rw [fieldsToJson_eq_map]
  omega

theorem gives_part (limit : Nat) (key : String) :
    Gives (fun part => part.depth < limit) (required key decode) fun expr =>
      expr.toJson.depth < limit :=
  gives_required fun json expr less reads =>
    Nat.lt_of_le_of_lt (shallow json expr reads) less

theorem gives_fieldsOfKind (limit : Nat) (kind : String) :
    Gives (fun part => part.depth < limit) (fieldsOfKind decode kind) fun expr =>
      expr.toJson.depth ≤ limit := by
  have ofPart := gives_part shallow limit
  unfold fieldsOfKind
  split
  · apply (gives_required (P := fun value : Value => value.toJson.depth < limit) ?_).bind
    · intro value less
      apply gives_pure
      simp only [toJson, Json.depth, Json.depthEntries]
      omega
    · intro json value less reads
      exact Nat.lt_of_le_of_lt (Value.depth_toJson_le reads) less
  · apply (gives_required (P := fun _ => 0 < limit) fun _ _ less _ =>
      Nat.zero_lt_of_lt less).bind
    intro name less
    apply gives_pure
    simp only [toJson, Json.depth, Json.depthEntries]
    omega
  · apply (ofPart "object").bind
    intro target less
    apply gives_required_any.bind
    intro property _
    apply gives_pure
    simp only [toJson, Json.depth, Json.depthEntries]
    omega
  · apply (ofPart "object").bind
    intro target less
    apply (ofPart "index").bind
    intro position alsoLess
    apply gives_pure
    simp only [toJson, Json.depth, Json.depthEntries]
    omega
  · apply gives_required_any.bind
    intro op _
    apply (ofPart "operand").bind
    intro operand less
    apply gives_pure
    simp only [toJson, UnaryOp.toJson, Json.depth, Json.depthEntries]
    omega
  · apply gives_required_any.bind
    intro op _
    apply (ofPart "left").bind
    intro left less
    apply (ofPart "right").bind
    intro right alsoLess
    apply gives_pure
    simp only [toJson, BinaryOp.toJson, Json.depth, Json.depthEntries]
    omega
  · apply (ofPart "callee").bind
    intro callee less
    apply (gives_defaulted (P := fun arguments =>
      (Json.array (listToJson arguments)).depth < limit) ?_ ?_).bind
    · intro arguments alsoLess
      apply gives_pure
      rw [toJson, Json.depth]
      simp only [Json.depthEntries, Json.depth] at alsoLess ⊢
      omega
    · exact Nat.lt_of_le_of_lt callee.depth_toJson_pos less
    · intro json arguments less reads
      exact Nat.lt_of_le_of_lt (depth_listToJson_le shallow reads) less
  · apply (ofPart "expression").bind
    intro expression less
    apply gives_pure
    simp only [toJson, Json.depth, Json.depthEntries]
    omega
  · apply (gives_required (P := fun elements =>
      (Json.array (listToJson elements)).depth < limit) ?_).bind
    · intro elements less
      apply gives_pure
      simp only [toJson, Json.depthEntries, Json.depth] at less ⊢
      omega
    · intro json elements less reads
      exact Nat.lt_of_le_of_lt (depth_listToJson_le shallow reads) less
  · apply (gives_required (P := fun fields =>
      (Json.array (fieldsToJson fields)).depth < limit) ?_).bind
    · intro fields less
      apply gives_pure
      simp only [toJson, Json.depthEntries, Json.depth] at less ⊢
      omega
    · intro json fields less reads
      exact Nat.lt_of_le_of_lt (depth_fieldsToJson_le shallow reads) less
  · exact gives_failure

end Depth

theorem depth_le_of_ofJsonWithin? {levels : Nat} {inside : Bool} {json : Json}
    {expr : Expr} (reads : ofJsonWithin? levels inside json = some expr) :
    expr.toJson.depth ≤ json.depth := by
  induction levels generalizing inside json expr with
  | zero => cases reads
  | succ levels induction =>
      obtain ⟨⟨tag, record⟩, isTagged, reads⟩ := Option.bind_eq_some_iff.1 reads
      obtain ⟨whole, isRecord, isTagged⟩ := Option.bind_eq_some_iff.1 isTagged
      obtain ⟨kind, -, reads⟩ := Option.bind_eq_some_iff.1 reads
      have shallow : ∀ part inner,
          ofJsonWithin? levels true part = some inner → inner.toJson.depth ≤ part.depth :=
        fun _ _ => induction
      have gives := gives_fieldsOfKind shallow json.depth kind
      exact Json.holds_of_read? gives
        ((Json.all_of_record? isRecord).tagged? isTagged) reads

theorem depth_toJson_le {json : Json} {expr : Expr} (reads : ofJson? json = some expr) :
    expr.toJson.depth ≤ json.depth :=
  depth_le_of_ofJsonWithin? (Option.ite_none_right_eq_some.1 reads).2

end Expr

end BehaviorContract
