import BehaviorContract.Proofs.Clause.Contract
import BehaviorContract.Proofs.Eval.Old
import BehaviorContract.Proofs.Store.Identity

/-! What the invariants of an entity see of an instance. The instance is bound
by value before its invariants are evaluated, so `old` around `this` still shows
the live instance and not the one before the execution. That one is shown by a
lookup inside `old`. -/

namespace BehaviorContract

def Instance.property (self : Instance) (name : String) : Value :=
  (self.toValue.get? name).getD .null

namespace Context

theorem resolve?_bind (context : Context) (name : String) (value : Value)
    (other : String) :
    (context.bind name value).resolve? other =
      if name = other then some value else context.resolve? other := by
  simp only [resolve?, bind, Entries.get?_insert]
  by_cases same : name = other
  · simp [same]
  · simp [same]

def ofInstance (context : Context) (entity : Entity) (self : Instance) : Context :=
  (context.bind "this" self.toValue).bind (Text.lowercase entity.name) self.toValue

theorem resolve?_this (context : Context) (entity : Entity) (self : Instance) :
    (context.ofInstance entity self).resolve? "this" = some self.toValue := by
  rw [ofInstance, resolve?_bind, resolve?_bind, if_pos rfl, ite_self]

end Context

theorem Instances.lookup?_criteria_text {instances : Instances}
    (labelled : instances.Labelled) {entity id : String} {self : Instance}
    (found : instances.find? entity id = some self) :
    instances.lookup? entity (Query.criteria (.text id)) = some self :=
  (lookup?_id labelled entity (.inl rfl)).trans found

def Expr.lookedUp (entity id property : String) : Expr :=
  .member (.call (.member (.identifier entity) Query.lookup.name) [.literal (.text id)])
    property

section Old

variable {context : Context} {before : Instances} {entity : Entity} {id property : String}
  {self earlier : Instance} {form : Expr}

theorem evaluate_this (self : Instance) (property : String) :
    (Expr.member (.identifier "this") property).evaluate
      (context.ofInstance entity self) = .ok (self.property property) := by
  rw [Expr.evaluate, Expr.evaluate, Context.resolve, context.resolve?_this]
  rfl

theorem evaluate_lookedUp {name : String} (labelled : context.instances.Labelled)
    (found : context.instances.find? name id = some self)
    (unbound : context.resolve? name = none) (declared : context.declares name = true) :
    (Expr.lookedUp name id property).evaluate context = .ok (self.property property) := by
  have answered : Query.lookup.answer context.instances name [.text id] =
      .ok self.toValue := by
    have looked := Instances.lookup?_criteria_text labelled found
    simp [Query.answer, looked]
  have named : Query.ofName? Query.lookup.name = some .lookup := rfl
  simp only [Expr.lookedUp, Expr.evaluate, unbound, named, declared, if_true,
    Expr.evaluateList]
  change (do
    (← Query.lookup.answer context.instances name [.text id]).member property) = _
  rw [answered]
  rfl

theorem evaluate_old_lookedUp (kept : context.before = some before)
    (labelled : before.Labelled) (found : before.find? entity.name id = some earlier)
    (unbound : (context.ofInstance entity self).resolve? entity.name = none)
    (declared : context.declares entity.name = true)
    (isOld : form ∈ (Expr.lookedUp entity.name id property).oldForms) :
    form.evaluate (context.ofInstance entity self) = .ok (earlier.property property) := by
  have stillKept : (context.ofInstance entity self).before = some before := kept
  rw [Expr.evaluate_of_mem_oldForms stillKept isOld]
  exact evaluate_lookedUp labelled found unbound declared

theorem evaluate_old_this (kept : context.before = some before) (self : Instance)
    (isOld : form ∈ (Expr.member (.identifier "this") property).oldForms) :
    form.evaluate (context.ofInstance entity self) = .ok (self.property property) := by
  have stillKept : (context.ofInstance entity self).before = some before := kept
  rw [Expr.evaluate_oldForm_of_not_queriesLive stillKept isOld rfl, evaluate_this]

end Old

/-- What `old` gives in an invariant of a live instance that was there before
the execution. -/
structure Context.OldInInvariants (context : Context) (before : Instances)
    (entity : Entity) (id : String) (live earlier : Instance) : Prop where
  ofThis : ∀ property, ∀ form ∈ (Expr.member (.identifier "this") property).oldForms,
    form.evaluate (context.ofInstance entity live) = .ok (live.property property)
  ofThis_iff : ∀ property, ∀ form ∈ (Expr.member (.identifier "this") property).oldForms,
    form.evaluate (context.ofInstance entity live) = .ok (earlier.property property) ↔
      live.property property = earlier.property property
  idle : ∀ expression : Expr,
    expression.queriesLive = false → ∀ form ∈ expression.oldForms,
    form.evaluate (context.ofInstance entity live) =
      expression.evaluate (context.ofInstance entity live)
  lookedUp : before.Labelled →
    (context.ofInstance entity live).resolve? entity.name = none →
    context.declares entity.name = true →
      ∀ property, ∀ form ∈ (Expr.lookedUp entity.name id property).oldForms,
        form.evaluate (context.ofInstance entity live) = .ok (earlier.property property)

theorem Context.OldInInvariants.of_kept {context : Context} {before : Instances}
    {entity : Entity} {id : String} {live earlier : Instance}
    (kept : context.before = some before)
    (wasThere : before.find? entity.name id = some earlier) :
    context.OldInInvariants before entity id live earlier where
  ofThis := fun _ _ isOld => evaluate_old_this kept live isOld
  ofThis_iff := by
    intro property form isOld
    rw [evaluate_old_this kept live isOld, Except.ok.injEq]
  idle := by
    intro expression sheltered form isOld
    have stillKept : (context.ofInstance entity live).before = some before := kept
    exact Expr.evaluate_oldForm_of_not_queriesLive stillKept isOld sheltered
  lookedUp := fun labelled unbound declared _ _ isOld =>
    evaluate_old_lookedUp kept labelled wasThere unbound declared isOld

namespace Domain

theorem mem_checkEntities_iff (domain : Domain) (context : Context) {check : Check} :
    check ∈ domain.checkEntities context ↔
      ∃ entity ∈ domain.entities, ∃ id self,
        context.instances.find? entity.name id = some self ∧
        check ∈ Check.ofClauses .invariant (entity.name ++ "_" ++ self.id ++ "_invariant")
          (context.ofInstance entity self) entity.invariants := by
  simp only [checkEntities_eq, List.mem_flatMap, Instances.mem_all_iff]
  constructor
  · rintro ⟨entity, declared, self, ⟨id, found⟩, inside⟩
    exact ⟨entity, declared, id, self, found, inside⟩
  · rintro ⟨entity, declared, id, self, found, inside⟩
    exact ⟨entity, declared, self, ⟨id, found⟩, inside⟩

/-- While the invariants of an instance are checked, `old` of one of its
properties is the live property. It is the property before the execution exactly
where the execution has not changed it, and nothing that asks no question about
entities gets at that one; a lookup inside `old` does. -/
theorem checkEntities_old_reads_live (domain : Domain) {context : Context}
    {before : Instances} (kept : context.before = some before) :
    (∀ check, check ∈ domain.checkEntities context ↔
      ∃ entity ∈ domain.entities, ∃ id self,
        context.instances.find? entity.name id = some self ∧
        check ∈ Check.ofClauses .invariant (entity.name ++ "_" ++ self.id ++ "_invariant")
          (context.ofInstance entity self) entity.invariants) ∧
      ∀ entity ∈ domain.entities, ∀ id live earlier,
        context.instances.find? entity.name id = some live →
          before.find? entity.name id = some earlier →
          context.OldInInvariants before entity id live earlier := by
  refine ⟨fun check => domain.mem_checkEntities_iff context, ?_⟩
  intro entity declared id live earlier isLive wasThere
  exact .of_kept kept wasThere

def monotoneCounter : Entity where
  name := "Counter"
  invariants := [.atLeast (.member (.identifier "this") "value")
    (.old (.member (.identifier "this") "value"))]

def monotoneCounters : Domain where
  name := "Counters"
  entities := [monotoneCounter]

def atFive : Store :=
  (Store.empty.create "Counter"
    (Table.ofList [("id", .text "c1"), ("value", .integer 5)])).2

def atThree : Store :=
  (atFive.update "Counter" "c1" (Table.ofList [("value", .integer 3)])).2

def fallen : Context where
  domain := monotoneCounters
  instances := atThree.instances
  before := some atFive.instances
  input := .null
  now := ⟨0, 0⟩

def counterAt (value : Int64) : Instance :=
  ⟨"c1", "Counter", Table.ofList [("id", .text "c1"), ("value", .integer value)]⟩

theorem checkEntities_old_reads_live_fallen :
    fallen.before = some atFive.instances ∧ monotoneCounter ∈ monotoneCounters.entities ∧
      fallen.instances.find? "Counter" "c1" = some (counterAt 3) ∧
      atFive.instances.find? "Counter" "c1" = some (counterAt 5) ∧
      (∀ form ∈ (Expr.member (.identifier "this") "value").oldForms,
        form.evaluate (fallen.ofInstance monotoneCounter (counterAt 3)) =
          .ok (.integer 3)) ∧
      ∀ form ∈ (Expr.lookedUp "Counter" "c1" "value").oldForms,
        form.evaluate (fallen.ofInstance monotoneCounter (counterAt 3)) =
          .ok (.integer 5) := by
  have kept : fallen.before = some atFive.instances := rfl
  have declared : monotoneCounter ∈ monotoneCounters.entities := List.mem_singleton.2 rfl
  have labelled : atFive.instances.Labelled :=
    (Store.Reachable.apply (.create "Counter" _) .empty).labelled
  obtain ⟨-, ofInstances⟩ := checkEntities_old_reads_live monotoneCounters kept
  have ofCounter :=
    ofInstances monotoneCounter declared "c1" (counterAt 3) (counterAt 5) rfl rfl
  exact ⟨kept, declared, rfl, rfl, ofCounter.ofThis "value",
    ofCounter.lookedUp labelled rfl rfl "value"⟩

/-- The value was five and is three, yet `old` gives three for both and the
invariant is reported to hold. -/
theorem checkEntities_passes_fallen_counter :
    (counterAt 5).property "value" = .integer 5 ∧
      (Expr.old (.member (.identifier "this") "value")).evaluate
        (fallen.ofInstance monotoneCounter (counterAt 3)) ≠
          .ok ((counterAt 5).property "value") ∧
      monotoneCounters.checkEntities fallen =
        [{ kind := .invariant, name := "Counter_c1_invariant_1",
           expression := "this.value >= old(this.value)",
           passed := true, expected := some (.integer 3),
             actual := some (.integer 3) }] := by
  refine ⟨rfl, ?_, ?_⟩
  · intro same
    have values : (.ok (.integer 3) : Evaluated Value) = .ok (.integer 5) := same
    exact absurd (Value.integer.inj (Except.ok.inj values)) (by decide)
  · rfl

end Domain

end BehaviorContract
