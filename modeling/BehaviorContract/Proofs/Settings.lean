import BehaviorContract.Proofs.Text
import BehaviorContract.Settings

/-! Overrides of settings. Every key is read in one way: the text without the
white space around it must mean a value. The settings that come out, or the
first complaint, are said by what the texts mean and not by how they are read.
-/

namespace BehaviorContract.Settings

/-- A key that may override a value, with what a text under it means once no
white space stands around it. -/
structure Override (α : Type) where
  key : String
  Means : String → α → Prop

namespace Override

variable {α : Type} (override : Override α) (lookup : String → Option String)

def Says (text : String) (value : α) : Prop :=
  ∃ core, Text.Trims text core ∧ override.Means core value

/-- Says that a value becomes another one: the one that the key is given, or
itself where the key has no text. -/
def Changes (old new : α) : Prop :=
  (lookup override.key = none ∧ new = old) ∨
    ∃ text, lookup override.key = some text ∧ override.Says text new

def Accepts : Prop :=
  ∀ text, lookup override.key = some text → ∃ value, override.Says text value

def Refuses (text : String) : Prop :=
  lookup override.key = some text ∧ ∀ value, ¬ override.Says text value

def ReadBy (parse : String → Option α) : Prop :=
  ∀ text value, parse text = some value ↔ override.Says text value

variable {override lookup} {parse : String → Option α}

theorem ReadBy.bind_eq_ok_iff {β : Type} (reads : override.ReadBy parse) {old : α}
    {next : α → Except SettingsError β} {result : β} :
    overridden lookup override.key parse old >>= next = .ok result ↔
      ∃ new, override.Changes lookup old new ∧ next new = .ok result := by
  cases found : lookup override.key with
  | none => simp [overridden, Changes, found, bind, Except.bind]
  | some text =>
      simp only [overridden, Changes, found, reduceCtorEq, false_and, false_or,
        Option.some.injEq, exists_eq_left', ← reads text]
      cases parse text with
      | none => simp [bind, Except.bind]
      | some value => simp [bind, Except.bind]

theorem ReadBy.bind_eq_error_iff {β : Type} (reads : override.ReadBy parse) {old : α}
    {next : α → Except SettingsError β} {error : SettingsError} :
    overridden lookup override.key parse old >>= next = .error error ↔
      (∃ text, override.Refuses lookup text ∧ .unparsable override.key text = error) ∨
        ∃ new, override.Changes lookup old new ∧ next new = .error error := by
  cases found : lookup override.key with
  | none => simp [overridden, Changes, Refuses, found, bind, Except.bind]
  | some text =>
      simp only [overridden, Changes, Refuses, found, reduceCtorEq, false_and, false_or,
        Option.some.injEq, exists_eq_left', and_assoc, ← reads text]
      cases parse text with
      | none => simp [bind, Except.bind]
      | some value => simp [bind, Except.bind]

theorem exists_changes_iff (old : α) :
    (∃ new, override.Changes lookup old new) ↔ override.Accepts lookup := by
  cases found : lookup override.key with
  | none => simp [Changes, Accepts, found]
  | some text => simp [Changes, Accepts, found]

section Error

variable {β : Type} (reads : override.ReadBy parse) {old : α}
  {next : α → Except SettingsError β} {error : SettingsError}

include reads

theorem ReadBy.bind_of_changes {new : α} (changes : override.Changes lookup old new)
    (fails : next new = .error error) :
    overridden lookup override.key parse old >>= next = .error error :=
  reads.bind_eq_error_iff.2 (.inr ⟨new, changes, fails⟩)

theorem ReadBy.bind_of_accepts (accepts : override.Accepts lookup)
    (fails : ∀ new, next new = .error error) :
    overridden lookup override.key parse old >>= next = .error error := by
  obtain ⟨new, changes⟩ := (exists_changes_iff old).2 accepts
  exact reads.bind_of_changes changes (fails new)

theorem ReadBy.bind_of_refuses {text : String} (refuses : override.Refuses lookup text) :
    overridden lookup override.key parse old >>= next =
      .error (.unparsable override.key text) :=
  reads.bind_eq_error_iff.2 (.inl ⟨text, refuses, rfl⟩)

end Error

end Override

section Keys

def numberKey {α : Type} (key : String) (toNat : α → Nat) : Override α where
  key := key
  Means text value := Text.Writes text (toNat value)

theorem numberKey_readBy {α : Type} {key : String} {bound : Nat} {toNat : α → Nat}
    {ofNat : Nat → α} (below : ∀ value, toNat value < bound)
    (ofNat_toNat : ∀ value, ofNat (toNat value) = value)
    (toNat_ofNat : ∀ number, number < bound → toNat (ofNat number) = number) :
    (numberKey key toNat).ReadBy fun text => (overrideNat? bound text).map ofNat := by
  intro text value
  simp only [Override.Says, numberKey, Text.trims_iff, exists_eq_left',
    Option.map_eq_some_iff, overrideNat?, Text.natBelow?_eq_some_iff]
  constructor
  · rintro ⟨number, ⟨writes, small⟩, rfl⟩
    rw [toNat_ofNat number small]
    exact writes
  · intro writes
    exact ⟨toNat value, ⟨writes, below value⟩, ofNat_toNat value⟩

def timeoutKey : Override UInt64 :=
  numberKey "ISL_VERIFY_TIMEOUT_MS" UInt64.toNat

def thresholdKey : Override UInt8 :=
  numberKey "ISL_VERIFY_RISKY_THRESHOLD" UInt8.toNat

def concurrencyKey : Override UInt64 :=
  numberKey "ISL_VERIFY_MAX_CONCURRENCY" UInt64.toNat

def traceKey : Override Bool where
  key := "ISL_VERIFY_RECORD_TRACE"
  Means text value := text = if value then "true" else "false"

theorem timeoutKey_readBy :
    timeoutKey.ReadBy fun text => (overrideNat? UInt64.size text).map UInt64.ofNat :=
  numberKey_readBy UInt64.toNat_lt_size (fun _ => UInt64.ofNat_toNat) fun _ =>
    UInt64.toNat_ofNat_of_lt

theorem concurrencyKey_readBy :
    concurrencyKey.ReadBy fun text => (overrideNat? UInt64.size text).map UInt64.ofNat :=
  numberKey_readBy UInt64.toNat_lt_size (fun _ => UInt64.ofNat_toNat) fun _ =>
    UInt64.toNat_ofNat_of_lt

theorem thresholdKey_readBy :
    thresholdKey.ReadBy fun text => (overrideNat? UInt8.size text).map UInt8.ofNat :=
  numberKey_readBy UInt8.toNat_lt_size (fun _ => UInt8.ofNat_toNat) fun _ =>
    UInt8.toNat_ofNat_of_lt

theorem traceKey_readBy : traceKey.ReadBy overrideFlag? := by
  intro text value
  simp only [Override.Says, traceKey, Text.trims_iff, exists_eq_left', overrideFlag?]
  cases value with
  | false => grind
  | true => grind

end Keys

/-- Says which settings the overrides make of others. What no key names stays as
it was. -/
inductive Overridden (settings : Settings) (lookup : String → Option String) :
    Settings → Prop
  | replaced {timeoutMs maxConcurrency : UInt64} {riskyThreshold : UInt8}
      {recordTrace : Bool} :
      timeoutKey.Changes lookup settings.timeoutMs timeoutMs →
      thresholdKey.Changes lookup settings.policy.riskyThreshold riskyThreshold →
      concurrencyKey.Changes lookup settings.maxConcurrency maxConcurrency →
      traceKey.Changes lookup settings.recordTrace recordTrace →
      Overridden settings lookup
        { settings with
          policy := { settings.policy with riskyThreshold }
          timeoutMs
          maxConcurrency
          recordTrace }

structure Valid (settings : Settings) : Prop where
  threshold : settings.policy.riskyThreshold ≤ 100
  timeout : settings.timeoutMs ≠ 0
  concurrency : settings.maxConcurrency ≠ 0

inductive BreaksFirst (settings : Settings) : SettingsError → Prop
  | threshold : 100 < settings.policy.riskyThreshold →
      BreaksFirst settings (.thresholdTooHigh settings.policy.riskyThreshold)
  | timeout : settings.policy.riskyThreshold ≤ 100 → settings.timeoutMs = 0 →
    BreaksFirst settings .noTimeout
  | concurrency : settings.policy.riskyThreshold ≤ 100 → settings.timeoutMs ≠ 0 →
    settings.maxConcurrency = 0 →
      BreaksFirst settings .noConcurrency

/-- What overrides are refused for. A key is complained about only if all keys
before it are accepted, and a rule only if all keys are. -/
inductive FirstComplaint (settings : Settings) (lookup : String → Option String) :
    SettingsError → Prop
  | timeout {text : String} : timeoutKey.Refuses lookup text →
      FirstComplaint settings lookup (.unparsable timeoutKey.key text)
  | threshold {text : String} :
      timeoutKey.Accepts lookup → thresholdKey.Refuses lookup text →
      FirstComplaint settings lookup (.unparsable thresholdKey.key text)
  | concurrency {text : String} :
      timeoutKey.Accepts lookup → thresholdKey.Accepts lookup →
      concurrencyKey.Refuses lookup text →
        FirstComplaint settings lookup (.unparsable concurrencyKey.key text)
  | trace {text : String} : timeoutKey.Accepts lookup → thresholdKey.Accepts lookup →
    concurrencyKey.Accepts lookup →
      traceKey.Refuses lookup text →
        FirstComplaint settings lookup (.unparsable traceKey.key text)
  | rule {changed : Settings} {error : SettingsError} :
      Overridden settings lookup changed → changed.BreaksFirst error →
      FirstComplaint settings lookup error

section Rules

variable {settings : Settings}

theorem validate_eq_ok_iff : settings.validate = .ok () ↔ settings.Valid := by
  constructor
  · intro accepted
    unfold validate at accepted
    split_ifs at accepted with high noTimeout noConcurrency
    exact ⟨UInt8.not_lt.1 high, noTimeout, noConcurrency⟩
  · rintro ⟨threshold, timeout, concurrency⟩
    rw [validate, if_neg (UInt8.not_lt.2 threshold), if_neg timeout, if_neg concurrency]

theorem validate_eq_error_iff {error : SettingsError} :
    settings.validate = .error error ↔ settings.BreaksFirst error := by
  constructor
  · intro refused
    unfold validate at refused
    split_ifs at refused with high noTimeout noConcurrency
    · cases refused
      exact .threshold high
    · cases refused
      exact .timeout (UInt8.not_lt.1 high) noTimeout
    · cases refused
      exact .concurrency (UInt8.not_lt.1 high) noTimeout noConcurrency
  · intro breaks
    cases breaks with
    | threshold high => rw [validate, if_pos high]
    | timeout threshold noTimeout =>
        rw [validate, if_neg (UInt8.not_lt.2 threshold), if_pos noTimeout]
    | concurrency threshold timeout noConcurrency =>
        rw [validate, if_neg (UInt8.not_lt.2 threshold), if_neg timeout,
          if_pos noConcurrency]

end Rules

open Override

variable {settings : Settings} {lookup : String → Option String}

theorem exists_overridden_iff :
    (∃ changed, Overridden settings lookup changed) ↔
      timeoutKey.Accepts lookup ∧ thresholdKey.Accepts lookup ∧
        concurrencyKey.Accepts lookup ∧ traceKey.Accepts lookup := by
  constructor
  · rintro ⟨_, ⟨timeout, threshold, concurrency, trace⟩⟩
    exact ⟨(exists_changes_iff _).1 ⟨_, timeout⟩, (exists_changes_iff _).1 ⟨_, threshold⟩,
      (exists_changes_iff _).1 ⟨_, concurrency⟩, (exists_changes_iff _).1 ⟨_, trace⟩⟩
  · rintro ⟨timeout, threshold, concurrency, trace⟩
    obtain ⟨_, timeout⟩ := (exists_changes_iff settings.timeoutMs).2 timeout
    obtain ⟨_, threshold⟩ :=
      (exists_changes_iff settings.policy.riskyThreshold).2 threshold
    obtain ⟨_, concurrency⟩ := (exists_changes_iff settings.maxConcurrency).2 concurrency
    obtain ⟨_, trace⟩ := (exists_changes_iff settings.recordTrace).2 trace
    exact ⟨_, .replaced timeout threshold concurrency trace⟩

theorem bind_validate_eq_ok_iff {changed other : Settings} :
    (do changed.validate; return changed : Except SettingsError Settings) = .ok other ↔
      changed.Valid ∧ changed = other := by
  rw [← validate_eq_ok_iff]
  cases changed.validate with
  | error error => simp [bind, Except.bind]
  | ok => simp [bind, Except.bind, pure, Except.pure]

theorem bind_validate_eq_error_iff {changed : Settings} {error : SettingsError} :
    (do changed.validate; return changed : Except SettingsError Settings) = .error error ↔
      changed.BreaksFirst error := by
  rw [← validate_eq_error_iff]
  cases changed.validate with
  | error error => simp [bind, Except.bind]
  | ok => simp [bind, Except.bind, pure, Except.pure]

theorem withOverrides_eq_ok_iff {changed : Settings} :
    settings.withOverrides lookup = .ok changed ↔
      Overridden settings lookup changed ∧ changed.Valid := by
  constructor
  · intro accepted
    obtain ⟨timeoutMs, timeout, accepted⟩ := timeoutKey_readBy.bind_eq_ok_iff.1 accepted
    obtain ⟨riskyThreshold, threshold, accepted⟩ :=
      thresholdKey_readBy.bind_eq_ok_iff.1 accepted
    obtain ⟨maxConcurrency, concurrency, accepted⟩ :=
      concurrencyKey_readBy.bind_eq_ok_iff.1 accepted
    obtain ⟨recordTrace, trace, accepted⟩ := traceKey_readBy.bind_eq_ok_iff.1 accepted
    obtain ⟨valid, rfl⟩ := bind_validate_eq_ok_iff.1 accepted
    exact ⟨.replaced timeout threshold concurrency trace, valid⟩
  · rintro ⟨⟨timeout, threshold, concurrency, trace⟩, valid⟩
    apply timeoutKey_readBy.bind_eq_ok_iff.2 ⟨_, timeout, ?_⟩
    apply thresholdKey_readBy.bind_eq_ok_iff.2 ⟨_, threshold, ?_⟩
    apply concurrencyKey_readBy.bind_eq_ok_iff.2 ⟨_, concurrency, ?_⟩
    apply traceKey_readBy.bind_eq_ok_iff.2 ⟨_, trace, ?_⟩
    exact bind_validate_eq_ok_iff.2 ⟨valid, rfl⟩

theorem firstComplaint_of_withOverrides {error : SettingsError}
    (refused : settings.withOverrides lookup = .error error) :
    FirstComplaint settings lookup error := by
  obtain ⟨text, refuses, rfl⟩ | ⟨_, timeout, refused⟩ :=
    timeoutKey_readBy.bind_eq_error_iff.1 refused
  · exact .timeout refuses
  have acceptsTimeout := (exists_changes_iff _).1 ⟨_, timeout⟩
  obtain ⟨text, refuses, rfl⟩ | ⟨_, threshold, refused⟩ :=
    thresholdKey_readBy.bind_eq_error_iff.1 refused
  · exact .threshold acceptsTimeout refuses
  have acceptsThreshold := (exists_changes_iff _).1 ⟨_, threshold⟩
  obtain ⟨text, refuses, rfl⟩ | ⟨_, concurrency, refused⟩ :=
    concurrencyKey_readBy.bind_eq_error_iff.1 refused
  · exact .concurrency acceptsTimeout acceptsThreshold refuses
  have acceptsConcurrency := (exists_changes_iff _).1 ⟨_, concurrency⟩
  obtain ⟨text, refuses, rfl⟩ | ⟨_, trace, refused⟩ :=
    traceKey_readBy.bind_eq_error_iff.1 refused
  · exact .trace acceptsTimeout acceptsThreshold acceptsConcurrency refuses
  · exact .rule (.replaced timeout threshold concurrency trace)
      (bind_validate_eq_error_iff.1 refused)

theorem FirstComplaint.withOverrides_eq_error {error : SettingsError}
    (complaint : FirstComplaint settings lookup error) :
    settings.withOverrides lookup = .error error := by
  cases complaint with
  | timeout refuses => exact timeoutKey_readBy.bind_of_refuses refuses
  | threshold timeout refuses =>
      apply timeoutKey_readBy.bind_of_accepts timeout
      intro timeoutMs
      exact thresholdKey_readBy.bind_of_refuses refuses
  | concurrency timeout threshold refuses =>
      apply timeoutKey_readBy.bind_of_accepts timeout
      intro timeoutMs
      apply thresholdKey_readBy.bind_of_accepts threshold
      intro riskyThreshold
      exact concurrencyKey_readBy.bind_of_refuses refuses
  | trace timeout threshold concurrency refuses =>
      apply timeoutKey_readBy.bind_of_accepts timeout
      intro timeoutMs
      apply thresholdKey_readBy.bind_of_accepts threshold
      intro riskyThreshold
      apply concurrencyKey_readBy.bind_of_accepts concurrency
      intro maxConcurrency
      exact traceKey_readBy.bind_of_refuses refuses
  | rule overridden breaks =>
      obtain ⟨timeout, threshold, concurrency, trace⟩ := overridden
      apply timeoutKey_readBy.bind_of_changes timeout
      apply thresholdKey_readBy.bind_of_changes threshold
      apply concurrencyKey_readBy.bind_of_changes concurrency
      apply traceKey_readBy.bind_of_changes trace
      exact bind_validate_eq_error_iff.2 breaks

theorem withOverrides_exact (settings : Settings) (lookup : String → Option String) :
    ((∃ changed, Overridden settings lookup changed) ↔
      timeoutKey.Accepts lookup ∧ thresholdKey.Accepts lookup ∧
        concurrencyKey.Accepts lookup ∧ traceKey.Accepts lookup) ∧
    (∀ changed, settings.withOverrides lookup = .ok changed ↔
      Overridden settings lookup changed ∧ changed.Valid) ∧
    ∀ error, settings.withOverrides lookup = .error error ↔
      FirstComplaint settings lookup error := by
  refine ⟨exists_overridden_iff, ?_, ?_⟩
  · intro changed
    exact withOverrides_eq_ok_iff
  · intro error
    exact ⟨firstComplaint_of_withOverrides, FirstComplaint.withOverrides_eq_error⟩

def idle : Settings where
  maxConcurrency := 0

def overridesWith (threshold key : String) : Option String :=
  if key = "ISL_VERIFY_TIMEOUT_MS" then some " +0250\n"
  else if key = "ISL_VERIFY_RISKY_THRESHOLD" then some threshold
  else if key = "ISL_VERIFY_MAX_CONCURRENCY" then some "4"
  else none

/-- Overrides may mend what is wrong with the settings and may break another
rule, and a number that does not fit is not read. -/
theorem withOverrides_exact_idle :
    (∃ changed, Overridden idle (overridesWith "100") changed ∧ changed.Valid ∧
      changed.timeoutMs = 250) ∧
      FirstComplaint idle (overridesWith "101") (.thresholdTooHigh 101) ∧
      FirstComplaint idle (overridesWith "256")
        (.unparsable "ISL_VERIFY_RISKY_THRESHOLD" "256") := by
  refine ⟨?_, ((withOverrides_exact _ _).2.2 _).1 rfl,
    ((withOverrides_exact _ _).2.2 _).1 rfl⟩
  obtain ⟨overridden, valid⟩ :=
    ((withOverrides_exact idle (overridesWith "100")).2.1 _).1 rfl
  exact ⟨_, overridden, valid, rfl⟩

end BehaviorContract.Settings
