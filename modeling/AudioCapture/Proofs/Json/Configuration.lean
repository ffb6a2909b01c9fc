import Mathlib.Tactic.IntervalCases
import AudioCapture.Proofs.Json.Objects
import AudioCapture.Session.Basic

/-!
# Configurations from JSON

What a configuration is that comes from the text of an object: the default one with the fields that
the object sets, if the object holds nothing else (`ConfigSetting`), and refused otherwise. What
comes out is acceptable to a session.

* `foldlM_meet_eq_some_iff` — the members that can be met one after the other are settings;
* `ofJson_object` — texts of objects.
-/

namespace AudioCapture

open Json

/-- A field of a configuration with a value for it. -/
inductive ConfigSetting where
  | waitTimeoutMs (value : UInt64)
  | joinRetryBound (value : UInt32)
  | maxTransportBytes (value : UInt64)
  | mmapMode (value : Bool)
  deriving DecidableEq, Repr

namespace ConfigSetting

def key : ConfigSetting → String
  | waitTimeoutMs _ => "wait_timeout_ms"
  | joinRetryBound _ => "join_retry_bound"
  | maxTransportBytes _ => "max_transport_bytes"
  | mmapMode _ => "mmap_mode"

def value : ConfigSetting → Value
  | waitTimeoutMs value => .number false value.toNat []
  | joinRetryBound value => .number false value.toNat []
  | maxTransportBytes value => .number false value.toNat []
  | mmapMode value => .flag value

/-- The setting as a member of an object. -/
def member (setting : ConfigSetting) : String × Value := (setting.key, setting.value)

/-- The place of its field in the record. -/
def place : ConfigSetting → Nat
  | waitTimeoutMs _ => 0
  | joinRetryBound _ => 1
  | maxTransportBytes _ => 2
  | mmapMode _ => 3

/-- What its field then holds. -/
def datum : ConfigSetting → Datum
  | waitTimeoutMs value => .integer value.toNat
  | joinRetryBound value => .integer value.toNat
  | maxTransportBytes value => .integer value.toNat
  | mmapMode value => .flag value

def apply (config : SessionConfig) : ConfigSetting → SessionConfig
  | waitTimeoutMs value => { config with waitTimeoutMs := value }
  | joinRetryBound value => { config with joinRetryBound := value }
  | maxTransportBytes value => { config with maxTransportBytes := value }
  | mmapMode value => { config with mmapMode := value }

variable {setting : ConfigSetting} {key : String} {value : Value} {index : Nat} {datum : Datum}

theorem findIdx?_key (setting : ConfigSetting) :
    SessionConfig.record.fields.findIdx? (·.name == setting.key) = some setting.place := by
  cases setting <;> rfl

/-- A setting is one that its field holds. -/
theorem held?_value (setting : ConfigSetting) : ∃ field,
    SessionConfig.record.fields[setting.place]? = some field ∧
      setting.value.held? field.scalar = some setting.datum := by
  cases setting with
  | waitTimeoutMs value => exact ⟨_, rfl, if_pos (word64_holds value)⟩
  | joinRetryBound value => exact ⟨_, rfl, if_pos (word32_holds value)⟩
  | maxTransportBytes value => exact ⟨_, rfl, if_pos (size_holds value)⟩
  | mmapMode value => exact ⟨_, rfl, rfl⟩

/-- A natural number is what an unsigned field holds. -/
theorem natural_of_held? {kind : IntegerKind} (size : Nat) (unsigned : kind.low = 0)
    (narrow : kind.high < size) (held : value.held? (.integer kind) = some datum) :
    ∃ whole : Nat, value = .number false whole [] ∧ whole < size ∧ datum = .integer whole := by
  obtain ⟨_, whole, same, rfl, holds, rfl⟩ | ⟨_, whole, same, rfl, above, holds, rfl⟩ |
    ⟨b, same, -⟩ := Value.held?_eq_some held
  · cases same
    have high := holds.2
    exact ⟨whole, rfl, by omega, rfl⟩
  · cases same
    have low := holds.1
    omega
  · cases same

/-- What a field holds is a setting. -/
theorem exists_of_held? {field : Field}
    (known : SessionConfig.record.fields.findIdx? (·.name == key) = some index)
    (here : SessionConfig.record.fields[index]? = some field)
    (held : value.held? field.scalar = some datum) :
    ∃ setting : ConfigSetting, setting.member = (key, value) ∧ setting.place = index ∧
      setting.datum = datum := by
  obtain ⟨below, named, -⟩ := List.findIdx?_eq_some_iff_getElem.1 known
  have count : index < 4 := below
  rw [List.getElem?_eq_getElem below] at here
  interval_cases index
  · cases here
    obtain rfl : "wait_timeout_ms" = key := beq_iff_eq.1 named
    obtain ⟨whole, rfl, small, rfl⟩ := natural_of_held? UInt64.size rfl (by decide) held
    have same : (UInt64.ofNat whole).toNat = whole := UInt64.toNat_ofNat_of_lt' small
    exact ⟨.waitTimeoutMs (.ofNat whole),
      by simp only [member, ConfigSetting.key, ConfigSetting.value, same], rfl,
      by simp only [ConfigSetting.datum, same]⟩
  · cases here
    obtain rfl : "join_retry_bound" = key := beq_iff_eq.1 named
    obtain ⟨whole, rfl, small, rfl⟩ := natural_of_held? UInt32.size rfl (by decide) held
    have same : (UInt32.ofNat whole).toNat = whole := UInt32.toNat_ofNat_of_lt' small
    exact ⟨.joinRetryBound (.ofNat whole),
      by simp only [member, ConfigSetting.key, ConfigSetting.value, same], rfl,
      by simp only [ConfigSetting.datum, same]⟩
  · cases here
    obtain rfl : "max_transport_bytes" = key := beq_iff_eq.1 named
    obtain ⟨whole, rfl, small, rfl⟩ := natural_of_held? UInt64.size rfl (by decide) held
    have same : (UInt64.ofNat whole).toNat = whole := UInt64.toNat_ofNat_of_lt' small
    exact ⟨.maxTransportBytes (.ofNat whole),
      by simp only [member, ConfigSetting.key, ConfigSetting.value, same], rfl,
      by simp only [ConfigSetting.datum, same]⟩
  · cases here
    obtain rfl : "mmap_mode" = key := beq_iff_eq.1 named
    obtain ⟨_, _, same, -⟩ | ⟨_, _, same, -⟩ | ⟨b, -, rfl, rfl⟩ := Value.held?_eq_some held
    · cases same
    · cases same
    · exact ⟨.mmapMode b, rfl, rfl, rfl⟩

end ConfigSetting

/-! ## Settings met one after the other -/

/-- The fields of a configuration that have been met. -/
structure ConfigDraft where
  waitTimeoutMs : Option UInt64 := none
  joinRetryBound : Option UInt32 := none
  maxTransportBytes : Option UInt64 := none
  mmapMode : Option Bool := none

namespace ConfigDraft

variable {draft : ConfigDraft} {setting other : ConfigSetting} {settings : List ConfigSetting}
  {members : List (String × Value)}

/-- The configuration with the defaults for the other fields. -/
def config (draft : ConfigDraft) : SessionConfig :=
  let base : SessionConfig := {}
  { waitTimeoutMs := draft.waitTimeoutMs.getD base.waitTimeoutMs
    joinRetryBound := draft.joinRetryBound.getD base.joinRetryBound
    maxTransportBytes := draft.maxTransportBytes.getD base.maxTransportBytes
    mmapMode := draft.mmapMode.getD base.mmapMode }

def slots (draft : ConfigDraft) : Json.Slots :=
  [draft.waitTimeoutMs.map fun value => .integer value.toNat,
    draft.joinRetryBound.map fun value => .integer value.toNat,
    draft.maxTransportBytes.map fun value => .integer value.toNat,
    draft.mmapMode.map .flag]

def put (draft : ConfigDraft) : ConfigSetting → ConfigDraft
  | .waitTimeoutMs value => { draft with waitTimeoutMs := some value }
  | .joinRetryBound value => { draft with joinRetryBound := some value }
  | .maxTransportBytes value => { draft with maxTransportBytes := some value }
  | .mmapMode value => { draft with mmapMode := some value }

/-- Whether the field of a setting has been met. -/
def has (draft : ConfigDraft) : ConfigSetting → Bool
  | .waitTimeoutMs _ => draft.waitTimeoutMs.isSome
  | .joinRetryBound _ => draft.joinRetryBound.isSome
  | .maxTransportBytes _ => draft.maxTransportBytes.isSome
  | .mmapMode _ => draft.mmapMode.isSome

theorem config_put : (draft.put setting).config = setting.apply draft.config := by
  cases setting <;> rfl

theorem config_foldl :
    (settings.foldl put draft).config = settings.foldl ConfigSetting.apply draft.config := by
  induction settings generalizing draft with
  | nil => rfl
  | cons setting settings ih => rw [List.foldl_cons, List.foldl_cons, ih, config_put]

theorem has_put : (draft.put setting).has other = false ↔
    other.key ≠ setting.key ∧ draft.has other = false := by
  cases setting <;> cases other <;> simp [put, has, ConfigSetting.key]

theorem complete_slots : complete SessionConfig.record.fields draft.slots =
    .ok [.integer draft.config.waitTimeoutMs.toNat, .integer draft.config.joinRetryBound.toNat,
      .integer draft.config.maxTransportBytes.toNat, .flag draft.config.mmapMode] := by
  rcases draft with ⟨_ | _, _ | _, _ | _, _ | _⟩ <;> rfl

theorem slots_put :
    (draft.put setting).slots = draft.slots.set setting.place (some setting.datum) := by
  cases setting <;> rfl

theorem slots_place : draft.slots[setting.place]? = some none ↔ draft.has setting = false := by
  cases setting <;> simp [slots, ConfigSetting.place, has]

/-- The members that can be met next are the settings of fields that have not been met. -/
theorem meet_eq_some_iff {member : String × Value} {next : Json.Slots} :
    SessionConfig.record.meet draft.slots member = some next ↔
      ∃ setting : ConfigSetting, setting.member = member ∧ draft.has setting = false ∧
        next = (draft.put setting).slots := by
  constructor
  · intro met
    unfold Record.meet at met
    split at met
    · cases met
    · rename_i index known
      split at met
      · rename_i field hollow here
        obtain ⟨datum, held, rfl⟩ := Option.map_eq_some_iff.1 met
        obtain ⟨setting, same, rfl, rfl⟩ := ConfigSetting.exists_of_held? known here held
        exact ⟨setting, same, slots_place.1 hollow, slots_put.symm⟩
      · cases met
  · rintro ⟨setting, rfl, unmet, rfl⟩
    obtain ⟨field, here, held⟩ := setting.held?_value
    simp only [Record.meet, ConfigSetting.member, setting.findIdx?_key, slots_place.2 unmet, here,
      held, slots_put, Option.map_some]

/-- The members that can be met one after the other are settings of different fields. -/
theorem foldlM_meet_eq_some_iff {next : Json.Slots} :
    members.foldlM SessionConfig.record.meet draft.slots = some next ↔
      ∃ settings : List ConfigSetting, settings.map (·.member) = members ∧
        (settings.map (·.key)).Nodup ∧ (∀ setting ∈ settings, draft.has setting = false) ∧
        next = (settings.foldl put draft).slots := by
  induction members generalizing draft with
  | nil =>
      simp only [List.foldlM_nil, List.map_eq_nil_iff]
      constructor
      · rintro same
        cases same
        exact ⟨[], rfl, List.nodup_nil, by simp, rfl⟩
      · rintro ⟨settings, rfl, -, -, rfl⟩
        rfl
  | cons member members ih =>
      simp only [List.foldlM_cons, Option.bind_eq_bind, Option.bind_eq_some_iff, meet_eq_some_iff]
      constructor
      · rintro ⟨_, ⟨setting, rfl, unmet, rfl⟩, rest⟩
        obtain ⟨settings, rfl, apart, others, rfl⟩ := ih.1 rest
        refine ⟨setting :: settings, rfl, List.nodup_cons.2 ⟨?_, apart⟩, ?_, rfl⟩
        · intro again
          obtain ⟨other, member, same⟩ := List.mem_map.1 again
          exact (has_put.1 (others other member)).1 same
        · rintro other member
          rcases List.mem_cons.1 member with rfl | member
          · exact unmet
          · exact (has_put.1 (others other member)).2
      · rintro ⟨settings, same, apart, unmet, rfl⟩
        cases settings with
        | nil => cases same
        | cons setting settings =>
            cases same
            obtain ⟨alone, apart⟩ := List.nodup_cons.1 apart
            refine ⟨_, ⟨setting, rfl, unmet setting List.mem_cons_self, rfl⟩, ?_⟩
            refine ih.2 ⟨settings, rfl, apart, fun other member => has_put.2 ⟨?_, ?_⟩, rfl⟩
            · intro same
              exact alone (List.mem_map.2 ⟨other, member, same⟩)
            · exact unmet other (List.mem_cons_of_mem setting member)

end ConfigDraft

/-! ## Texts of configurations -/

namespace SessionConfig

variable {config : SessionConfig} {members : List (String × Value)} {text : String}

theorem plain_record : record.Plain where
  closed := rfl
  scalars := by decide

/-- An object makes up the data of a configuration if its members are settings of different
fields. -/
theorem data?_eq_some_iff {data : List Datum} : record.data? members = some data ↔
    ∃ settings : List ConfigSetting, settings.map (·.member) = members ∧
      (settings.map (·.key)).Nodup ∧
      .record data = JsonForm.toData (settings.foldl ConfigSetting.apply {}) := by
  have fresh : record.data? members = (members.foldlM record.meet ({} : ConfigDraft).slots).bind
      fun slots => (complete record.fields slots).toOption := rfl
  rw [fresh, Option.bind_eq_some_iff]
  constructor
  · rintro ⟨slots, met, full⟩
    obtain ⟨settings, same, apart, -, rfl⟩ := ConfigDraft.foldlM_meet_eq_some_iff.1 met
    rw [ConfigDraft.complete_slots, ConfigDraft.config_foldl] at full
    cases full
    exact ⟨settings, same, apart, rfl⟩
  · rintro ⟨settings, same, apart, made⟩
    refine ⟨_, ConfigDraft.foldlM_meet_eq_some_iff.2 ⟨settings, same, apart, ?_, rfl⟩, ?_⟩
    · intro setting _
      cases setting <;> rfl
    · rw [ConfigDraft.complete_slots, ConfigDraft.config_foldl]
      cases made
      rfl

/-- What becomes of a configuration that was read: the first limit that is zero decides. -/
theorem ofJson_of_parse (parsed : JsonForm.parse SessionConfig text = .ok config) :
    ofJson text =
      if config.waitTimeoutMs = 0 then .error (.invalidArguments "wait timeout must be positive")
      else if config.joinRetryBound = 0 then
        .error (.invalidArguments "join retry bound must be positive")
      else if config.maxTransportBytes = 0 then
        .error (.invalidArguments "max transport size must be positive")
      else .ok config := by
  simp only [ofJson, parsed, fault?]
  by_cases wait : config.waitTimeoutMs = 0
  · simp [wait, ConfigFault.message]
  by_cases join : config.joinRetryBound = 0
  · simp [wait, join, ConfigFault.message]
  by_cases size : config.maxTransportBytes = 0
  · simp [wait, join, size, ConfigFault.message]
  · simp [wait, join, size]

theorem fault?_of_ofJson (read : ofJson text = .ok config) : config.fault? = none := by
  unfold ofJson at read
  split at read
  · cases read
  · split at read
    · cases read
    · rename_i sound
      cases read
      exact sound

/-- The largest numbers that the limits of a configuration can be. -/
def bounds : List (String × Nat) :=
  [("wait_timeout_ms", 18446744073709551615), ("join_retry_bound", 4294967295),
    ("max_transport_bytes", 18446744073709551615)]

/-- Why a member does not belong to a configuration. -/
inductive Misfit : String × Value → Prop
  | unknown {key : String} {value : Value} : key ∉ record.fieldNames → Misfit (key, value)
  /-- Another type than a flag. -/
  | notFlag {value : Value} : (∀ b, value ≠ .flag b) → Misfit ("mmap_mode", value)
  /-- Another type than a number, a sign, decimals or an exponent. -/
  | notNatural {key : String} {bound : Nat} {value : Value} : (key, bound) ∈ bounds →
      (∀ whole, value ≠ .number false whole []) → Misfit (key, value)
  | tooLarge {key : String} {bound whole : Nat} : (key, bound) ∈ bounds → bound < whole →
      Misfit (key, .number false whole [])

theorem key_mem_fieldNames (setting : ConfigSetting) : setting.key ∈ record.fieldNames := by
  cases setting <;> simp [ConfigSetting.key, Record.fieldNames, record]

/-- The number of a setting is natural and within the bounds of its field. -/
theorem value_of_bounded {setting : ConfigSetting} {bound : Nat}
    (bounded : (setting.key, bound) ∈ bounds) :
    ∃ whole : Nat, setting.value = .number false whole [] ∧ whole ≤ bound := by
  cases setting with
  | waitTimeoutMs value =>
      have small := value.toNat_lt
      obtain rfl : bound = 18446744073709551615 := by
        simpa [bounds, ConfigSetting.key] using bounded
      exact ⟨value.toNat, rfl, by omega⟩
  | joinRetryBound value =>
      have small := value.toNat_lt
      obtain rfl : bound = 4294967295 := by simpa [bounds, ConfigSetting.key] using bounded
      exact ⟨value.toNat, rfl, by omega⟩
  | maxTransportBytes value =>
      have small := value.toNat_lt
      obtain rfl : bound = 18446744073709551615 := by
        simpa [bounds, ConfigSetting.key] using bounded
      exact ⟨value.toNat, rfl, by omega⟩
  | mmapMode value => simp [bounds, ConfigSetting.key] at bounded

/-- A setting is a member that belongs to a configuration. -/
theorem not_misfit (setting : ConfigSetting) : ¬ Misfit setting.member := by
  generalize same : setting.member = member
  intro misfit
  cases misfit with
  | unknown strange =>
      cases same
      exact strange (key_mem_fieldNames setting)
  | notFlag other =>
      cases setting with
      | mmapMode b =>
          cases same
          exact other b rfl
      | _ => simp [ConfigSetting.member, ConfigSetting.key] at same
  | notNatural bounded other =>
      cases same
      obtain ⟨whole, natural, -⟩ := value_of_bounded bounded
      exact other whole natural
  | tooLarge bounded large =>
      obtain ⟨rfl, number⟩ := Prod.mk.inj same
      obtain ⟨whole, natural, small⟩ := value_of_bounded bounded
      rw [number] at natural
      cases natural
      omega

/-- The text of an object that sets some of the fields, in any order and written in any way, gives
the default configuration with these fields replaced, or the words for the first limit that is zero.
An object with a member that does not belong there, or with a key that comes again, is refused. What
is given is a configuration that a session accepts. -/
theorem ofJson_object :
    (∀ (settings : List ConfigSetting) (text : String), (settings.map (·.key)).Nodup →
      Document (.object (settings.map (·.member))) text →
      let config := settings.foldl ConfigSetting.apply {}
      ofJson text =
        if config.waitTimeoutMs = 0 then .error (.invalidArguments "wait timeout must be positive")
        else if config.joinRetryBound = 0 then
          .error (.invalidArguments "join retry bound must be positive")
        else if config.maxTransportBytes = 0 then
          .error (.invalidArguments "max transport size must be positive")
        else .ok config) ∧
    (∀ (members : List (String × Value)) (text : String), Document (.object members) text →
      (∃ member ∈ members, Misfit member) ∨ ¬ (members.map (·.1)).Nodup →
      ∃ why, ofJson text = .error (.invalidArguments why)) ∧
    ∀ (text : String) (config : SessionConfig), ofJson text = .ok config →
      config.fault? = none ∧ ∀ (σ : Type) (source : AudioSource σ) (device : σ),
        Session.create source device config = .ok { config, source, device } := by
  refine ⟨?_, ?_, ?_⟩
  · intro settings text apart written
    obtain ⟨data, made⟩ : ∃ data, .record data =
        JsonForm.toData (settings.foldl ConfigSetting.apply {}) := ⟨_, rfl⟩
    have due := data?_eq_some_iff.2 ⟨settings, rfl, apart, made⟩
    have got := (read_document plain_record written).1 data due
    apply ofJson_of_parse
    show (read (.record record) text).map JsonForm.ofData = _
    rw [got, made]
    exact congrArg Except.ok (JsonForm.ofData_toData _)
  · intro members text written misfit
    have refused : record.data? members = none := by
      rw [Option.eq_none_iff_forall_ne_some]
      intro data due
      obtain ⟨settings, rfl, apart, -⟩ := data?_eq_some_iff.1 due
      rcases misfit with ⟨member, among, misfit⟩ | again
      · obtain ⟨setting, -, rfl⟩ := List.mem_map.1 among
        exact not_misfit setting misfit
      · rw [List.map_map] at again
        exact again apart
    obtain ⟨fault, failed⟩ := (read_document plain_record written).2 refused
    have parsed : JsonForm.parse SessionConfig text = .error fault := by
      show (read (.record record) text).map JsonForm.ofData = _
      rw [failed]
      rfl
    exact ⟨"bad session config: " ++ fault.message, by simp only [ofJson, parsed]⟩
  · intro text config read
    have sound := fault?_of_ofJson read
    refine ⟨sound, fun σ source device => ?_⟩
    simp only [Session.create, sound]

/-- Blanks, an escape in a key and another order of the fields make no difference. -/
theorem ofJson_object_escaped :
    Document (.object [("mmap_mode", .flag true), ("wait_timeout_ms", .number false 0 [])])
      "\t\x7b \"mmap\\u005fmode\" : true,\n\"wait_timeout_ms\":0\x7d\r\n" ∧
    ofJson "\t\x7b \"mmap\\u005fmode\" : true,\n\"wait_timeout_ms\":0\x7d\r\n" =
      .error (.invalidArguments "wait timeout must be positive") := by
  have escaped : Spells ['\\', 'u', '0', '0', '5', 'f'] ['_'] :=
    .unit (u := 0x5f) (by decide) (by decide) .nil
  have mode : Spells "mmap\\u005fmode".toList "mmap_mode".toList :=
    ((spells_self (by simp) : Spells "mmap".toList "mmap".toList).append escaped).append
      (spells_self (by simp) : Spells "mode".toList "mode".toList)
  have wait : Spells "wait_timeout_ms".toList "wait_timeout_ms".toList := spells_self (by simp)
  have first : Key "mmap_mode"
      ([' '] ++ '"' :: ("mmap\\u005fmode".toList ++ '"' :: ([' '] ++ ':' :: [' ']))) :=
    .mk (by decide) mode (by decide) (by decide)
  have second : Key "wait_timeout_ms"
      (['\n'] ++ '"' :: ("wait_timeout_ms".toList ++ '"' :: ([] ++ ':' :: []))) :=
    .mk (by decide) wait (by decide) (by decide)
  have nothing : Gap [] := by decide
  have members := Members.more first (Writes.flag true) nothing
    (.last second (Writes.number false 0 .none .none) nothing)
  have written : Document
      (.object [("mmap_mode", .flag true), ("wait_timeout_ms", .number false 0 [])])
      "\t\x7b \"mmap\\u005fmode\" : true,\n\"wait_timeout_ms\":0\x7d\r\n" :=
    ⟨['\t'], _, ['\r', '\n'], by decide, .object members, by decide, by decide⟩
  obtain ⟨set, -⟩ := ofJson_object
  exact ⟨written, set [.mmapMode true, .waitTimeoutMs 0] _ (by decide) written⟩

end SessionConfig

end AudioCapture
