import MultibusGateway.Core.ChannelRecords

/-! The channels and their bindings through a boot: the store, the component and the registry
hold the same channels. -/

namespace Application
open ByteString Preferences Modbus KeyedList

namespace Stores

theorem kSlots_once : kSlots.Nodup := by decide

theorem mem_kSlots (slot : UInt8) : slot ∈ kSlots ↔ slot < kCompatibilitySlotCount := by
  rw [kSlots, List.mem_map, UInt8.lt_iff_toNat_lt]
  constructor
  · rintro ⟨n, inside, rfl⟩
    have bound := List.mem_range.mp inside
    rw [UInt8.toNat_ofNat']
    exact Nat.lt_of_le_of_lt (Nat.mod_le _ _) bound
  · intro inside
    exact ⟨slot.toNat, List.mem_range.mpr inside, UInt8.ofNat_toNat⟩

/-! Loading. -/

theorem loadSlot_valid (beyond : UInt8) (flash : Flash Nat Bytes) (slot : UInt8)
    (config : ChannelConfig) (found : loadSlot beyond flash slot = some (some config)) :
    config.slot = slot ∧ validChannelConfig config = true := by
  unfold loadSlot at found
  split at found
  · cases found
  · cases found
  · split at found
    · cases found
    · split at found
      · cases found
      · rename_i decoded
        split at found
        · cases found
        · rename_i own
          obtain rfl := Option.some.inj (Option.some.inj found)
          refine ⟨not_not.mp own, ?_⟩
          unfold decodeChannelRecord at decoded
          split at decoded
          · cases decoded
          · split at decoded
            · cases decoded
            · dsimp only at decoded
              split at decoded
              · cases decoded
              · split at decoded
                · rename_i valid
                  rw [← Option.some.inj decoded]
                  exact valid
                · cases decoded

theorem loadSlots_spec (beyond : UInt8) (flash : Flash Nat Bytes) (slots : List UInt8)
    (once : slots.Nodup) (stored : List ChannelConfig)
    (loaded : loadSlots beyond flash slots = some stored) :
    Distinct ChannelConfig.slot stored ∧
    (∀ config ∈ stored, validChannelConfig config = true) ∧
    (∀ slot ∈ slots, loadSlot beyond flash slot = some (lookup ChannelConfig.slot slot stored)) ∧
    (∀ slot, slot ∉ slots → lookup ChannelConfig.slot slot stored = none) := by
  induction slots generalizing stored with
  | nil =>
    obtain rfl := Option.some.inj loaded
    exact ⟨List.nodup_nil, by simp, by simp, fun _ _ => rfl⟩
  | cons first rest ih =>
    obtain ⟨absent, once⟩ := List.nodup_cons.mp once
    unfold loadSlots at loaded
    split at loaded
    · rename_i found channels here there
      obtain rfl := Option.some.inj loaded
      obtain ⟨distinct, valid, within, outside⟩ := ih once channels there
      have new := outside first absent
      cases found with
      | none =>
        refine ⟨distinct, valid, ?_, ?_⟩
        · intro slot member
          rcases List.mem_cons.mp member with rfl | member
          · rw [here, Option.toList_none, List.nil_append, new]
          · exact within slot member
        · intro slot other
          rw [List.mem_cons, not_or] at other
          exact outside slot other.2
      | some config =>
        obtain ⟨own, fit⟩ := loadSlot_valid beyond flash first config here
        rw [Option.toList_some, List.singleton_append]
        refine ⟨?_, ?_, ?_, ?_⟩
        · unfold Distinct at distinct ⊢
          rw [List.map_cons, List.nodup_cons, own]
          exact ⟨(lookup_eq_none_iff _ _ _).mp new, distinct⟩
        · exact List.forall_mem_cons.mpr ⟨fit, valid⟩
        · intro slot member
          rw [lookup_cons, own]
          by_cases same : first = slot
          · rw [if_pos same, ← same, here]
          · rw [if_neg same]
            exact within slot ((List.mem_cons.mp member).resolve_left fun equal => same equal.symm)
        · intro slot other
          rw [List.mem_cons, not_or] at other
          rw [lookup_cons, own, if_neg fun same => other.1 same.symm]
          exact outside slot other.2
    · cases loaded

theorem loadSlots_isSome (beyond : UInt8) (flash : Flash Nat Bytes) (slots : List UInt8)
    (each : ∀ slot ∈ slots, (loadSlot beyond flash slot).isSome = true) :
    ∃ stored, loadSlots beyond flash slots = some stored := by
  induction slots with
  | nil => exact ⟨[], rfl⟩
  | cons first rest ih =>
    obtain ⟨here, there⟩ := List.forall_mem_cons.mp each
    obtain ⟨channels, loaded⟩ := ih there
    obtain ⟨found, held⟩ := Option.isSome_iff_exists.mp here
    refine ⟨found.toList ++ channels, ?_⟩
    rw [loadSlots, held, loaded]

/-! Saving. -/

theorem saveModbusChannel_cases (config : ChannelConfig) (s : Stores) :
    ∃ flash outcomes,
      (s.saveModbusChannel config).1 = { s with channels := flash, outcomes := outcomes } ∧
      (s.saveModbusChannel config).2 = (validChannelConfig config && (draw s.outcomes).1) ∧
      flash = if (s.saveModbusChannel config).2
        then Function.update s.channels config.slot.toNat (some (channelRecord config))
        else s.channels := by
  unfold saveModbusChannel
  cases validChannelConfig config with
  | false => exact ⟨s.channels, s.outcomes, rfl, rfl, rfl⟩
  | true =>
    simp only [Bool.not_true, Bool.false_eq_true, if_false]
    rw [putAll_single]
    refine ⟨_, _, rfl, ?_⟩
    cases (draw s.outcomes).1 with
    | false => exact ⟨rfl, rfl⟩
    | true => exact ⟨rfl, rfl⟩

theorem removeModbusChannel_cases (slot : UInt8) (s : Stores) :
    ∃ flash outcomes,
      (s.removeModbusChannel slot).1 = { s with channels := flash, outcomes := outcomes } ∧
      flash = if (s.removeModbusChannel slot).2
        then Function.update s.channels slot.toNat none else s.channels := by
  unfold removeModbusChannel
  split
  · exact ⟨s.channels, s.outcomes, rfl, rfl⟩
  · split
    · rename_i missing
      refine ⟨s.channels, s.outcomes, rfl, ?_⟩
      rw [Bool.not_eq_true', isKey, Option.isSome_eq_false_iff, Option.isNone_iff_eq_none]
        at missing
      rw [if_pos rfl, ← missing, Function.update_eq_self]
    · obtain ⟨removed, rest⟩ := draw s.outcomes
      cases removed with
      | true => exact ⟨_, rest, rfl, rfl⟩
      | false => exact ⟨s.channels, rest, rfl, rfl⟩

theorem loadSlot_update (beyond : UInt8) (flash : Flash Nat Bytes) (config : ChannelConfig)
    (valid : validChannelConfig config = true) (slot : UInt8) :
    loadSlot beyond (Function.update flash config.slot.toNat (some (channelRecord config))) slot =
      if config.slot = slot then
        some (some { config with
          name := Vector.ofFn fun i => byteAt (recordName beyond (channelRecord config)) i })
      else loadSlot beyond flash slot := by
  by_cases same : config.slot = slot
  · have length := channelRecord_length config
    rw [if_pos same, loadSlot, ← same, Function.update_self]
    split
    · rename_i missing
      cases missing
    · rename_i empty
      rw [Option.some.inj empty] at length
      cases length
    · rename_i record _ held
      obtain rfl := Option.some.inj held
      rw [if_neg (not_not.mpr length), decodeChannelRecord_channelRecord beyond config valid]
      exact if_neg (not_not.mpr rfl)
  · have apart : slot.toNat ≠ config.slot.toNat := fun equal =>
      same (UInt8.toNat_inj.mp equal).symm
    rw [if_neg same, loadSlot, Function.update_of_ne apart]
    rfl

end Stores

/-! The bindings of the channels. -/

def compatibilityBinding (channel : ChannelConfig) : ChannelBinding where
  channelId := channel.slot.toUInt16 + 1
  sourceId := modbusSourceId
  pointId := pointIdForSlot channel.slot
  enabled := true
  writable := writableType channel.dataType
  compatibilityMapped := true
  compatibilitySlot := channel.slot

def Bound (channels : List ChannelConfig) (registry : ChannelRegistry) : Prop :=
  registry.channels = channels.map compatibilityBinding

theorem channelId_toNat (channel : ChannelConfig) :
    (compatibilityBinding channel).channelId.toNat = channel.slot.toNat + 1 := by
  have bound := channel.slot.toNat_lt
  rw [compatibilityBinding, UInt16.toNat_add, UInt8.toNat_toUInt16, UInt16.toNat_one]
  omega

theorem channelId_inj (a b : ChannelConfig) :
    (compatibilityBinding a).channelId = (compatibilityBinding b).channelId ↔
      a.slot = b.slot := by
  rw [← UInt16.toNat_inj, channelId_toNat, channelId_toNat, ← UInt8.toNat_inj]
  omega

theorem ChannelRegistry.replace_eq (binding : ChannelBinding) (channels : List ChannelBinding) :
    ChannelRegistry.replace binding channels =
      KeyedList.upsert ChannelBinding.channelId binding channels := by
  induction channels with
  | nil => rfl
  | cons current rest ih =>
    rw [replace, KeyedList.upsert, ih]
    by_cases same : current.channelId = binding.channelId
    · rw [if_pos same, if_pos (beq_iff_eq.mpr same)]
    · rw [if_neg same, if_neg fun equal => same (beq_iff_eq.mp equal)]

theorem bindCompatibilityChannel_bound (config : ChannelConfig) (channels : List ChannelConfig)
    (registry : ChannelRegistry) (valid : validChannelConfig config = true)
    (bound : Bound channels registry) :
    (bindCompatibilityChannel config registry).2 = true ∧
    Bound (upsert ChannelConfig.slot config channels)
      (bindCompatibilityChannel config registry).1 := by
  have slot : ¬ config.slot ≥ kCompatibilitySlotCount := by
    simp only [validChannelConfig, Bool.and_eq_true, decide_eq_true_eq] at valid
    rw [ge_iff_le, UInt8.not_le]
    exact valid.1.1.1.1.1
  have nonzero : (compatibilityBinding config).channelId ≠ 0 := by
    rw [ne_eq, ← UInt16.toNat_inj, channelId_toNat, UInt16.toNat_zero]
    exact Nat.succ_ne_zero _
  have sane : ((compatibilityBinding config).channelId == 0 ||
      (compatibilityBinding config).sourceId.isEmpty ||
      (compatibilityBinding config).pointId.isEmpty) = false := by
    have point : (compatibilityBinding config).pointId.isEmpty = false := by
      rw [String.isEmpty_eq_false_iff]
      intro empty
      have characters := congrArg String.toList empty
      simp [compatibilityBinding, pointIdForSlot] at characters
    rw [beq_eq_false_iff_ne.mpr nonzero, point]
    rfl
  have mapped : ((compatibilityBinding config).compatibilityMapped &&
      decide ((compatibilityBinding config).compatibilitySlot ≥ kCompatibilitySlotCount)) =
      false := by
    rw [Bool.and_eq_false_iff]
    exact .inr (decide_eq_false slot)
  have free : ((compatibilityBinding config).compatibilityMapped &&
      registry.channels.any fun current =>
        current.compatibilityMapped &&
          current.compatibilitySlot == (compatibilityBinding config).compatibilitySlot &&
          current.channelId != (compatibilityBinding config).channelId) = false := by
    rw [Bool.and_eq_false_iff, bound]
    refine .inr (List.any_eq_false.mpr fun current member => ?_)
    obtain ⟨channel, _, rfl⟩ := List.mem_map.mp member
    rw [Bool.and_eq_true, Bool.and_eq_true, beq_iff_eq, bne_iff_ne]
    rintro ⟨⟨_, same⟩, other⟩
    exact other ((channelId_inj channel config).mpr same)
  have upserted : bindCompatibilityChannel config registry =
      (⟨ChannelRegistry.replace (compatibilityBinding config) registry.channels⟩, true) := by
    have unfolded : bindCompatibilityChannel config registry =
        registry.upsert (compatibilityBinding config) := rfl
    rw [unfolded, ChannelRegistry.upsert, sane, mapped, free]
    rfl
  rw [upserted]
  refine ⟨rfl, ?_⟩
  unfold Bound at bound ⊢
  rw [ChannelRegistry.replace_eq, bound]
  exact (map_upsert ChannelConfig.slot ChannelBinding.channelId compatibilityBinding
    channelId_inj config channels).symm

theorem removeCompatibilitySlot_bound (slot : UInt8) (channels : List ChannelConfig)
    (registry : ChannelRegistry) (bound : Bound channels registry) :
    Bound (remove ChannelConfig.slot slot channels) (registry.removeCompatibilitySlot slot) := by
  unfold Bound at bound ⊢
  rw [ChannelRegistry.removeCompatibilitySlot, bound, List.eraseP_map, remove]
  congr 1

theorem takeChannels_spec (stored : List ChannelConfig) (modbus : ModbusComponent)
    (registry : ChannelRegistry) (bound : Bound modbus.channels registry)
    (valid : ∀ config ∈ stored, validChannelConfig config = true)
    (distinct : Distinct ChannelConfig.slot (modbus.channels ++ stored)) :
    ∃ taken bindings, takeChannels stored modbus registry = some (taken, bindings) ∧
      taken.configuration =
        { modbus.configuration with channels := modbus.channels ++ stored } ∧
      Bound (modbus.channels ++ stored) bindings := by
  induction stored generalizing modbus registry with
  | nil =>
    rw [List.append_nil]
    exact ⟨modbus, registry, rfl, rfl, bound⟩
  | cons config rest ih =>
    obtain ⟨fit, others⟩ := List.forall_mem_cons.mp valid
    have absent : config.slot ∉ modbus.channels.map ChannelConfig.slot := by
      unfold Distinct at distinct
      rw [List.map_append, List.map_cons, List.nodup_append] at distinct
      exact fun member => distinct.2.2 _ member _ List.mem_cons_self rfl
    have added := ModbusComponent.configuration_upsertChannel config modbus
    rw [if_pos fit, upsert_new _ _ _ absent] at added
    obtain ⟨upserted, configured⟩ := added
    obtain ⟨registered, rebound⟩ :=
      bindCompatibilityChannel_bound config modbus.channels registry fit bound
    rw [upsert_new _ _ _ absent] at rebound
    have list : (modbus.upsertChannel config).1.channels = modbus.channels ++ [config] :=
      congrArg ComponentConfiguration.channels configured
    rw [List.append_cons] at distinct ⊢
    rw [← list] at rebound distinct ⊢
    obtain ⟨taken, bindings, run, final, finally_⟩ := ih _ _ rebound others distinct
    refine ⟨taken, bindings, ?_, ?_, finally_⟩
    · rw [takeChannels]
      dsimp only
      rw [upserted, registered]
      exact run
    · rw [final, configured]

/-! What is kept. -/

def ChannelsKept (flash : Flash Nat Bytes) (channels : List ChannelConfig) : Prop :=
  (∀ beyond, ∀ slot ∈ Stores.kSlots, (Stores.loadSlot beyond flash slot).map (·.map named) =
    some ((lookup ChannelConfig.slot slot channels).map named)) ∧
  ∀ slot, slot ∉ Stores.kSlots → lookup ChannelConfig.slot slot channels = none

def ReadBack (stores : Stores) (modbus : ModbusComponent) (registry : ChannelRegistry) : Prop :=
  ∀ beyond, ∃ taken bindings,
    loadModbusChannels beyond stores {} {} = some (taken, bindings) ∧
    (∀ slot, (taken.channelForSlot slot).map named = (modbus.channelForSlot slot).map named) ∧
    bindings.channels.Perm registry.channels

theorem compatibilityBinding_named (channel : ChannelConfig) (name : ChannelName) :
    compatibilityBinding { channel with name := name } = compatibilityBinding channel := by
  simp only [compatibilityBinding]

theorem bindings_perm (a b : List ChannelConfig) (distinctA : Distinct ChannelConfig.slot a)
    (distinctB : Distinct ChannelConfig.slot b)
    (same : ∀ slot, (lookup ChannelConfig.slot slot a).map named =
      (lookup ChannelConfig.slot slot b).map named) :
    (a.map compatibilityBinding).Perm (b.map compatibilityBinding) := by
  have key : ∀ channel : ChannelConfig, (named channel).1.slot = channel.slot := fun _ => rfl
  have perm : (a.map named).Perm (b.map named) := by
    refine perm_of_lookup (fun entry : ChannelConfig × Bytes => entry.1.slot) _ _
      (distinct_map ChannelConfig.slot _ named key a distinctA)
      (distinct_map ChannelConfig.slot _ named key b distinctB) fun slot => ?_
    rw [lookup_map ChannelConfig.slot _ named key, lookup_map ChannelConfig.slot _ named key]
    exact same slot
  have through : ∀ channels : List ChannelConfig, channels.map compatibilityBinding =
      (channels.map named).map fun entry => compatibilityBinding entry.1 := by
    intro channels
    rw [List.map_map]
    exact List.map_congr_left fun channel _ => (compatibilityBinding_named channel _).symm
  rw [through a, through b]
  exact perm.map _

theorem loadModbusChannels_spec (beyond : UInt8) (stores : Stores) (stored : List ChannelConfig)
    (loaded : Stores.loadSlots beyond stores.channels Stores.kSlots = some stored)
    (modbus : ModbusComponent) (none : modbus.channels = []) :
    ∃ taken bindings,
      loadModbusChannels beyond stores modbus {} = some (taken, bindings) ∧
      taken.configuration = { modbus.configuration with channels := stored } ∧
      Bound stored bindings := by
  obtain ⟨distinct, valid, _, _⟩ :=
    Stores.loadSlots_spec beyond stores.channels _ Stores.kSlots_once stored loaded
  have empty : Bound modbus.channels {} := by
    rw [none]
    rfl
  have apart : Distinct ChannelConfig.slot (modbus.channels ++ stored) := by
    rw [none, List.nil_append]
    exact distinct
  obtain ⟨taken, bindings, run, configured, bound⟩ :=
    takeChannels_spec stored modbus {} empty valid apart
  rw [none, List.nil_append] at configured bound
  refine ⟨taken, bindings, ?_, configured, bound⟩
  rw [loadModbusChannels, loaded]
  exact run

/-- The channels are read back exactly if every slot keeps its channel. -/
theorem readBack_iff (stores : Stores) (modbus : ModbusComponent) (registry : ChannelRegistry)
    (distinct : Distinct ChannelConfig.slot modbus.channels)
    (bound : Bound modbus.channels registry) :
    ReadBack stores modbus registry ↔ ChannelsKept stores.channels modbus.channels := by
  constructor
  · intro read
    have slots : ∀ beyond, ∃ stored,
        Stores.loadSlots beyond stores.channels Stores.kSlots = some stored ∧
        ∀ slot, (lookup ChannelConfig.slot slot stored).map named =
          (lookup ChannelConfig.slot slot modbus.channels).map named := by
      intro beyond
      obtain ⟨taken, bindings, loaded, same, _⟩ := read beyond
      cases held : Stores.loadSlots beyond stores.channels Stores.kSlots with
      | none =>
        rw [loadModbusChannels, held] at loaded
        cases loaded
      | some stored =>
        refine ⟨stored, rfl, fun slot => ?_⟩
        obtain ⟨taken', bindings', loaded', configured, _⟩ :=
          loadModbusChannels_spec beyond stores stored held {} rfl
        rw [loaded'] at loaded
        obtain ⟨rfl, rfl⟩ := Prod.mk.inj (Option.some.inj loaded)
        have list : taken'.channels = stored :=
          congrArg ComponentConfiguration.channels configured
        have here := same slot
        rwa [ModbusComponent.channelForSlot_eq, ModbusComponent.channelForSlot_eq, list] at here
    refine ⟨fun beyond slot member => ?_, fun slot outside => ?_⟩
    · obtain ⟨stored, loaded, same⟩ := slots beyond
      obtain ⟨_, _, within, _⟩ :=
        Stores.loadSlots_spec beyond stores.channels _ Stores.kSlots_once stored loaded
      rw [within slot member, Option.map_some, same slot]
    · obtain ⟨stored, loaded, same⟩ := slots 0
      obtain ⟨_, _, _, absent⟩ :=
        Stores.loadSlots_spec 0 stores.channels _ Stores.kSlots_once stored loaded
      have here := same slot
      rw [absent slot outside, Option.map_none] at here
      exact Option.map_eq_none_iff.mp here.symm
  · rintro ⟨within, outside⟩ beyond
    have each : ∀ slot ∈ Stores.kSlots,
        (Stores.loadSlot beyond stores.channels slot).isSome = true := by
      intro slot member
      rw [← Option.isSome_map (f := (·.map named)), within beyond slot member]
      rfl
    obtain ⟨stored, loaded⟩ := Stores.loadSlots_isSome beyond stores.channels _ each
    obtain ⟨apart, _, held, absent⟩ :=
      Stores.loadSlots_spec beyond stores.channels _ Stores.kSlots_once stored loaded
    have same : ∀ slot, (lookup ChannelConfig.slot slot stored).map named =
        (lookup ChannelConfig.slot slot modbus.channels).map named := by
      intro slot
      by_cases member : slot ∈ Stores.kSlots
      · have here := within beyond slot member
        rw [held slot member, Option.map_some] at here
        exact Option.some.inj here
      · rw [absent slot member, outside slot member]
    obtain ⟨taken, bindings, run, configured, rebound⟩ :=
      loadModbusChannels_spec beyond stores stored loaded {} rfl
    have list : taken.channels = stored := congrArg ComponentConfiguration.channels configured
    refine ⟨taken, bindings, run, fun slot => ?_, ?_⟩
    · rw [ModbusComponent.channelForSlot_eq, ModbusComponent.channelForSlot_eq, list]
      exact same slot
    · rw [rebound, bound]
      exact bindings_perm stored modbus.channels apart distinct same

theorem named_name (config : ChannelConfig) (name : ChannelName) :
    (named { config with name := name }).2 = Stores.nameBytes name := rfl

theorem named_ofFn (config : ChannelConfig) (name : Bytes)
    (fits : name.length ≤ kMaxChannelNameLength) :
    (named { config with name := Vector.ofFn fun i => byteAt name i }).2 =
      name.takeWhile (· != 0) :=
  (named_name config _).trans (Stores.nameBytes_ofFn name fits)

theorem named_read (beyond : UInt8) (config : ChannelConfig) :
    (named { config with
        name := Vector.ofFn fun i =>
          byteAt (Stores.recordName beyond (Stores.channelRecord config)) i }).2 =
      ((Stores.nameBytes config.name).take 15 ++
        if (Stores.nameBytes config.name).length = 16 then [beyond] else []).takeWhile (· != 0) := by
  have read := Stores.recordName_channelRecord beyond config
  generalize Stores.recordName beyond (Stores.channelRecord config) = name at read ⊢
  have fits : name.length ≤ kMaxChannelNameLength := by
    have limit : kMaxChannelNameLength = 16 := rfl
    rw [limit, read, List.length_append, List.length_take]
    split
    · rw [List.length_singleton]
      omega
    · rw [List.length_nil]
      omega
  rw [named_ofFn config name fits, read]

theorem channelsKept_upsert_iff (flash : Flash Nat Bytes) (channels : List ChannelConfig)
    (kept : ChannelsKept flash channels) (config : ChannelConfig)
    (valid : validChannelConfig config = true) :
    ChannelsKept
        (Function.update flash config.slot.toNat (some (Stores.channelRecord config)))
        (upsert ChannelConfig.slot config channels) ↔
      (Stores.nameBytes config.name).length ≠ 16 := by
  have most := Stores.nameBytes_length config.name
  have own : config.slot ∈ Stores.kSlots := by
    rw [Stores.mem_kSlots]
    simp only [validChannelConfig, Bool.and_eq_true, decide_eq_true_eq] at valid
    exact valid.1.1.1.1.1
  constructor
  · intro after long
    have here := after.1 0 config.slot own
    rw [Stores.loadSlot_update 0 flash config valid, if_pos rfl, lookup_upsert, if_pos rfl,
      Option.map_some, Option.map_some, Option.map_some] at here
    have names := congrArg (fun held => List.length held.2) (Option.some.inj (Option.some.inj here))
    rw [named_read, if_pos long] at names
    have cut : ((Stores.nameBytes config.name).take 15 ++ [0]).takeWhile (· != 0) =
        ((Stores.nameBytes config.name).take 15).takeWhile (· != 0) :=
      Stores.takeWhile_zeros _ 1
    have shorter := (List.takeWhile_sublist (l := (Stores.nameBytes config.name).take 15)
      (fun byte : UInt8 => byte != 0)).length_le
    rw [cut] at names
    rw [names, List.length_take] at shorter
    have text : (named config).2 = Stores.nameBytes config.name := rfl
    rw [text, long] at shorter
    omega
  · intro short
    refine ⟨fun beyond slot member => ?_, fun slot outside => ?_⟩
    · rw [Stores.loadSlot_update beyond flash config valid, lookup_upsert]
      by_cases same : config.slot = slot
      · rw [if_pos same, if_pos same]
        have name := named_read beyond config
        rw [if_neg short, List.append_nil, List.take_of_length_le (by omega),
          Stores.nameBytes_nonzero] at name
        have whole : named { config with
            name := Vector.ofFn fun i =>
              byteAt (Stores.recordName beyond (Stores.channelRecord config)) i } =
            named config := Prod.ext (by simp only [named]) name
        rw [Option.map_some, Option.map_some, Option.map_some, whole]
      · rw [if_neg same, if_neg same]
        exact kept.1 beyond slot member
    · have apart : config.slot ≠ slot := fun equal => outside (equal ▸ own)
      rw [lookup_upsert, if_neg apart]
      exact kept.2 slot outside

theorem channelsKept_remove (flash : Flash Nat Bytes) (channels : List ChannelConfig)
    (kept : ChannelsKept flash channels) (distinct : Distinct ChannelConfig.slot channels)
    (slot : UInt8) :
    ChannelsKept (Function.update flash slot.toNat none)
      (remove ChannelConfig.slot slot channels) := by
  refine ⟨fun beyond asked member => ?_, fun asked outside => ?_⟩
  · rw [lookup_remove _ _ _ _ distinct]
    by_cases same : asked = slot
    · rw [if_pos same, same, Stores.loadSlot, Function.update_self]
      rfl
    · have apart : asked.toNat ≠ slot.toNat := fun equal => same (UInt8.toNat_inj.mp equal)
      rw [if_neg same, Stores.loadSlot, Function.update_of_ne apart]
      exact kept.1 beyond asked member
  · rw [lookup_remove _ _ _ _ distinct, kept.2 asked outside, ite_self]

end Application
