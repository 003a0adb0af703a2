import MultibusGateway.Core.Persistence

/-! What a save does to its store, and that what has been saved is what is loaded. -/

namespace Application
open ByteString Preferences Modbus Lorawan

namespace Stores

theorem putAll_single_cases {Key Value σ : Type} [DecidableEq Key] (flash : Flash Key Value)
    (outcomes : List Bool) (key : Key) (value : Value) (load : Flash Key Value → Option σ)
    (settings : σ)
    (loads : ∀ kept : Flash Key Value, kept key = some value → load kept = some settings) :
    if (putAll flash outcomes [(key, value)]).2.2 then
      load (putAll flash outcomes [(key, value)]).1 = some settings
    else (putAll flash outcomes [(key, value)]).1 = flash := by
  rw [putAll_single]
  cases (draw outcomes).1 with
  | false => rfl
  | true => exact loads _ (Function.update_self ..)

theorem saveReportSettings_cases (settings : ReportIntervalSettings) (s : Stores) :
    ∃ flash outcomes,
      (s.saveReportSettings settings).1 = { s with report := flash, outcomes := outcomes } ∧
      if (s.saveReportSettings settings).2 then
        ({ s with report := flash } : Stores).loadReportSettings = some settings
      else flash = s.report := by
  unfold saveReportSettings
  cases valid : validReportIntervalSettings settings with
  | false => exact ⟨s.report, s.outcomes, rfl, rfl⟩
  | true =>
    refine ⟨_, _, rfl, putAll_single_cases s.report s.outcomes () settings.seconds
      (fun flash => ({ s with report := flash } : Stores).loadReportSettings) settings ?_⟩
    intro kept stored
    simp only [loadReportSettings, stored]
    exact if_pos valid

theorem timePuts_once (settings : Time.Settings) : ((timePuts settings).map Prod.fst).Nodup := by
  simp [timePuts]

theorem loadTimeSettings_saved (settings : Time.Settings) (s : Stores)
    (valid : (Time.validUtcOffsetMinutes settings.utcOffsetMinutes &&
      Time.validDstSettings settings.dst) = true)
    (kept : ∀ key value, (key, value) ∈ timePuts settings → s.time key = some value) :
    s.loadTimeSettings = some settings := by
  have number : ∀ key (value : Nat), (key, (value : Int)) ∈ timePuts settings →
      s.timeNumber key = value := by
    intro key value member
    rw [timeNumber, kept key value member]
    rfl
  have flag : (s.timeNumber .dstEnabled != 0) = settings.dst.enabled := by
    have member : (TimeKey.dstEnabled, if settings.dst.enabled then (1 : Int) else 0) ∈
        timePuts settings := by simp [timePuts]
    rw [timeNumber, kept _ _ member]
    cases settings.dst.enabled <;> rfl
  unfold loadTimeSettings
  rw [kept .timezone settings.utcOffsetMinutes.toInt (by simp [timePuts])]
  dsimp only
  rw [flag, number .dstBias settings.dst.biasMinutes.toNat (by simp [timePuts]),
    number .dstStartMonth settings.dst.start.month.toNat (by simp [timePuts]),
    number .dstStartWeek settings.dst.start.week.toNat (by simp [timePuts]),
    number .dstStartWeekday settings.dst.start.weekday.toNat (by simp [timePuts]),
    number .dstStartMinute settings.dst.start.minuteOfDay.toNat (by simp [timePuts]),
    number .dstEndMonth settings.dst.finish.month.toNat (by simp [timePuts]),
    number .dstEndWeek settings.dst.finish.week.toNat (by simp [timePuts]),
    number .dstEndWeekday settings.dst.finish.weekday.toNat (by simp [timePuts]),
    number .dstEndMinute settings.dst.finish.minuteOfDay.toNat (by simp [timePuts])]
  simp only [Int16.ofInt_toInt, UInt8.ofNat_toNat, UInt16.ofNat_toNat]
  exact if_pos valid

theorem saveTimeSettings_cases (settings : Time.Settings) (s : Stores) :
    ∃ flash outcomes,
      (s.saveTimeSettings settings).1 = { s with time := flash, outcomes := outcomes } ∧
      ((s.saveTimeSettings settings).2 = true →
        ({ s with time := flash } : Stores).loadTimeSettings = some settings) := by
  unfold saveTimeSettings
  split
  · exact ⟨s.time, s.outcomes, rfl, fun saved => by cases saved⟩
  · rename_i checked
    refine ⟨_, _, rfl, fun saved => ?_⟩
    have valid : (Time.validUtcOffsetMinutes settings.utcOffsetMinutes &&
        Time.validDstSettings settings.dst) = true := by
      rw [Bool.or_eq_true, not_or, Bool.not_eq_true', Bool.not_eq_false, Bool.not_eq_true',
        Bool.not_eq_false] at checked
      rw [checked.1, checked.2]
      rfl
    exact loadTimeSettings_saved settings _ valid fun key value member =>
      putAll_apply s.time s.outcomes (timePuts settings) saved (timePuts_once settings) key value
        member

theorem historyPuts_once (settings : History.Settings) :
    ((historyPuts settings).map Prod.fst).Nodup := by
  simp [historyPuts]

theorem loadHistorySettings_saved (settings : History.Settings) (s : Stores)
    (valid : History.validSettings settings = true)
    (kept : ∀ key value, (key, value) ∈ historyPuts settings →
      s.historySettings key = some value) :
    s.loadHistorySettings = some settings := by
  have storage := kept .storage _ List.mem_cons_self
  have retransmission := kept .retransmission _ (List.mem_cons_of_mem _ List.mem_cons_self)
  have interval := kept .interval settings.retransmissionIntervalSeconds (by simp [historyPuts])
  have query := kept .retrievabilityInterval settings.retrievabilityIntervalSeconds
    (by simp [historyPuts])
  have flag : ∀ enabled : Bool, ((if enabled then 1 else 0 : UInt16) != 0) = enabled := by
    decide
  unfold loadHistorySettings
  rw [storage, retransmission, interval, query]
  simp only [Option.getD_some, flag]
  exact if_pos valid

theorem saveHistorySettings_cases (settings : History.Settings) (s : Stores) :
    ∃ flash outcomes,
      (s.saveHistorySettings settings).1 =
        { s with historySettings := flash, outcomes := outcomes } ∧
      ((s.saveHistorySettings settings).2 = true →
        ({ s with historySettings := flash } : Stores).loadHistorySettings = some settings) := by
  unfold saveHistorySettings
  cases valid : History.validSettings settings with
  | false => exact ⟨s.historySettings, s.outcomes, rfl, fun saved => by cases saved⟩
  | true =>
    refine ⟨_, _, rfl, fun saved => ?_⟩
    exact loadHistorySettings_saved settings _ valid fun key value member =>
      putAll_apply s.historySettings s.outcomes (historyPuts settings) saved
        (historyPuts_once settings) key value member

theorem loadRs485Settings_record (settings : Rs485SerialSettings) (s : Stores)
    (valid : validRs485SerialSettings settings = true)
    (kept : s.rs485 () = some (rs485Record settings)) :
    s.loadRs485Settings = some settings := by
  have baud : readU32 (rs485Record settings) 1 = settings.baudRate :=
    readU32_writeU32 settings.baudRate
      [settings.dataBits, settings.stopBits.raw, settings.parity.raw]
  have stopBits : Rs485StopBits.ofRaw (byteAt (rs485Record settings) 6) = some settings.stopBits := by
    have byte : byteAt (rs485Record settings) 6 = settings.stopBits.raw := rfl
    rw [byte]
    cases settings.stopBits <;> rfl
  have parity : Rs485Parity.ofRaw (byteAt (rs485Record settings) 7) = some settings.parity := by
    have byte : byteAt (rs485Record settings) 7 = settings.parity.raw := rfl
    rw [byte]
    cases settings.parity <;> rfl
  have dataBits : byteAt (rs485Record settings) 5 = settings.dataBits := rfl
  have whole : (decide ((rs485Record settings).length ≠ 8) ||
      decide (byteAt (rs485Record settings) 0 ≠ 1)) = false := rfl
  unfold loadRs485Settings
  rw [kept]
  split
  · rename_i missing
    cases missing
  · rename_i empty
    cases empty
  · rename_i record _ same
    obtain rfl := Option.some.inj same
    rw [whole, baud, stopBits, parity, dataBits]
    exact if_pos valid

theorem saveRs485Settings_cases (settings : Rs485SerialSettings) (s : Stores) :
    ∃ flash outcomes,
      (s.saveRs485Settings settings).1 = { s with rs485 := flash, outcomes := outcomes } ∧
      if (s.saveRs485Settings settings).2 then
        ({ s with rs485 := flash } : Stores).loadRs485Settings = some settings
      else flash = s.rs485 := by
  unfold saveRs485Settings
  cases valid : validRs485SerialSettings settings with
  | false => exact ⟨s.rs485, s.outcomes, rfl, rfl⟩
  | true =>
    refine ⟨_, _, rfl, putAll_single_cases s.rs485 s.outcomes () (rs485Record settings)
      (fun flash => ({ s with rs485 := flash } : Stores).loadRs485Settings) settings ?_⟩
    intro kept stored
    exact loadRs485Settings_record settings _ valid stored

theorem loadModbusMasterSettings_record (settings : ModbusMasterSettings) (s : Stores)
    (valid : validModbusMasterSettings settings = true)
    (kept : s.master () = some (masterRecord settings)) :
    s.loadModbusMasterSettings = some settings := by
  have interval : readU16 (masterRecord settings) 1 = settings.executionIntervalMs :=
    readU16_writeU16 settings.executionIntervalMs (writeU16 settings.maxResponseTimeMs ++
      [settings.maxRetryTimes, settings.passThroughMode.raw, settings.passThroughPort])
  have response : readU16 (masterRecord settings) 3 = settings.maxResponseTimeMs :=
    readU16_writeU16 settings.maxResponseTimeMs
      [settings.maxRetryTimes, settings.passThroughMode.raw, settings.passThroughPort]
  have mode : PassThroughMode.ofRaw (byteAt (masterRecord settings) 6) =
      some settings.passThroughMode := by
    have byte : byteAt (masterRecord settings) 6 = settings.passThroughMode.raw := rfl
    rw [byte]
    cases settings.passThroughMode <;> rfl
  have retries : byteAt (masterRecord settings) 5 = settings.maxRetryTimes := rfl
  have port : byteAt (masterRecord settings) 7 = settings.passThroughPort := rfl
  have whole : (decide ((masterRecord settings).length ≠ 8) ||
      decide (byteAt (masterRecord settings) 0 ≠ 1)) = false := rfl
  unfold loadModbusMasterSettings
  rw [kept]
  split
  · rename_i missing
    cases missing
  · rename_i empty
    cases empty
  · rename_i record _ same
    obtain rfl := Option.some.inj same
    rw [whole, interval, response, mode, retries, port]
    exact if_pos valid

theorem saveModbusMasterSettings_cases (settings : ModbusMasterSettings) (s : Stores) :
    ∃ flash outcomes,
      (s.saveModbusMasterSettings settings).1 = { s with master := flash, outcomes := outcomes } ∧
      if (s.saveModbusMasterSettings settings).2 then
        ({ s with master := flash } : Stores).loadModbusMasterSettings = some settings
      else flash = s.master := by
  unfold saveModbusMasterSettings
  cases valid : validModbusMasterSettings settings with
  | false => exact ⟨s.master, s.outcomes, rfl, rfl⟩
  | true =>
    refine ⟨_, _, rfl, putAll_single_cases s.master s.outcomes () (masterRecord settings)
      (fun flash => ({ s with master := flash } : Stores).loadModbusMasterSettings) settings ?_⟩
    intro kept stored
    exact loadModbusMasterSettings_record settings _ valid stored

end Stores

end Application
