import MultibusGateway.Core.RoundTrips
import MultibusGateway.Library.Execution
import MultibusGateway.Library.Interruption

/-! Time settings whose save is cut short. Each of the eleven keys is a field, and the next boot
reads the new settings in the fields whose keys were put and the old ones in the others. -/

namespace Application
open ByteString Preferences Execution

namespace Stores

/-- A save of time settings that ends this way. -/
def saveTimeSettingsUntil (settings : Time.Settings) (ending : Ending) (s : Stores) :
    Stores × Option Bool :=
  let (stores, saved) := ({ s with outcomes := ending.outcomes }).saveTimeSettings settings
  (stores, ending.told saved)

def timeKeys : List TimeKey :=
  [.timezone, .dstEnabled, .dstBias, .dstStartMonth, .dstStartWeek, .dstStartWeekday,
    .dstStartMinute, .dstEndMonth, .dstEndWeek, .dstEndWeekday, .dstEndMinute]

def timeField (settings : Time.Settings) : TimeKey → Int
  | .timezone => settings.utcOffsetMinutes.toInt
  | .dstEnabled => if settings.dst.enabled then 1 else 0
  | .dstBias => settings.dst.biasMinutes.toNat
  | .dstStartMonth => settings.dst.start.month.toNat
  | .dstStartWeek => settings.dst.start.week.toNat
  | .dstStartWeekday => settings.dst.start.weekday.toNat
  | .dstStartMinute => settings.dst.start.minuteOfDay.toNat
  | .dstEndMonth => settings.dst.finish.month.toNat
  | .dstEndWeek => settings.dst.finish.week.toNat
  | .dstEndWeekday => settings.dst.finish.weekday.toNat
  | .dstEndMinute => settings.dst.finish.minuteOfDay.toNat

def validTime (settings : Time.Settings) : Bool :=
  Time.validUtcOffsetMinutes settings.utcOffsetMinutes && Time.validDstSettings settings.dst

theorem timePuts_eq (settings : Time.Settings) :
    timePuts settings = timeKeys.map fun key => (key, timeField settings key) := rfl

theorem timeKeys_all (key : TimeKey) : key ∈ timeKeys := by
  cases key <;> simp [timeKeys]

theorem eq_of_timeField (a b : Time.Settings) (same : ∀ key, timeField a key = timeField b key) :
    a = b := by
  obtain ⟨offset, enabled, bias, ⟨sm, sw, sd, st⟩, ⟨em, ew, ed, et⟩⟩ := a
  obtain ⟨offset', enabled', bias', ⟨sm', sw', sd', st'⟩, ⟨em', ew', ed', et'⟩⟩ := b
  have offsets : offset = offset' := Int16.toInt_inj.mp (same .timezone)
  have flags : enabled = enabled' := by
    have flag := same .dstEnabled
    revert flag
    cases enabled <;> cases enabled' <;> simp [timeField]
  have byte (key : TimeKey) (x y : UInt8) (left : timeField _ key = (x.toNat : Int))
      (right : timeField _ key = (y.toNat : Int)) : x = y :=
    UInt8.toNat_inj.mp (Int.ofNat_inj.mp (left.symm.trans ((same key).trans right)))
  have word (key : TimeKey) (x y : UInt16) (left : timeField _ key = (x.toNat : Int))
      (right : timeField _ key = (y.toNat : Int)) : x = y :=
    UInt16.toNat_inj.mp (Int.ofNat_inj.mp (left.symm.trans ((same key).trans right)))
  rw [offsets, flags, byte .dstBias bias bias' rfl rfl, byte .dstStartMonth sm sm' rfl rfl,
    byte .dstStartWeek sw sw' rfl rfl, byte .dstStartWeekday sd sd' rfl rfl,
    word .dstStartMinute st st' rfl rfl, byte .dstEndMonth em em' rfl rfl,
    byte .dstEndWeek ew ew' rfl rfl, byte .dstEndWeekday ed ed' rfl rfl,
    word .dstEndMinute et et' rfl rfl]

/-! What is in flash. -/

/-- Every key has the value of a field, and nothing is there without a time zone. -/
structure TimeKept (s : Stores) : Prop where
  field : ∀ key value, s.time key = some value → ∃ settings, value = timeField settings key
  zone : s.time .timezone = none → ∀ key, s.time key = none

def readTime (s : Stores) : Time.Settings where
  utcOffsetMinutes := Int16.ofInt ((s.time .timezone).getD 0)
  dst :=
    { enabled := s.timeNumber .dstEnabled != 0
      biasMinutes := UInt8.ofNat (s.timeNumber .dstBias)
      start :=
        { month := UInt8.ofNat (s.timeNumber .dstStartMonth)
          week := UInt8.ofNat (s.timeNumber .dstStartWeek)
          weekday := UInt8.ofNat (s.timeNumber .dstStartWeekday)
          minuteOfDay := UInt16.ofNat (s.timeNumber .dstStartMinute) }
      finish :=
        { month := UInt8.ofNat (s.timeNumber .dstEndMonth)
          week := UInt8.ofNat (s.timeNumber .dstEndWeek)
          weekday := UInt8.ofNat (s.timeNumber .dstEndWeekday)
          minuteOfDay := UInt16.ofNat (s.timeNumber .dstEndMinute) } }

theorem timeField_readTime (s : Stores) (kept : TimeKept s) (key : TimeKey) :
    timeField (readTime s) key = (s.time key).getD 0 := by
  have number (key : TimeKey) : s.timeNumber key = ((s.time key).getD 0).toNat := rfl
  cases put : s.time key with
  | none => cases key <;> simp [timeField, readTime, number, put]
  | some value =>
    obtain ⟨settings, rfl⟩ := kept.field key value put
    cases key with
    | dstEnabled => cases flag : settings.dst.enabled <;> simp [timeField, readTime, number, put, flag]
    | _ => simp [timeField, readTime, number, put]

theorem loadTimeSettings_eq (s : Stores) (kept : TimeKept s) :
    s.loadTimeSettings =
      if s.time .timezone = none ∨ validTime (readTime s) = true then some (readTime s) else none := by
  unfold loadTimeSettings
  split
  · rename_i absent
    have read : readTime s = {} := eq_of_timeField _ _ fun key => by
      rw [timeField_readTime s kept, kept.zone absent key]
      cases key <;> rfl
    rw [if_pos (Or.inl absent), read]
  · rename_i minutes present
    have read : (readTime s).utcOffsetMinutes = Int16.ofInt minutes := by
      rw [readTime, present]
      rfl
    rw [present]
    simp only [reduceCtorEq, false_or, validTime, read]
    have parts : readTime s = { readTime s with utcOffsetMinutes := Int16.ofInt minutes } := by
      rw [← read]
    rw [parts]
    rfl

theorem validTime_of_load (s : Stores) (kept : TimeKept s) (settings : Time.Settings)
    (loads : s.loadTimeSettings = some settings) :
    settings = readTime s ∧ validTime settings = true := by
  rw [loadTimeSettings_eq s kept] at loads
  split at loads
  · rename_i sound
    obtain rfl := Option.some.inj loads
    refine ⟨rfl, sound.elim (fun absent => ?_) id⟩
    have read : readTime s = {} := eq_of_timeField _ _ fun key => by
      rw [timeField_readTime s kept, kept.zone absent key]
      cases key <;> rfl
    rw [read]
    decide
  · cases loads

/-! A save. -/

def timeWritten (ending : Ending) : List TimeKey := timeKeys.take (storedOf ending.outcomes 11)

theorem saveTimeSettingsUntil_rejects (settings : Time.Settings) (ending : Ending) (s : Stores)
    (invalid : validTime settings = false) :
    (s.saveTimeSettingsUntil settings ending).1.time = s.time := by
  have rejected : (!Time.validUtcOffsetMinutes settings.utcOffsetMinutes ||
      !Time.validDstSettings settings.dst) = true := by
    rw [← Bool.not_and, ← validTime, invalid]
    rfl
  unfold saveTimeSettingsUntil saveTimeSettings
  rw [rejected]
  rfl

theorem saveTimeSettingsUntil_valid (settings : Time.Settings) (ending : Ending) (s : Stores)
    (valid : validTime settings = true) :
    (∀ key, (s.saveTimeSettingsUntil settings ending).1.time key =
      if key ∈ timeWritten ending then some (timeField settings key) else s.time key) ∧
    ((s.saveTimeSettingsUntil settings ending).2 = some true →
      timeWritten ending = timeKeys) := by
  have accepted : (!Time.validUtcOffsetMinutes settings.utcOffsetMinutes ||
      !Time.validDstSettings settings.dst) = false := by
    rw [← Bool.not_and, ← validTime, valid]
    rfl
  unfold saveTimeSettingsUntil saveTimeSettings
  rw [accepted]
  simp only [Bool.false_eq_true, if_false]
  constructor
  · intro key
    exact putAll_written s.time ending.outcomes (timePuts settings) (timePuts_once settings) key _
      (by rw [timePuts_eq]; exact List.mem_map_of_mem (timeKeys_all key))
  · intro told
    cases ending with
    | powerLoss count => cases told
    | returns outcomes =>
      have all : storedOf outcomes 11 = 11 := beq_iff_eq.mp
        ((putAll_stored s.time outcomes (timePuts settings)).2.symm.trans (Option.some.inj told))
      rw [timeWritten, Ending.outcomes, all]
      rfl

theorem timeWritten_of_zone (ending : Ending) (unwritten : .timezone ∉ timeWritten ending) :
    timeWritten ending = [] := by
  unfold timeWritten at *
  cases count : storedOf ending.outcomes 11 with
  | zero => rfl
  | succ n =>
    rw [count] at unwritten
    exact absurd List.mem_cons_self unwritten

theorem timeKept_save (settings : Time.Settings) (ending : Ending) (s : Stores)
    (kept : TimeKept s) : TimeKept (s.saveTimeSettingsUntil settings ending).1 := by
  cases valid : validTime settings with
  | false =>
    have same := saveTimeSettingsUntil_rejects settings ending s valid
    exact ⟨by rw [same]; exact kept.field, by rw [same]; exact kept.zone⟩
  | true =>
    obtain ⟨puts, -⟩ := saveTimeSettingsUntil_valid settings ending s valid
    constructor
    · intro key value put
      rw [puts] at put
      split at put
      · exact ⟨settings, (Option.some.inj put).symm⟩
      · exact kept.field key value put
    · intro absent key
      rw [puts] at absent ⊢
      split at absent
      · cases absent
      · rename_i unwritten
        rw [timeWritten_of_zone ending unwritten, if_neg List.not_mem_nil]
        exact kept.zone absent key

/-- The stores after saves that end in any way. -/
def timeSaves (saves : List (Time.Settings × Ending)) : Stores :=
  run (fun s save => (s.saveTimeSettingsUntil save.1 save.2).1) {} saves

theorem timeKept_saves (saves : List (Time.Settings × Ending)) : TimeKept (timeSaves saves) :=
  invariant_run _ TimeKept (fun _ _ => True)
    (fun s save kept _ => timeKept_save save.1 save.2 s kept) {} saves
    ⟨fun _ _ put => (nomatch put), fun _ _ => rfl⟩ fun _ _ => trivial

/-- The next load succeeds with the old settings or the new ones, and with the new ones where the
save returned true. -/
def TimeAtomic (old next : Time.Settings) (result : Stores × Option Bool) : Prop :=
  ∃ loaded, result.1.loadTimeSettings = some loaded ∧ (loaded = old ∨ loaded = next) ∧
    (result.2 = some true → loaded = next)

section
variable (s : Stores) (kept : TimeKept s) (old next : Time.Settings) (ending : Ending)
  (stored : s.loadTimeSettings = some old) (valid : validTime next = true)

include kept stored valid

/-- A key that has been put holds the new field, and the others hold the old ones. -/
theorem timeField_after (key : TimeKey) :
    timeField (readTime (s.saveTimeSettingsUntil next ending).1) key =
      if key ∈ timeWritten ending then timeField next key else timeField old key := by
  rw [timeField_readTime _ (timeKept_save next ending s kept),
    (saveTimeSettingsUntil_valid next ending s valid).1,
    (validTime_of_load s kept old stored).1, timeField_readTime s kept]
  split <;> rfl

theorem reads_old_iff :
    readTime (s.saveTimeSettingsUntil next ending).1 = old ↔
      ∀ key ∈ timeWritten ending, timeField next key = timeField old key := by
  have after := timeField_after s kept old next ending stored valid
  constructor
  · intro same key written
    rw [← same, after, if_pos written]
  · intro same
    refine eq_of_timeField _ _ fun key => ?_
    rw [after]
    split
    · rename_i written
      exact same key written
    · rfl

theorem reads_new_iff :
    readTime (s.saveTimeSettingsUntil next ending).1 = next ↔
      ∀ key ∉ timeWritten ending, timeField next key = timeField old key := by
  have after := timeField_after s kept old next ending stored valid
  constructor
  · intro same key unwritten
    rw [← same, after, if_neg unwritten]
  · intro same
    refine eq_of_timeField _ _ fun key => ?_
    rw [after]
    split
    · rfl
    · rename_i unwritten
      exact (same key unwritten).symm

end

/-- A save is atomic exactly if the settings agree in all fields whose keys were put, or in all
the others. -/
theorem time_atomic_iff (saves : List (Time.Settings × Ending)) (old next : Time.Settings)
    (ending : Ending) (stored : (timeSaves saves).loadTimeSettings = some old)
    (valid : validTime next = true) :
    TimeAtomic old next ((timeSaves saves).saveTimeSettingsUntil next ending) ↔
      (∀ key ∈ timeWritten ending, timeField next key = timeField old key) ∨
      (∀ key ∉ timeWritten ending, timeField next key = timeField old key) := by
  have kept := timeKept_saves saves
  generalize timeSaves saves = s at stored kept ⊢
  have load := loadTimeSettings_eq _ (timeKept_save next ending s kept)
  have all := (saveTimeSettingsUntil_valid next ending s valid).2
  rw [← reads_old_iff s kept old next ending stored valid,
    ← reads_new_iff s kept old next ending stored valid]
  constructor
  · rintro ⟨loaded, loads, among, -⟩
    rw [(validTime_of_load _ (timeKept_save next ending s kept) loaded loads).1] at among
    exact among
  · intro among
    have sound : validTime (readTime (s.saveTimeSettingsUntil next ending).1) = true := by
      rcases among with same | same
      · rw [same]
        exact (validTime_of_load s kept old stored).2
      · rw [same, valid]
    rw [if_pos (Or.inr sound)] at load
    refine ⟨_, load, among, fun told => ?_⟩
    rw [reads_new_iff s kept old next ending stored valid, all told]
    exact fun key unwritten => absurd (timeKeys_all key) unwritten

/-! Runs on fixed inputs. -/

def centralEurope : Time.Settings where
  utcOffsetMinutes := 60
  dst :=
    { enabled := true
      biasMinutes := 60
      start := { month := 3, week := 5, weekday := 7, minuteOfDay := 120 }
      finish := { month := 10, week := 5, weekday := 7, minuteOfDay := 180 } }

def westernEurope : Time.Settings := { centralEurope with utcOffsetMinutes := 0 }

/-- Only the first key differs. -/
theorem time_atomic_iff_zone :
    (timeSaves [(centralEurope, .returns [])]).loadTimeSettings = some centralEurope ∧
    (TimeAtomic centralEurope westernEurope
        ((timeSaves [(centralEurope, .returns [])]).saveTimeSettingsUntil westernEurope
          (.powerLoss 4)) ↔
      (∀ key ∈ timeWritten (.powerLoss 4),
        timeField westernEurope key = timeField centralEurope key) ∨
      (∀ key ∉ timeWritten (.powerLoss 4),
        timeField westernEurope key = timeField centralEurope key)) := by
  have stored : (timeSaves [(centralEurope, .returns [])]).loadTimeSettings =
      some centralEurope := by
    decide +kernel
  exact ⟨stored, time_atomic_iff _ centralEurope westernEurope (.powerLoss 4) stored
    (by decide +kernel)⟩

/-- The power is lost when daylight saving is enabled and its bias is not there yet, and the
settings are rejected at the next boot. -/
theorem enabled_without_bias :
    (timeSaves []).loadTimeSettings = some {} ∧ validTime centralEurope = true ∧
    ¬ TimeAtomic {} centralEurope
      ((timeSaves []).saveTimeSettingsUntil centralEurope (.powerLoss 2)) := by
  refine ⟨rfl, by decide +kernel, ?_⟩
  rintro ⟨loaded, loads, -⟩
  have rejected : ((timeSaves []).saveTimeSettingsUntil centralEurope
      (.powerLoss 2)).1.loadTimeSettings = none := by
    decide +kernel
  exact nomatch rejected.symm.trans loads

end Stores

end Application
