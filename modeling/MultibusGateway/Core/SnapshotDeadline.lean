import MultibusGateway.Core.Durability
import MultibusGateway.Core.Interleaving

/-! The deadline of the history snapshots. It is set ahead by the report interval, and compared
with the clock only while storage is enabled. -/

namespace Application
open ByteString Modbus Lorawan Execution WrapClock

def snapshotDue (app : State) : Bool :=
  reached app.clock.millis app.history.nextSnapshotAtMs

theorem processHistoryStorage_due (app : State)
    (enabled : app.history.settings.storageEnabled = true) :
    (snapshotDue app = false → processHistoryStorage app = app) ∧
      (snapshotDue app = true → (processHistoryStorage app).clock = app.clock ∧
        (processHistoryStorage app).history.nextSnapshotAtMs =
          app.clock.millis + app.scheduler.settings.seconds.toUInt32 * 1000 ∧
        (processHistoryStorage app).history.snapshotDueMs =
          app.clock.uptimeMs + app.scheduler.settings.seconds.toNat * 1000) := by
  unfold snapshotDue processHistoryStorage
  constructor
  · intro early
    simp [enabled, early]
  · intro due
    simp only [enabled, Bool.not_true, Bool.false_eq_true, if_false, due]
    split
    · exact ⟨rfl, rfl, rfl⟩
    · split
      · exact ⟨rfl, rfl, rfl⟩
      · split <;> exact ⟨rfl, rfl, rfl⟩

/-- What the deadline shows is the uptime it was set for, at most the longest interval ahead. -/
structure DeadlineShown (app : State) : Prop where
  shown : app.history.nextSnapshotAtMs = stamp app.history.snapshotDueMs
  near : app.history.snapshotDueMs ≤ app.clock.uptimeMs + 65535000

def KeepsDeadline (a b : State) : Prop :=
  a.clock.uptimeUs ≤ b.clock.uptimeUs ∧ (DeadlineShown a → DeadlineShown b)

theorem keepsDeadline_of_same (a b : State) (later : a.clock.uptimeUs ≤ b.clock.uptimeUs)
    (next : b.history.nextSnapshotAtMs = a.history.nextSnapshotAtMs)
    (due : b.history.snapshotDueMs = a.history.snapshotDueMs) : KeepsDeadline a b := by
  refine ⟨later, fun shows => ⟨?_, ?_⟩⟩
  · rw [next, due]
    exact shows.shown
  · have passed : a.clock.uptimeMs ≤ b.clock.uptimeMs := Nat.div_le_div_right later
    have near := shows.near
    rw [due]
    omega

theorem deadline_stamp (clock : Clock) (seconds : UInt16) :
    clock.millis + seconds.toUInt32 * 1000 = stamp (clock.uptimeMs + seconds.toNat * 1000) := by
  rw [stamp_add]
  congr 1

theorem deadlineShown_set (app : State) (clock : Clock) (seconds : UInt16)
    (now : app.clock.uptimeUs = clock.uptimeUs)
    (next : app.history.nextSnapshotAtMs = clock.millis + seconds.toUInt32 * 1000)
    (due : app.history.snapshotDueMs = clock.uptimeMs + seconds.toNat * 1000) :
    DeadlineShown app := by
  refine ⟨?_, ?_⟩
  · rw [next, due, deadline_stamp]
  · have short := seconds.toNat_lt
    have same : app.clock.uptimeMs = clock.uptimeMs := congrArg (· / 1000) now
    rw [due, same]
    omega

theorem keepsDeadline_exchanges : KeptByExchanges KeepsDeadline where
  refl _ := ⟨Nat.le_refl _, id⟩
  trans _ _ _ first second := ⟨Nat.le_trans first.1 second.1, second.2 ∘ first.2⟩
  exchange _ _ a := keepsDeadline_of_same a _ (Nat.le_add_right _ _) rfl rfl

theorem reportInterval_keepsDeadline (deliver : Deliver State) (settings : ReportIntervalSettings)
    (a : State) : KeepsDeadline a (applyCommand deliver a (.reportInterval settings)).1 := by
  unfold applyCommand applyReportIntervalCommand
  dsimp only
  split
  · exact keepsDeadline_of_same a _ (Nat.le_refl _) rfl rfl
  · split
    · exact keepsDeadline_of_same a _ (Nat.le_refl _) rfl rfl
    · split
      · refine ⟨Nat.le_refl _, fun _ => ?_⟩
        exact deadlineShown_set _ a.clock settings.seconds rfl rfl rfl
      · exact keepsDeadline_of_same a _ (Nat.le_refl _) rfl rfl

theorem modbusMasterSettings_keepsDeadline (deliver : Deliver State)
    (settings : ModbusMasterSettings) (a : State) :
    KeepsDeadline a (applyCommand deliver a (.modbusMasterSettings settings)).1 := by
  unfold applyCommand applyModbusMasterSettingsCommand
  dsimp only
  split
  · exact keepsDeadline_of_same a _ (Nat.le_refl _) rfl rfl
  · split
    · exact keepsDeadline_of_same a _ (Nat.le_refl _) rfl rfl
    · split
      · exact keepsDeadline_of_same a _ (Nat.le_refl _) rfl rfl
      · split <;> exact keepsDeadline_of_same a _ (Nat.le_refl _) rfl rfl

theorem keepsDeadline_kept : KeptByDownlinks KeepsDeadline where
  toKeptByExchanges := keepsDeadline_exchanges
  command deliver respects a command := by
    cases command with
    | reportInterval settings => exact reportInterval_keepsDeadline deliver settings a
    | modbusMasterSettings settings =>
      exact modbusMasterSettings_keepsDeadline deliver settings a
    | historyQuery command =>
      exact applyHistoryQueryCommand_respects keepsDeadline_exchanges deliver respects
        (fun b _ => keepsDeadline_of_same b _ (Nat.le_refl _) rfl rfl) command a
    | rs485SettingsEnquiry kind =>
      exact replyToRs485SettingsEnquiry_respects keepsDeadline_exchanges deliver respects kind a
    | basicControl control =>
      cases control <;> exact keepsDeadline_of_same a _ (Nat.le_refl _) rfl rfl
    | _ => exact keepsDeadline_of_same a _ (Nat.le_refl _) rfl rfl
  serverMessage a _ := keepsDeadline_of_same a _ (Nat.le_refl _) rfl rfl
  rawRequest a _ := keepsDeadline_of_same a _ (Nat.le_refl _) rfl rfl

theorem processHistoryStorage_keepsDeadline (a : State) :
    KeepsDeadline a (processHistoryStorage a) := by
  cases enabled : a.history.settings.storageEnabled with
  | false =>
    have same : processHistoryStorage a = a := by
      unfold processHistoryStorage
      simp [enabled]
    rw [same]
    exact keepsDeadline_exchanges.refl a
  | true =>
    obtain ⟨early, late⟩ := processHistoryStorage_due a enabled
    cases due : snapshotDue a with
    | false =>
      rw [early due]
      exact keepsDeadline_exchanges.refl a
    | true =>
      obtain ⟨clock, next, set⟩ := late due
      refine ⟨Nat.le_of_eq (by rw [clock]), fun _ => ?_⟩
      exact deadlineShown_set _ a.clock a.scheduler.settings.seconds (by rw [clock]) next set

theorem captureModbusCompatibilitySample_keepsDeadline (a : State) :
    KeepsDeadline a (captureModbusCompatibilitySample a) := by
  unfold captureModbusCompatibilitySample
  split
  · exact keepsDeadline_of_same a _ (Nat.le_refl _) rfl rfl
  · refine keepsDeadline_of_same a _ ?_ ?_ ?_
    · exact Nat.le_refl _
    · dsimp only
      split <;> rfl
    · dsimp only
      split <;> rfl

theorem step_keepsDeadline (depth : Nat) (a : State) (c : Call) :
    KeepsDeadline a (step depth a c) := by
  refine step_respects keepsDeadline_kept c (fun a b touches => ?_) depth a
  cases touches with
  | elapse us => exact keepsDeadline_of_same a _ (Nat.le_add_right _ _) rfl rfl
  | networkState =>
    obtain ⟨_, _, same⟩ := processHistoryNetworkState_changes a
    rw [same]
    exact keepsDeadline_of_same a _ (Nat.le_refl _) rfl rfl
  | passiveFrame =>
    obtain ⟨_, _, _, same⟩ := processPassiveRs485Frame_changes a
    rw [same]
    exact keepsDeadline_of_same a _ (Nat.le_refl _) rfl rfl
  | captureSample => exact captureModbusCompatibilitySample_keepsDeadline a
  | historyStorage => exact processHistoryStorage_keepsDeadline a
  | _ => exact keepsDeadline_of_same a _ (Nat.le_refl _) rfl rfl

def LooksForSnapshot (app : State) (c : Call) : Prop :=
  c = .historyStorage ∧ app.history.settings.storageEnabled = true

/-- The check passes exactly from the uptime on that the snapshot was set for. -/
def ChecksRight (app : State) (c : Call) : Prop :=
  LooksForSnapshot app c →
    (snapshotDue app = true ↔ app.history.snapshotDueMs ≤ app.clock.uptimeMs)

def LongOverdue (app : State) : Prop :=
  app.history.snapshotDueMs ≤ app.clock.uptimeMs ∧
    2 ^ 31 ≤ (app.clock.uptimeMs - app.history.snapshotDueMs) % 2 ^ 32

def NotLongOverdue (app : State) (c : Call) : Prop := LooksForSnapshot app c → ¬ LongOverdue app

theorem DeadlineShown.checksRight_iff {app : State} (shows : DeadlineShown app) (c : Call) :
    ChecksRight app c ↔ NotLongOverdue app c := by
  unfold ChecksRight NotLongOverdue
  refine imp_congr_right fun _ => ?_
  have near := shows.near
  rw [LongOverdue, snapshotDue, shows.shown]
  exact reached_right_iff app.clock.uptimeMs app.history.snapshotDueMs (by omega)

theorem boot_deadlineShown (config : DeviceConfig) (clock : Clock) (beyond : UInt8)
    (ring : History.Ring) (retransmission : History.RetransmissionState) (stores : Stores)
    (app : State) (booted : boot config clock beyond ring retransmission stores = some app) :
    DeadlineShown app := by
  unfold boot at booted
  dsimp only at booted
  obtain ⟨rs485, -, booted⟩ := Option.bind_eq_some_iff.mp booted
  split at booted
  case isFalse => cases booted
  obtain ⟨master, -, booted⟩ := Option.bind_eq_some_iff.mp booted
  split at booted
  case isFalse => cases booted
  obtain ⟨report, -, booted⟩ := Option.bind_eq_some_iff.mp booted
  obtain ⟨_, -, booted⟩ := Option.bind_eq_some_iff.mp booted
  obtain ⟨_, -, booted⟩ := Option.bind_eq_some_iff.mp booted
  obtain ⟨_, -, booted⟩ := Option.bind_eq_some_iff.mp booted
  obtain ⟨_, -, booted⟩ := Option.bind_eq_some_iff.mp booted
  obtain rfl := Option.some.inj booted
  exact deadlineShown_set _ clock report.seconds rfl rfl rfl

/-- From a boot on, snapshots are taken when they are due in exactly the runs in which storage
is never on with the next snapshot overdue into the second half of a period. -/
theorem snapshots_when_due_iff (config : DeviceConfig) (clock : Clock) (beyond : UInt8)
    (ring : History.Ring) (retransmission : History.RetransmissionState) (stores : Stores)
    (app : State) (booted : boot config clock beyond ring retransmission stores = some app)
    (depth : Nat) (calls : List Call) :
    Always (step depth) ChecksRight app calls ↔ Always (step depth) NotLongOverdue app calls :=
  always_iff (step depth) DeadlineShown ChecksRight NotLongOverdue
    (fun _ c shows => shows.checksRight_iff c)
    (fun a c shows _ => (step_keepsDeadline depth a c).2 shows) app calls
    (boot_deadlineShown config clock beyond ring retransmission stores app booted)

/-- Storage is on from the start, and the first snapshot is due after the report interval. -/
theorem snapshots_when_due_sample :
    Always (step 1) ChecksRight freshDevice
        [.downlink ⟨kCompatibilityFPort, [0xff, 0x68, 0x01]⟩, .historyStorage,
          .elapse 600000000, .historyStorage] ↔
      Always (step 1) NotLongOverdue freshDevice
        [.downlink ⟨kCompatibilityFPort, [0xff, 0x68, 0x01]⟩, .historyStorage,
          .elapse 600000000, .historyStorage] :=
  snapshots_when_due_iff {} {} 0 default {} {} freshDevice freshDevice_booted 1 _

/-- A turn of the loop, five seconds after the one before, in what it does for the history. -/
def idleTurn : List Call := [.elapse 5000000, .historyStorage]

theorem idleTurns_run (depth turns : Nat) (app : State)
    (disabled : app.history.settings.storageEnabled = false) :
    run (step depth) app (List.replicate turns idleTurn).flatten =
      { app with clock := app.clock.advance (5000000 * turns) } := by
  induction turns generalizing app with
  | zero => simp [Clock.advance]
  | succ turns ih =>
    have turn : run (step depth) app idleTurn =
        { app with clock := app.clock.advance 5000000 } := by
      have still : step depth { app with clock := app.clock.advance 5000000 } .historyStorage =
          { app with clock := app.clock.advance 5000000 } := by
        change processHistoryStorage _ = _
        rw [processHistoryStorage]
        exact if_pos (by rw [disabled]; rfl)
      exact still
    rw [List.replicate_succ, List.flatten_cons, run_append, turn, ih]
    · simp only [Clock.advance]
      congr 2
      omega
    · exact disabled

/-- Storage is switched on after thirty days of uptime, and its first snapshot is not taken. -/
theorem snapshot_missed_after_month :
    boot {} {} 0 default {} {} = some freshDevice ∧
      ¬ Always (step 1) ChecksRight freshDevice
        ((List.replicate 518400 idleTurn).flatten ++
          [.downlink ⟨kCompatibilityFPort, [0xff, 0x68, 0x01]⟩, .historyStorage]) := by
  have disabled : freshDevice.history.settings.storageEnabled = false := by decide +kernel
  refine ⟨freshDevice_booted, fun right => ?_⟩
  have last := ((always_append _ _ _ _ _).mp right).2
  rw [idleTurns_run 1 518400 freshDevice disabled, always_cons, always_cons] at last
  have looks : (step 1 { freshDevice with clock := freshDevice.clock.advance (5000000 * 518400) }
      (.downlink ⟨kCompatibilityFPort, [0xff, 0x68, 0x01]⟩)).history.settings.storageEnabled =
        true := by
    decide +kernel
  have due := (last.2.1 ⟨rfl, looks⟩).mpr (by decide +kernel)
  revert due
  decide +kernel

end Application
