import Mathlib.Data.List.DropRight
import MultibusGateway.Config.ConfigStore
import MultibusGateway.Core.Durability
import MultibusGateway.Core.MarkerSaves
import MultibusGateway.Library.WrapClock
import MultibusGateway.Lorawan.StateStore
import MultibusGateway.Security.SecurityStore

/-! The button of the board. The device is erased when the button has been held down for ten seconds
without a pass that finds it up, and it has been up since the boot; the next boot is that of a new
device. -/

namespace Board
open Config Security Application Preferences Execution Modbus

/-- The clock shows zero when no press has been timed. -/
structure BoardService where
  resetArmed : Bool := false
  resetWarning : Bool := false
  pressStartedAt : UInt32 := 0
  statusLed : Bool := false
  deriving DecidableEq

/-- A pass of the loop: whether the button is down, and the times at which the clock is read. -/
structure Pass where
  pressed : Bool
  atMs : ℕ
  laterMs : ℕ
  inOrder : atMs ≤ laterMs

namespace BoardService

def kWarningAfterMs : UInt32 := 3000
def kFactoryResetAfterMs : UInt32 := 10000

/-- The button may be held down from before the boot, which does not arm the reset. -/
def begin (pressed : Bool) : BoardService := { resetArmed := !pressed }

/-- The service after a pass, and whether it performs the reset. -/
def loop (pass : Pass) (board : BoardService) : BoardService × Bool :=
  if !board.resetArmed then ({ board with resetArmed := !pass.pressed }, false)
  else if !pass.pressed then
    ({ board with pressStartedAt := 0, resetWarning := false, statusLed := false }, false)
  else
    let pressStartedAt :=
      if board.pressStartedAt == 0 then WrapClock.stamp pass.atMs else board.pressStartedAt
    let held := WrapClock.stamp pass.laterMs - pressStartedAt
    let resetWarning := decide (held ≥ kWarningAfterMs)
    let statusLed := if resetWarning then (held / 200) % 2 == 0 else board.statusLed
    ({ board with
        pressStartedAt := pressStartedAt
        resetWarning := resetWarning
        statusLed := statusLed },
      decide (held ≥ kFactoryResetAfterMs))

end BoardService

/-! What the reset erases. -/

inductive Store where
  | config | security | modbusChannels | rs485Settings | modbusMasterSettings | reportSettings
  | timeSettings | historySettings | history | historyRetransmission | rules
  deriving DecidableEq

/-- The clears that complete; nobody looks at their results. -/
abbrev Clears := Store → Bool

def clearSubsystemStores (clears : Clears) (s : Stores) : Stores where
  outcomes := s.outcomes
  channels := if clears .modbusChannels then fun _ => none else s.channels
  rs485 := if clears .rs485Settings then fun _ => none else s.rs485
  master := if clears .modbusMasterSettings then fun _ => none else s.master
  report := if clears .reportSettings then fun _ => none else s.report
  time := if clears .timeSettings then fun _ => none else s.time
  historySettings := if clears .historySettings then fun _ => none else s.historySettings
  rings := if clears .history then fun _ => none else s.rings
  history := {}
  retransmission := if clears .historyRetransmission then fun _ => none else s.retransmission
  rules := if clears .rules then fun _ => none else s.rules

/-- The board and what is stored, until the device restarts. -/
structure Device where
  board : BoardService
  configStore : ConfigStore := {}
  security : SecurityStore := {}
  stores : Stores := {}
  lorawan : Lorawan.StateKeys := {}
  restarted : Bool := false

namespace Device

/-- The settings of the reports and the state of LoRaWAN are in the namespace of the
configuration, and go with it. -/
def performFactoryReset (clears : Clears) (d : Device) : Device :=
  { d with
    configStore :=
      if clears .config then d.configStore.clear else { d.configStore with needsSave := false }
    security :=
      if clears .security then d.security.clear else { d.security with initialAdminPassword := [] }
    stores :=
      clearSubsystemStores clears
        (if clears .config then { d.stores with report := fun _ => none } else d.stores)
    lorawan := if clears .config then {} else d.lorawan
    restarted := true }

/-- A pass of a device that is up, with the clears that would complete in it. -/
def step (d : Device) (x : Pass × Clears) : Device :=
  if d.restarted then d
  else
    match d.board.loop x.1 with
    | (board, false) => { d with board := board }
    | (board, true) => performFactoryReset x.2 { d with board := board }

/-- The device after a boot that found the button down or up. -/
def start (pressed : Bool) (d : Device) : Device :=
  { d with board := .begin pressed, restarted := false }

end Device

/-! When the reset is performed. -/

def hold (passes : List Pass) : List Pass := passes.rtakeWhile Pass.pressed

def Armed (pressed : Bool) (passes : List Pass) : Prop :=
  pressed = false ∨ ∃ pass ∈ passes, pass.pressed = false

def timed (held : List Pass) : Option Pass :=
  held.find? fun pass => WrapClock.stamp pass.atMs != 0

/-- The time from which a press is timed in its last pass. -/
def since (held : List Pass) (last : Pass) : ℕ := ((timed (held ++ [last])).getD last).atMs

def Resets (pressed : Bool) (before : List Pass) (pass : Pass) : Prop :=
  Armed pressed before ∧ pass.pressed = true ∧
    10000 ≤ (pass.laterMs - since (hold before) pass) % 2 ^ 32

structure Timing (pressed : Bool) (passes : List Pass) (board : BoardService) : Prop where
  armed : board.resetArmed = true ↔ Armed pressed passes
  started : Armed pressed passes →
    board.pressStartedAt = ((timed (hold passes)).map fun pass =>
      WrapClock.stamp pass.atMs).getD 0
  waiting : ¬ Armed pressed passes → board.pressStartedAt = 0

theorem Timing.begin (pressed : Bool) : Timing pressed [] (.begin pressed) where
  armed := by simp [BoardService.begin, Armed]
  started := fun _ => rfl
  waiting := fun _ => rfl

theorem armed_append (pressed : Bool) (passes : List Pass) (pass : Pass) :
    Armed pressed (passes ++ [pass]) ↔ Armed pressed passes ∨ pass.pressed = false := by
  simp only [Armed, List.mem_append, List.mem_singleton, or_assoc]
  constructor
  · rintro (boot | ⟨other, among | rfl, up⟩)
    · exact Or.inl boot
    · exact Or.inr (Or.inl ⟨other, among, up⟩)
    · exact Or.inr (Or.inr up)
  · rintro (boot | ⟨other, among, up⟩ | up)
    · exact Or.inl boot
    · exact Or.inr ⟨other, Or.inl among, up⟩
    · exact Or.inr ⟨pass, Or.inr rfl, up⟩

theorem timed_append (held : List Pass) (pass : Pass) :
    timed (held ++ [pass]) =
      (timed held).or (if WrapClock.stamp pass.atMs = 0 then none else some pass) := by
  rw [timed, timed, List.find?_append, List.find?_singleton]
  congr 1
  by_cases zero : WrapClock.stamp pass.atMs = 0 <;> simp [zero]

theorem timed_ne_zero (held : List Pass) (pass : Pass) (found : timed held = some pass) :
    WrapClock.stamp pass.atMs ≠ 0 := by
  have holds := List.find?_some found
  exact bne_iff_ne.mp holds

theorem stamp_since (held : List Pass) (last : Pass) :
    (if ((timed held).map fun pass => WrapClock.stamp pass.atMs).getD 0 == 0 then
        WrapClock.stamp last.atMs
      else ((timed held).map fun pass => WrapClock.stamp pass.atMs).getD 0) =
      WrapClock.stamp (since held last) := by
  rw [since, timed_append]
  cases found : timed held with
  | none => by_cases zero : WrapClock.stamp last.atMs = 0 <;> simp [zero]
  | some pass =>
    have some_ := timed_ne_zero held pass found
    simp [some_]

theorem stamp_timed (held : List Pass) (last : Pass) :
    ((timed (held ++ [last])).map fun pass => WrapClock.stamp pass.atMs).getD 0 =
      WrapClock.stamp (since held last) := by
  rw [since, timed_append]
  cases timed held with
  | none => by_cases zero : WrapClock.stamp last.atMs = 0 <;> simp [zero]
  | some pass => rfl

theorem hold_append (passes : List Pass) (pass : Pass) :
    hold (passes ++ [pass]) = if pass.pressed then hold passes ++ [pass] else [] :=
  List.rtakeWhile_concat ..

/-- The passes are in the order of their times. -/
def InOrder (passes : List Pass) : Prop := passes.Pairwise fun a b => a.laterMs ≤ b.atMs

theorem since_le (before : List Pass) (pass : Pass) (ordered : InOrder (before ++ [pass])) :
    since (hold before) pass ≤ pass.laterMs := by
  obtain ⟨-, -, later⟩ := List.pairwise_append.mp ordered
  rw [since]
  cases found : timed (hold before ++ [pass]) with
  | none => exact pass.inOrder
  | some first =>
    have among := List.mem_of_find?_eq_some found
    rcases List.mem_append.mp among with early | same
    · have first_le := later first ((List.rtakeWhile_suffix _ _).subset early) pass
        (List.mem_singleton.mpr rfl)
      exact first.inOrder.trans (first_le.trans pass.inOrder)
    · rw [List.mem_singleton.mp same]
      exact pass.inOrder

section
variable {pressed : Bool} {before : List Pass} {board : BoardService} (pass : Pass)

/-- A pass goes by the time of the press so far, and keeps it. -/
theorem Timing.loop (timing : Timing pressed before board)
    (ordered : InOrder (before ++ [pass])) :
    Timing pressed (before ++ [pass]) (board.loop pass).1 ∧
      ((board.loop pass).2 = true ↔ Resets pressed before pass) := by
  obtain ⟨resetArmed, resetWarning, pressStartedAt, statusLed⟩ := board
  obtain ⟨armed, started, waiting⟩ := timing
  dsimp only at armed started waiting
  by_cases ready : Armed pressed before
  · obtain rfl := armed.mpr ready
    obtain rfl := started ready
    have still : Armed pressed (before ++ [pass]) := (armed_append ..).mpr (Or.inl ready)
    cases down : pass.pressed with
    | false =>
      refine ⟨⟨iff_of_true ?_ still, fun _ => ?_, fun no => absurd still no⟩, ?_⟩
      · simp [BoardService.loop, down]
      · rw [hold_append, down]
        simp [BoardService.loop, down, timed]
      · simp [BoardService.loop, Resets, down]
    | true =>
      have clock := stamp_since (hold before) pass
      have elapsed := WrapClock.elapsed_toNat pass.laterMs _ (since_le before pass ordered)
      refine ⟨⟨iff_of_true ?_ still, fun _ => ?_, fun no => absurd still no⟩, ?_⟩
      · simp [BoardService.loop, down]
      · rw [hold_append, down, if_pos rfl, stamp_timed, ← clock]
        simp [BoardService.loop, down]
      · have reset : (10000 : UInt32) ≤ WrapClock.stamp pass.laterMs -
            WrapClock.stamp (since (hold before) pass) ↔
            10000 ≤ (pass.laterMs - since (hold before) pass) % 2 ^ 32 := by
          rw [UInt32.le_iff_toNat_le, elapsed]
          rfl
        rw [Resets, ← reset, ← clock]
        simp [BoardService.loop, BoardService.kFactoryResetAfterMs, down, ready]
  · have unarmed : resetArmed = false := Bool.eq_false_iff.mpr fun up => ready (armed.mp up)
    obtain rfl := unarmed
    obtain rfl := waiting ready
    have after := armed_append pressed before pass
    rw [or_iff_right ready] at after
    refine ⟨⟨?_, fun now => ?_, fun _ => ?_⟩, ?_⟩
    · rw [after]
      simp [BoardService.loop]
    · rw [hold_append, after.mp now]
      simp [BoardService.loop, timed]
    · simp [BoardService.loop]
    · simp [BoardService.loop, Resets, ready]

end

/-! Runs. -/

section
variable (pressed : Bool) (device : Device) (passes : List (Pass × Clears))

def NoneResets (before : List (Pass × Clears)) : Prop :=
  ∀ early x later, before = early ++ x :: later → ¬ Resets pressed (early.map Prod.fst) x.1

theorem noneResets_append (before : List (Pass × Clears)) (x : Pass × Clears) :
    NoneResets pressed (before ++ [x]) ↔
      NoneResets pressed before ∧ ¬ Resets pressed (before.map Prod.fst) x.1 := by
  constructor
  · intro none
    refine ⟨fun early y later same => ?_, none before x [] rfl⟩
    refine none early y (later ++ [x]) ?_
    rw [same, List.append_assoc, List.cons_append]
  · rintro ⟨none, last⟩ early y later same
    rcases List.eq_nil_or_concat later with rfl | ⟨rest, z, rfl⟩
    · obtain ⟨rfl, rfl⟩ := List.append_inj' same rfl |>.imp id List.singleton_inj.mp
      exact last
    · have split : before ++ [x] = (early ++ y :: rest) ++ [z] := by
        rw [same, List.concat_eq_append, List.append_assoc, List.cons_append]
      exact none early y rest (List.append_inj' split rfl).1

/-- Until a pass performs the reset the device is up, with what was stored. -/
theorem run_until (ordered : InOrder (passes.map Prod.fst)) :
    let after := run Device.step (device.start pressed) passes
    (NoneResets pressed passes → Timing pressed (passes.map Prod.fst) after.board ∧
      after = { device with board := after.board, restarted := false }) ∧
    (¬ NoneResets pressed passes → ∃ board early x later, passes = early ++ x :: later ∧
      NoneResets pressed early ∧ Resets pressed (early.map Prod.fst) x.1 ∧
      after = { device with board := board }.performFactoryReset x.2) := by
  induction passes using List.reverseRecOn with
  | nil =>
    refine ⟨fun _ => ⟨.begin pressed, rfl⟩, fun some_ => absurd ?_ some_⟩
    intro early x later same
    cases early <;> cases same
  | append_singleton before x ih =>
    rw [List.map_append] at ordered
    obtain ⟨up, down⟩ := ih (List.pairwise_append.mp ordered).1
    rw [run_append, run_cons, run_nil]
    by_cases none : NoneResets pressed before
    · obtain ⟨timing, same⟩ := up none
      obtain ⟨next, resets⟩ := timing.loop x.1 ordered
      generalize run Device.step (device.start pressed) before = d at same next resets
      have running : d.restarted = false := by rw [same]
      have looped : (d.board.loop x.1).2 = true ↔ Resets pressed (before.map Prod.fst) x.1 := resets
      cases reset : (d.board.loop x.1).2 with
      | false =>
        have kept : Device.step d x = { d with board := (d.board.loop x.1).1 } := by
          rw [Device.step, running, if_neg Bool.false_ne_true, ← Prod.eta (d.board.loop x.1), reset]
        have quiet : ¬ Resets pressed (before.map Prod.fst) x.1 := fun resets =>
          Bool.false_ne_true (reset.symm.trans (looped.mpr resets))
        refine ⟨fun _ => ?_, fun some_ => absurd ((noneResets_append ..).mpr ⟨none, quiet⟩) some_⟩
        rw [kept, List.map_append]
        refine ⟨next, ?_⟩
        rw [same]
      | true =>
        have erased : Device.step d x =
            { d with board := (d.board.loop x.1).1 }.performFactoryReset x.2 := by
          rw [Device.step, running, if_neg Bool.false_ne_true, ← Prod.eta (d.board.loop x.1), reset]
        refine ⟨fun all => absurd (looped.mp reset) ((noneResets_append ..).mp all).2, fun _ => ?_⟩
        refine ⟨(d.board.loop x.1).1, before, x, [], rfl, none, looped.mp reset, ?_⟩
        rw [erased, same]
        rfl
    · obtain ⟨board, early, y, later, split, first, resets, same⟩ := down none
      refine ⟨fun all => absurd ((noneResets_append ..).mp all).1 none, fun _ => ?_⟩
      refine ⟨board, early, y, later ++ [x], ?_, first, resets, ?_⟩
      · rw [split, List.append_assoc, List.cons_append]
      · rw [same]
        rfl

end

/-! The boot after the reset. -/

theorem loadSlots_cleared (beyond : UInt8) (slots : List UInt8) :
    Stores.loadSlots beyond (fun _ => none) slots = some [] := by
  induction slots with
  | nil => rfl
  | cons slot rest ih =>
    rw [Stores.loadSlots, ih]
    rfl

theorem loadModbusChannels_cleared (beyond : UInt8) (outcomes : List Bool)
    (modbus : ModbusComponent) (channels : ChannelRegistry) :
    loadModbusChannels beyond { outcomes := outcomes } modbus channels =
      some (modbus, channels) := by
  rw [loadModbusChannels, loadSlots_cleared]
  rfl

theorem boot_cleared_isSome (config : Application.DeviceConfig) (clock : Clock) (beyond : UInt8)
    (ring : History.Ring) (retransmission : History.RetransmissionState) (outcomes : List Bool) :
    (boot config clock beyond ring retransmission { outcomes := outcomes }).isSome = true := by
  obtain ⟨mode, lora, classC, hardwareMac48⟩ := config
  unfold boot
  simp only [loadModbusChannels_cleared]
  cases mode with
  | disabled => rfl
  | master => rfl
  | slave => rfl

theorem boot_cleared (config : Application.DeviceConfig) (clock : Clock) (beyond : UInt8)
    (ring : History.Ring) (retransmission : History.RetransmissionState) (outcomes : List Bool) :
    ∃ app, boot config clock beyond ring retransmission { outcomes := outcomes } = some app ∧
      app.modbus.channels = [] ∧ app.channels = {} ∧ app.rules.state = {} ∧
      app.timeSettings = {} ∧ app.scheduler.settings = {} ∧ app.history.settings = {} ∧
      app.modbus.rs485Settings = {} ∧ app.modbus.masterSettings = {} := by
  obtain ⟨app, booted⟩ := Option.isSome_iff_exists.mp
    (boot_cleared_isSome config clock beyond ring retransmission outcomes)
  obtain ⟨flash, report, time, history, rs485, master, ready, channels, rules⟩ :=
    boot_booted config clock beyond ring retransmission _ app booted
  obtain ⟨modbus, taken, empty, loaded, same⟩ := channels
  rw [loadModbusChannels_cleared] at loaded
  obtain ⟨rfl, registry⟩ := Prod.mk.inj (Option.some.inj loaded)
  refine ⟨app, booted, same.trans empty, registry.symm, ?_, (Option.some.inj time).symm,
    (Option.some.inj report).symm, ?_, (Option.some.inj rs485).symm, (Option.some.inj master).symm⟩
  · rw [rules, Stores.loadRules]
    congr 1
    funext index
    split <;> rfl
  · exact (Option.some.inj history).symm

/-- What the next boot finds is what the first boot of a device finds: no configuration, so that it
starts with the defaults and a new key, no password, no state of LoRaWAN, and in the stores of the
application neither settings nor channels, rules and records. -/
structure LikeNew (d : Device) : Prop where
  unconfigured : ∀ config, d.configStore.load config = (config, d.configStore, false)
  unprovisioned : d.security = {}
  unjoined : d.lorawan = {}
  unrecorded : ∀ ring, History.PersistentHistoryStore.load d.stores.rings ring = ⟨ring.clear, 0, true⟩
  connected : d.stores.loadRetransmission = some {}
  defaults : ∀ config clock beyond ring retransmission, ∃ app,
    boot config clock beyond ring retransmission d.stores = some app ∧
      app.modbus.channels = [] ∧ app.channels = {} ∧ app.rules.state = {} ∧
      app.timeSettings = {} ∧ app.scheduler.settings = {} ∧ app.history.settings = {} ∧
      app.modbus.rs485Settings = {} ∧ app.modbus.masterSettings = {}

theorem likeNew_of_clears (clears : Clears) (all : ∀ store, clears store = true) (d : Device) :
    LikeNew (d.performFactoryReset clears) := by
  have cleared : (d.performFactoryReset clears).stores = { outcomes := d.stores.outcomes } := by
    simp [Device.performFactoryReset, clearSubsystemStores, all]
  constructor
  · intro config
    simp [Device.performFactoryReset, all, ConfigStore.clear, ConfigStore.load, isKey]
  · simp [Device.performFactoryReset, all, SecurityStore.clear]
  · simp [Device.performFactoryReset, all]
  · intro ring
    rw [cleared]
    rfl
  · rw [cleared]
    rfl
  · intro config clock beyond ring retransmission
    rw [cleared]
    exact boot_cleared config clock beyond ring retransmission _

/-- A device restarts in the pass, and only in the pass, in which the button has been found down
without a break for ten seconds, after it had been found up since the boot. Until then nothing that
is stored has changed; and if all the clears complete, what the next boot finds is like new. -/
theorem factory_reset_exact (pressed : Bool) (device : Device) (passes : List (Pass × Clears))
    (ordered : InOrder (passes.map Prod.fst)) :
    let after := run Device.step (device.start pressed) passes
    (after.restarted = true ↔ ∃ early x later, passes = early ++ x :: later ∧
      Resets pressed (early.map Prod.fst) x.1) ∧
    (after.restarted = false → after = { device with board := after.board, restarted := false }) ∧
    (after.restarted = true → (∀ x ∈ passes, ∀ store, x.2 store = true) → LikeNew after) := by
  intro after
  obtain ⟨up, down⟩ := run_until pressed device passes ordered
  by_cases none : NoneResets pressed passes
  · obtain ⟨-, same⟩ := up none
    have running : after.restarted = false := congrArg Device.restarted same
    rw [running]
    refine ⟨iff_of_false Bool.false_ne_true ?_, fun _ => same, (fun no => by cases no)⟩
    rintro ⟨early, x, later, split, resets⟩
    exact none early x later split resets
  · obtain ⟨board, early, x, later, split, -, resets, same⟩ := down none
    have restarted : after.restarted = true := congrArg Device.restarted same
    rw [restarted]
    refine ⟨iff_of_true rfl ⟨early, x, later, split, resets⟩, (fun no => by cases no), ?_⟩
    intro _ all
    have among : x ∈ passes := by
      rw [split]
      exact List.mem_append_right _ List.mem_cons_self
    change LikeNew (run Device.step (device.start pressed) passes)
    rw [same]
    exact likeNew_of_clears x.2 (all x among) _

def wrappedPress : List (Pass × Clears) :=
  [(⟨false, 1000, 1000, le_rfl⟩, fun _ => true),
    (⟨true, 2 ^ 32, 2 ^ 32, le_rfl⟩, fun _ => true),
    (⟨true, 2 ^ 32 + 2, 2 ^ 32 + 2, le_rfl⟩, fun _ => true),
    (⟨true, 2 ^ 32 + 10000, 2 ^ 32 + 10000, le_rfl⟩, fun _ => true),
    (⟨true, 2 ^ 32 + 10002, 2 ^ 32 + 10002, le_rfl⟩, fun _ => true)]

theorem factory_reset_exact_wrapped :
    (run Device.step (({ board := {} } : Device).start true) (wrappedPress.take 4)).restarted =
      false ∧
    LikeNew (run Device.step (({ board := {} } : Device).start true) wrappedPress) := by
  have ordered : InOrder (wrappedPress.map Prod.fst) := by
    simp [InOrder, wrappedPress]
  obtain ⟨-, -, likeNew⟩ := factory_reset_exact true { board := {} } wrappedPress ordered
  refine ⟨by decide +kernel, likeNew (by decide +kernel) ?_⟩
  simp [wrappedPress]

end Board
