import MultibusGateway.Core.State
import MultibusGateway.Lorawan.Radio

/-! The radio of the application stands for the radio itself: it keeps the flags, and of an uplink
what became of it. -/

namespace Application
open ByteString Lorawan

variable {noncesSize sessionSize : ℕ}

/-- The radio with the mode that it is used in, `active` once its begin has succeeded. -/
structure LoRaComponent (noncesSize sessionSize : ℕ) where
  active : Bool := false
  radio : LoRaWanRadio noncesSize sessionSize

namespace LoRaComponent

/-- Only in the LoRaWAN mode the radio is begun. -/
def begin (mode : LoRaMode) (answers : BeginAnswers noncesSize sessionSize)
    (c : LoRaComponent noncesSize sessionSize) : LoRaComponent noncesSize sessionSize × Bool :=
  match mode with
  | .disabled => (c, true)
  | .meshtastic => (c, false)
  | .lorawan =>
    if !c.radio.provisioned then (c, false)
    else
      let (radio, begun) := c.radio.begin answers
      ({ active := begun, radio := radio }, begun)

def connected (c : LoRaComponent noncesSize sessionSize) : Bool := c.active && c.radio.joined

def requestRejoin (c : LoRaComponent noncesSize sessionSize) :
    LoRaComponent noncesSize sessionSize × Bool :=
  if !c.active then (c, false)
  else
    let (radio, requested) := c.radio.requestRejoin
    ({ c with radio := radio }, requested)

def requestNetworkTimeSync (c : LoRaComponent noncesSize sessionSize) :
    LoRaComponent noncesSize sessionSize × Bool :=
  if !c.active then (c, false)
  else
    let (radio, requested) := c.radio.requestNetworkTimeSync
    ({ c with radio := radio }, requested)

def send (envelope : TransportEnvelope) (answers : SendAnswers noncesSize sessionSize)
    (c : LoRaComponent noncesSize sessionSize) : LoRaComponent noncesSize sessionSize × Bool :=
  if !c.active then (c, false)
  else
    let (radio, sent) := c.radio.send LoRaWanRadio.afterwards envelope answers
    ({ c with radio := radio }, sent)

def seen (exchanges : List Exchange) (c : LoRaComponent noncesSize sessionSize) : Radio where
  active := c.active
  provisioned := c.radio.provisioned
  radioReady := c.radio.radioReady
  joined := c.radio.joined
  persistenceHealthy := c.radio.persistenceHealthy
  rejoinRequested := c.radio.rejoinRequested
  networkTimeSyncRequested := c.radio.networkTimeSyncRequested
  nextJoinAtMs := c.radio.nextJoinAtMs
  exchanges := exchanges

def sendState : SendState → ExchangeState
  | .done => .done
  | .sessionLost => .sessionLost
  | .failed => .failed

def received (downlink : Received) : Downlink := ⟨downlink.fPort, downlink.payload⟩

def exchangeOf (elapsedUs : ℕ) (answers : SendAnswers noncesSize sessionSize)
    (c : LoRaComponent noncesSize sessionSize) : Exchange where
  elapsedUs := elapsedUs
  sessionSaved := (c.radio.exchange answers).2
  state := sendState answers.state
  sessionCleared :=
    ({ (c.radio.exchange answers).1 with joined := false, node := answers.cleared }.clearStored
      answers.clear).2
  downlink := answers.downlink.map received

theorem accepts_seen (exchanges : List Exchange) (c : LoRaComponent noncesSize sessionSize)
    (endpoint : UInt8) (payload : Bytes) (confirmed : Bool) :
    (c.seen exchanges).accepts endpoint payload =
      (c.active && c.radio.accepts ⟨endpoint, some payload, confirmed⟩) := by
  simp only [Radio.accepts, seen, LoRaWanRadio.accepts, Bool.and_assoc]

theorem exchange_seen (active : Bool) (exchanges : List Exchange)
    (answers : SendAnswers noncesSize sessionSize) (r : LoRaWanRadio noncesSize sessionSize) :
    seen exchanges ⟨active, (r.exchange answers).1⟩ =
      { seen exchanges ⟨active, r⟩ with
        persistenceHealthy :=
          if (r.exchange answers).2 then r.persistenceHealthy else false } := by
  unfold LoRaWanRadio.exchange
  dsimp only
  split <;> rfl

/-- The radio after an accepted uplink is, for the application, the one that its exchange
concludes. -/
theorem send_seen (exchanges : List Exchange) (elapsedUs : ℕ) (envelope : TransportEnvelope)
    (answers : SendAnswers noncesSize sessionSize) (c : LoRaComponent noncesSize sessionSize)
    (accepted : (c.active && c.radio.accepts envelope) = true) :
    (c.send envelope answers).1.seen exchanges =
        (c.seen exchanges).conclude (c.exchangeOf elapsedUs answers)
          (WrapClock.stamp answers.endMs) ∧
      (c.send envelope answers).2 =
        ((c.exchangeOf elapsedUs answers).sessionSaved &&
          decide ((c.exchangeOf elapsedUs answers).state = .done)) := by
  obtain ⟨active, radio⟩ := c
  obtain ⟨rfl, accepts⟩ := Bool.and_eq_true_iff.mp accepted
  have after := exchange_seen true exchanges answers radio
  unfold send LoRaWanRadio.send Radio.conclude exchangeOf
  rw [Bool.not_true, if_neg Bool.false_ne_true]
  dsimp only at accepts ⊢
  rw [accepts, Bool.not_true, if_neg Bool.false_ne_true]
  generalize radio.exchange answers = result at after ⊢
  obtain ⟨left, saved⟩ := result
  cases saved with
  | false => exact ⟨after, rfl⟩
  | true =>
    cases answers.state with
    | done =>
      dsimp only
      rw [LoRaWanRadio.dispatch_afterwards]
      exact ⟨after, rfl⟩
    | failed => exact ⟨after, rfl⟩
    | sessionLost =>
      have lost : seen exchanges ⟨true, { left with joined := false, node := answers.cleared }⟩ =
          { seen exchanges ⟨true, radio⟩ with joined := false } := by
        change { seen exchanges ⟨true, left⟩ with joined := false } = _
        rw [after]
        rfl
      have kept : seen exchanges ⟨true,
          ({ left with joined := false, node := answers.cleared }.clearStored answers.clear).1⟩ =
          seen exchanges ⟨true, { left with joined := false, node := answers.cleared }⟩ := rfl
      rw [lost] at kept
      dsimp only
      generalize { left with joined := false, node := answers.cleared }.clearStored
        answers.clear = result at kept ⊢
      obtain ⟨last, cleared⟩ := result
      cases cleared with
      | false =>
        refine ⟨?_, rfl⟩
        change { seen exchanges ⟨true, last⟩ with persistenceHealthy := false } = _
        rw [kept]
        rfl
      | true =>
        refine ⟨?_, rfl⟩
        change { seen exchanges ⟨true, last⟩ with
          nextJoinAtMs := WrapClock.stamp answers.endMs + LoRaWanRadio.kJoinRetryMs } = _
        rw [kept]
        rfl

def dispatched (answers : SendAnswers noncesSize sessionSize) : Option Downlink :=
  (answers.downlink.map received).filter fun downlink =>
    !(downlink.payload.length = 0 || downlink.fport == 0)

theorem requestRejoin_seen (exchanges : List Exchange)
    (c : LoRaComponent noncesSize sessionSize) :
    (c.seen exchanges).requestRejoin =
      (c.requestRejoin.1.seen exchanges, c.requestRejoin.2) := by
  obtain ⟨active, r⟩ := c
  unfold Radio.requestRejoin requestRejoin LoRaWanRadio.requestRejoin
  cases active with
  | false => rfl
  | true =>
    have guard : (!true || !r.radioReady || !r.provisioned || !r.persistenceHealthy) =
        !r.ready := by
      rw [LoRaWanRadio.ready, Bool.not_and, Bool.not_and]
      rfl
    change (if (!true || !r.radioReady || !r.provisioned || !r.persistenceHealthy) = true then _
      else _) = _
    rw [guard]
    cases r.ready <;> rfl

theorem requestNetworkTimeSync_seen (exchanges : List Exchange)
    (c : LoRaComponent noncesSize sessionSize) :
    (c.seen exchanges).requestNetworkTimeSync =
      (c.requestNetworkTimeSync.1.seen exchanges, c.requestNetworkTimeSync.2) := by
  obtain ⟨active, r⟩ := c
  unfold Radio.requestNetworkTimeSync requestNetworkTimeSync LoRaWanRadio.requestNetworkTimeSync
  cases active with
  | false => rfl
  | true =>
    change (if (!true || !r.joined || !r.persistenceHealthy) = true then _ else _) = _
    dsimp only
    rw [Bool.not_true, Bool.false_or]
    cases !r.joined || !r.persistenceHealthy <;> rfl

/-- The application's calls of the radio do what those of the radio do, over everything that the
application sees of it: whether an uplink is accepted, which state and answer it leaves, and what
downlink is handled then; and the same of its two requests. The answers of the node and the flash
are any. -/
theorem calls_simulated (deliver : Deliver State) (note : State → State) (endpoint : UInt8)
    (payload : Bytes) (confirmed : Bool) (answers : SendAnswers noncesSize sessionSize)
    (c : LoRaComponent noncesSize sessionSize) (elapsedUs : ℕ) (rest : List Exchange)
    (app : State) :
    let answers := { answers with endMs := (app.clock.uptimeUs + elapsedUs) / 1000 }
    let exchanges := c.exchangeOf elapsedUs answers :: rest
    let sent := c.send ⟨endpoint, some payload, confirmed⟩ answers
    let after :=
      { app with clock := app.clock.advance elapsedUs, radio := sent.1.seen rest }
    Application.send deliver note endpoint payload { app with radio := c.seen exchanges } =
        (if (c.active && c.radio.accepts ⟨endpoint, some payload, confirmed⟩) = false then
          ({ app with radio := c.seen exchanges }, false)
        else if sent.2 = false then (after, false)
        else
          match dispatched answers with
          | none => (note after, true)
          | some downlink => ((deliver (note after) downlink).1, true)) ∧
      (c.seen rest).requestRejoin = (c.requestRejoin.1.seen rest, c.requestRejoin.2) ∧
      (c.seen rest).requestNetworkTimeSync =
        (c.requestNetworkTimeSync.1.seen rest, c.requestNetworkTimeSync.2) := by
  refine ⟨?_, requestRejoin_seen rest c, requestNetworkTimeSync_seen rest c⟩
  generalize answers' : { answers with endMs := (app.clock.uptimeUs + elapsedUs) / 1000 } = a
  have ends : WrapClock.stamp a.endMs = (app.clock.advance elapsedUs).millis := by
    rw [← answers']
    rfl
  unfold Application.send
  dsimp only
  rw [accepts_seen _ c endpoint payload confirmed]
  cases accepted : c.active && c.radio.accepts ⟨endpoint, some payload, confirmed⟩ with
  | false => rfl
  | true =>
    obtain ⟨state, sent⟩ := send_seen rest elapsedUs ⟨endpoint, some payload, confirmed⟩ a c
      accepted
    have next : exchanged (c.exchangeOf elapsedUs a) rest
        { app with radio := c.seen (c.exchangeOf elapsedUs a :: rest) } =
        { app with
          clock := app.clock.advance elapsedUs
          radio := (c.send ⟨endpoint, some payload, confirmed⟩ a).1.seen rest } := by
      rw [state, ends]
      rfl
    have failed : (!(c.exchangeOf elapsedUs a).sessionSaved ||
        decide ((c.exchangeOf elapsedUs a).state ≠ .done)) =
        !(c.send ⟨endpoint, some payload, confirmed⟩ a).2 := by
      rw [sent, Bool.not_and, decide_not]
    change (if (!true) = true then _ else if (!(c.exchangeOf elapsedUs a).sessionSaved ||
      decide ((c.exchangeOf elapsedUs a).state ≠ .done)) = true then
        (exchanged (c.exchangeOf elapsedUs a) rest _, false) else _) = _
    rw [failed, next]
    cases (c.send ⟨endpoint, some payload, confirmed⟩ a).2 with
    | false => rfl
    | true =>
      unfold dispatched exchangeOf
      cases a.downlink with
      | none => rfl
      | some downlink =>
        change (if _ then _ else if _ then _ else if (decide (downlink.payload.length = 0) ||
          downlink.fPort == 0) = true then _ else _) = _
        cases empty : decide (downlink.payload.length = 0) || downlink.fPort == 0 with
        | false =>
          have kept : Option.filter (fun downlink : Downlink =>
              !(downlink.payload.length = 0 || downlink.fport == 0))
              (some (received downlink)) = some (received downlink) := by
            refine Option.filter_some_pos ?_
            exact congrArg not empty
          rw [Option.map_some, kept]
          rfl
        | true =>
          have gone : Option.filter (fun downlink : Downlink =>
              !(downlink.payload.length = 0 || downlink.fport == 0))
              (some (received downlink)) = none := by
            refine Option.filter_some_neg ?_
            exact congrArg not empty
          rw [Option.map_some, gone]
          rfl

end LoRaComponent
end Application
