import Mathlib.Data.List.Chain
import MultibusGateway.Lorawan.Radio

/-! What the radio does where the flash fails, and what is in the flash while it does not. -/

namespace Lorawan
open ByteString Config Execution

def Transmitted.saved {noncesSize sessionSize : ℕ} : Transmitted noncesSize sessionSize → Bool
  | .boot => true
  | .uplink _ saved | .joinRequest _ saved => saved

namespace LoRaWanRadio
variable {noncesSize sessionSize : ℕ}

/-- After a transmission whose state was not saved, the next thing is a boot. -/
def Quarantined (log : List (Transmitted noncesSize sessionSize)) : Prop :=
  log.IsChain fun first later => first.saved = true ∨ later = .boot

def LastSaved (log : List (Transmitted noncesSize sessionSize)) : Prop :=
  ∀ last ∈ log.getLast?, last.saved = true

structure Intact (r : LoRaWanRadio noncesSize sessionSize) : Prop where
  quarantined : Quarantined r.log
  healthy : r.persistenceHealthy = true → LastSaved r.log

theorem Intact.of_log {r after : LoRaWanRadio noncesSize sessionSize} (intact : Intact r)
    (log : after.log = r.log)
    (healthy : after.persistenceHealthy = true → r.persistenceHealthy = true) :
    Intact after := by
  refine ⟨?_, fun still => ?_⟩
  · rw [log]
    exact intact.quarantined
  · rw [log]
    exact intact.healthy (healthy still)

theorem Intact.transmit {r after : LoRaWanRadio noncesSize sessionSize} (intact : Intact r)
    (healthy : r.persistenceHealthy = true) (last : Transmitted noncesSize sessionSize)
    (log : after.log = r.log ++ [last])
    (saved : after.persistenceHealthy = true → last.saved = true) : Intact after := by
  refine ⟨?_, fun still => ?_⟩
  · rw [log]
    refine List.isChain_append.mpr ⟨intact.quarantined, List.isChain_singleton _, ?_⟩
    intro first member later _
    exact .inl (intact.healthy healthy first member)
  · rw [log, LastSaved, List.getLast?_concat]
    intro other same
    cases same
    exact saved still

theorem persistSession_intact (calls : StateCalls) {r : LoRaWanRadio noncesSize sessionSize}
    (intact : Intact r) : Intact (r.persistSession calls).1 := by
  refine intact.of_log rfl fun still => ?_
  unfold persistSession at still
  dsimp only at still
  split at still
  · exact still
  · cases still

theorem activate_log (answers : JoinAnswers noncesSize sessionSize)
    (r : LoRaWanRadio noncesSize sessionSize) :
    (r.activate answers).log = r.log ∧
      (r.activate answers).persistenceHealthy = r.persistenceHealthy := by
  unfold activate applyConfiguredClass
  cases answers.activated.state <;> cases answers.setClass.done <;> exact ⟨rfl, rfl⟩

theorem persistJoinState_log (nonces session : StateCalls)
    (r : LoRaWanRadio noncesSize sessionSize) :
    (r.persistJoinState nonces session).1.log = r.log ∧
      (r.persistJoinState nonces session).1.persistenceHealthy = r.persistenceHealthy := by
  unfold persistJoinState
  dsimp only
  split
  · exact ⟨rfl, rfl⟩
  · split <;> exact ⟨rfl, rfl⟩

theorem tryJoin_intact (answers : JoinAnswers noncesSize sessionSize)
    {r : LoRaWanRadio noncesSize sessionSize} (intact : Intact r) :
    Intact (r.tryJoin answers).1 := by
  unfold tryJoin
  cases ready : r.ready with
  | false => exact intact
  | true =>
    rw [Bool.not_true, if_neg Bool.false_ne_true]
    have healthy : r.persistenceHealthy = true := (Bool.and_eq_true_iff.mp ready).2
    have persisted := persistJoinState_log answers.saveNonces answers.saveSession
      (r.activate answers)
    rw [(activate_log answers r).1, (activate_log answers r).2] at persisted
    generalize (r.activate answers).persistJoinState answers.saveNonces
      answers.saveSession = result at persisted ⊢
    cases result with
    | mk after saved =>
      dsimp only at persisted ⊢
      cases answers.activated.requested with
      | false =>
        rw [if_neg Bool.false_ne_true]
        cases saved with
        | false => exact intact.of_log persisted.1 fun still => by cases still
        | true =>
          cases after.joined <;> exact intact.of_log persisted.1 fun _ => healthy
      | true =>
        rw [if_pos rfl]
        cases saved with
        | false =>
          exact intact.transmit healthy (.joinRequest r.node.nonces false)
            (congrArg (· ++ [_]) persisted.1) fun still => by cases still
        | true =>
          cases after.joined <;>
            exact intact.transmit healthy (.joinRequest r.node.nonces true)
              (congrArg (· ++ [_]) persisted.1) fun _ => rfl

theorem Intact.of_last {r after : LoRaWanRadio noncesSize sessionSize}
    (quarantined : Quarantined r.log) (last : LastSaved r.log) (log : after.log = r.log) :
    Intact after := by
  refine ⟨?_, fun _ => ?_⟩ <;> rw [log] <;> assumption

theorem beginJoin_intact (answers : BeginAnswers noncesSize sessionSize)
    {r : LoRaWanRadio noncesSize sessionSize} (quarantined : Quarantined r.log)
    (last : LastSaved r.log) : Intact (r.beginJoin answers).1 := by
  have healthy : Intact { r with persistenceHealthy := true } :=
    Intact.of_last quarantined last rfl
  exact tryJoin_intact answers.join healthy

theorem beginSession_intact (answers : BeginAnswers noncesSize sessionSize)
    (session : Buffer sessionSize) {r : LoRaWanRadio noncesSize sessionSize}
    (quarantined : Quarantined r.log) (last : LastSaved r.log) (unhealthy : r.persistenceHealthy = false) :
    Intact (r.beginSession answers session).1 := by
  unfold beginSession
  cases (answers.setSession session).done with
  | true =>
    rw [if_pos rfl]
    dsimp only
    split
    · unfold applyConfiguredClass
      cases answers.setClass.done <;> exact Intact.of_last quarantined last rfl
    · split
      · have healthy : Intact { r with persistenceHealthy := true } :=
          Intact.of_last quarantined last rfl
        refine healthy.transmit rfl (.joinRequest (answers.setSession session).node.nonces false)
          rfl ?_
        intro still
        cases unhealthy.symm.trans still
      · exact Intact.of_last quarantined last rfl
  | false =>
    rw [if_neg Bool.false_ne_true]
    unfold clearStored
    dsimp only
    generalize r.stateStore.clearSession r.stateIdentity answers.clear = result
    cases result with
    | mk store cleared =>
      cases cleared with
      | false => exact Intact.of_last quarantined last rfl
      | true => exact beginJoin_intact answers quarantined last

theorem beginNode_intact (answers : BeginAnswers noncesSize sessionSize)
    {r : LoRaWanRadio noncesSize sessionSize} (quarantined : Quarantined r.log)
    (last : LastSaved r.log) (unhealthy : r.persistenceHealthy = false) :
    Intact (r.beginNode answers).1 := by
  unfold beginNode
  generalize r.stateStore.load r.stateIdentity answers.load = result
  obtain ⟨store, found, nonces, session⟩ := result
  cases found with
  | false => exact Intact.of_last quarantined last rfl
  | true =>
    cases nonces with
    | none => exact beginJoin_intact answers quarantined last
    | some nonces =>
      dsimp only
      split
      · exact Intact.of_last quarantined last rfl
      · cases session with
        | none => exact beginJoin_intact answers quarantined last
        | some session => exact beginSession_intact answers session quarantined last unhealthy

theorem begin_intact (answers : BeginAnswers noncesSize sessionSize)
    {r : LoRaWanRadio noncesSize sessionSize} (quarantined : Quarantined r.log)
    (last : LastSaved r.log) : Intact (r.begin answers).1 := by
  unfold begin
  dsimp only
  split
  · exact Intact.of_last quarantined last rfl
  · split
    · exact Intact.of_last quarantined last rfl
    · exact beginNode_intact answers quarantined last rfl

theorem boot_intact (config : LoRaWanConfig) (devEui : Bytes)
    (begins : Option (BeginAnswers noncesSize sessionSize)) (node : Node noncesSize sessionSize)
    {r : LoRaWanRadio noncesSize sessionSize} (intact : Intact r) :
    Intact (r.boot config devEui begins node) := by
  have quarantined : Quarantined (r.log ++ [.boot]) := by
    refine List.isChain_append.mpr ⟨intact.quarantined, List.isChain_singleton _, ?_⟩
    intro first _ later member
    cases member
    exact .inr rfl
  have last : LastSaved (r.log ++ [.boot]) := by
    rw [LastSaved, List.getLast?_concat]
    intro other same
    cases same
    rfl
  unfold boot
  cases begins with
  | none => exact ⟨quarantined, fun _ => last⟩
  | some answers => exact begin_intact answers quarantined last

theorem exchange_intact (answers : SendAnswers noncesSize sessionSize)
    {r : LoRaWanRadio noncesSize sessionSize} (intact : Intact r)
    (healthy : r.persistenceHealthy = true) : Intact (r.exchange answers).1 := by
  have persisted : Intact ({ r with node := answers.node }.persistSession answers.save).1 :=
    persistSession_intact answers.save (intact.of_log rfl fun still => still)
  unfold exchange
  dsimp only
  split
  · refine intact.transmit healthy _ rfl fun still => ?_
    unfold persistSession at still ⊢
    dsimp only [Transmitted.saved] at still ⊢
    split at still
    case isTrue saved => exact saved
    case isFalse => cases still
  · exact persisted

theorem send_intact (envelope : TransportEnvelope) (answers : SendAnswers noncesSize sessionSize)
    {r : LoRaWanRadio noncesSize sessionSize} (intact : Intact r) :
    Intact (send afterwards envelope answers r).1 := by
  unfold send
  cases accepted : r.accepts envelope with
  | false => exact intact
  | true =>
    have healthy : r.persistenceHealthy = true := by
      unfold accepts at accepted
      cases payload : envelope.payload with
      | none =>
        rw [payload] at accepted
        cases accepted
      | some bytes =>
        rw [payload] at accepted
        simp only [Bool.and_eq_true] at accepted
        exact accepted.1.1.1.1.2
    have exchanged := exchange_intact answers intact healthy
    rw [Bool.not_true, if_neg Bool.false_ne_true]
    generalize r.exchange answers = result at exchanged ⊢
    cases result with
    | mk after saved =>
      cases saved with
      | false => exact exchanged
      | true =>
        cases answers.state with
        | done =>
          dsimp only
          rw [dispatch_afterwards]
          exact exchanged
        | failed => exact exchanged
        | sessionLost =>
          dsimp only
          unfold clearStored
          dsimp only
          generalize after.stateStore.clearSession after.stateIdentity answers.clear = result
          cases result with
          | mk store cleared =>
            cases cleared with
            | false => exact exchanged.of_log rfl fun still => by cases still
            | true => exact exchanged.of_log rfl fun still => still

theorem performNetworkTimeSync_intact (answers : TimeSyncAnswers noncesSize sessionSize)
    {r : LoRaWanRadio noncesSize sessionSize} (intact : Intact r)
    (healthy : r.persistenceHealthy = true) :
    Intact (performNetworkTimeSync afterwards answers r) := by
  have requested : Intact { r with node := answers.request.node } :=
    intact.of_log rfl fun still => still
  have exchanged := exchange_intact answers.exchange requested healthy
  unfold performNetworkTimeSync
  dsimp only
  split
  · exact requested
  · generalize exchange answers.exchange { r with node := answers.request.node } = result
      at exchanged ⊢
    cases result with
    | mk after saved =>
      cases saved with
      | false => exact exchanged
      | true =>
        dsimp only
        rw [dispatch_afterwards, ite_self]
        exact exchanged

theorem pollClassCDownlink_intact (answers : ClassCAnswers noncesSize sessionSize)
    {r : LoRaWanRadio noncesSize sessionSize} (intact : Intact r) :
    Intact (pollClassCDownlink afterwards answers r) := by
  have received : Intact { r with node := answers.node } := intact.of_log rfl fun still => still
  have persisted := persistSession_intact answers.save received
  unfold pollClassCDownlink
  dsimp only
  split
  · exact received
  · generalize persistSession answers.save { r with node := answers.node } = result
      at persisted ⊢
    cases result with
    | mk after saved =>
      cases saved with
      | false => exact persisted
      | true =>
        dsimp only
        rw [dispatch_afterwards]
        exact persisted

theorem rejoin_intact (answers : RejoinAnswers noncesSize sessionSize)
    {r : LoRaWanRadio noncesSize sessionSize} (intact : Intact r) :
    Intact (r.rejoin answers).1 := by
  unfold rejoin clearStored
  dsimp only
  generalize r.stateStore.clearSession r.stateIdentity answers.clear = result
  cases result with
  | mk store cleared =>
    cases cleared with
    | false => exact intact.of_log rfl fun still => by cases still
    | true => exact intact.of_log rfl fun still => still

theorem step_intact (r : LoRaWanRadio noncesSize sessionSize)
    (event : Event noncesSize sessionSize) (intact : Intact r) : Intact (r.step event) := by
  cases event with
  | boot config devEui begins node => exact boot_intact config devEui begins node intact
  | rejoin answers =>
    unfold step
    dsimp only
    split
    · exact rejoin_intact answers intact
    · exact intact
  | timeSync answers =>
    unfold step
    dsimp only
    split
    case isTrue requested =>
      have ready := (Bool.and_eq_true_iff.mp (Bool.and_eq_true_iff.mp requested).1).1
      exact performNetworkTimeSync_intact answers (intact.of_log rfl fun still => still)
        (Bool.and_eq_true_iff.mp ready).2
    case isFalse => exact intact
  | classC answers =>
    unfold step
    dsimp only
    split
    · exact pollClassCDownlink_intact answers intact
    · exact intact
  | join nowMs answers =>
    unfold step
    dsimp only
    split
    · exact tryJoin_intact answers intact
    · exact intact
  | request request =>
    cases request with
    | send envelope answers => exact send_intact envelope answers intact
    | requestRejoin =>
      unfold step serve requestRejoin
      dsimp only
      split <;> exact intact.of_log rfl fun still => still
    | requestNetworkTimeSync =>
      unfold step serve requestNetworkTimeSync
      dsimp only
      split <;> exact intact.of_log rfl fun still => still

/-- Whatever the node and the flash do, in every order of boots, passes of the loop and calls: after
an uplink or a join request whose state could not be saved nothing is transmitted until the next
boot. -/
theorem quarantined_run (keys : StateKeys) (node : Node noncesSize sessionSize)
    (events : List (Event noncesSize sessionSize)) :
    Quarantined (run step { node := node, stateStore := { keys := keys } } events).log := by
  have start : Intact ({ node := node, stateStore := { keys := keys } } :
      LoRaWanRadio noncesSize sessionSize) :=
    ⟨List.isChain_nil, fun _ last member => by cases member⟩
  exact (invariant_run step Intact (fun _ _ => True)
    (fun r event intact _ => step_intact r event intact) _ events start
    fun _ _ => trivial).quarantined

end LoRaWanRadio
end Lorawan
