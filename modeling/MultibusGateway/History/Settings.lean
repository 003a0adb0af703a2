import Mathlib.Data.Nat.Notation

/-! Settings of the history and the state of a retransmission. -/

namespace History

def kMinRetransmissionIntervalSeconds : UInt16 := 30

def kMaxRetransmissionIntervalSeconds : UInt16 := 1200

def kMinRetrievabilityIntervalSeconds : UInt16 := 30

def kMaxRetrievabilityIntervalSeconds : UInt16 := 1200

structure Settings where
  storageEnabled : Bool := false
  retransmissionEnabled : Bool := false
  retransmissionIntervalSeconds : UInt16 := 600
  retrievabilityIntervalSeconds : UInt16 := 60
  deriving DecidableEq, Inhabited

def validSettings (settings : Settings) : Bool :=
  settings.retransmissionIntervalSeconds ≥ kMinRetransmissionIntervalSeconds &&
    settings.retransmissionIntervalSeconds ≤ kMaxRetransmissionIntervalSeconds &&
    settings.retrievabilityIntervalSeconds ≥ kMinRetrievabilityIntervalSeconds &&
    settings.retrievabilityIntervalSeconds ≤ kMaxRetrievabilityIntervalSeconds

structure RetransmissionState where
  pending : Bool := false
  lostAtUnix : UInt32 := 0
  deriving DecidableEq, Inhabited

end History
