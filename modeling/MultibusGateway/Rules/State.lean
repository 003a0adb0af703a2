import Mathlib.Logic.Function.Basic
import MultibusGateway.Library.ByteString

/-! Rule records: the enabled flag and the stored condition and action frames of the
sixteen rules. -/

namespace Rules
open ByteString

def kRuleCount : Nat := 16

def kMaxRuleFrameLength : Nat := 58

/-- The part of a rule that a frame configures. -/
inductive RuleFrameSlot where
  | condition | action1 | action2 | action3
  deriving DecidableEq, Inhabited

def RuleFrameSlot.all : List RuleFrameSlot := [.condition, .action1, .action2, .action3]

/-- A frame buffer of which the first `length` bytes are in use. -/
structure StoredFrame where
  length : UInt8 := 0
  data : Vector UInt8 kMaxRuleFrameLength := Vector.replicate _ 0
  bounded : length.toNat ≤ kMaxRuleFrameLength := by decide
  deriving DecidableEq

namespace StoredFrame

instance : Inhabited StoredFrame := ⟨{}⟩

def bytes (frame : StoredFrame) : Bytes := frame.data.toList

def content (frame : StoredFrame) : Bytes := frame.bytes.take frame.length.toNat

def present (frame : StoredFrame) : Bool := frame.length != 0

/-- `none` when the source is refused. -/
def set (frame : StoredFrame) (source : Bytes) : Option StoredFrame :=
  if h : source.length < 4 ∨ source.length > kMaxRuleFrameLength then none
  else some
    { length := UInt8.ofNat source.length
      data := Vector.ofFn fun i => if i < source.length then byteAt source i else frame.data[i]
      bounded := by
        have limit : kMaxRuleFrameLength = 58 := rfl
        rw [UInt8.toNat_ofNat', Nat.mod_eq_of_lt (by omega)]
        omega }

theorem bytes_length (frame : StoredFrame) : frame.bytes.length = kMaxRuleFrameLength := by
  simp [bytes]

theorem set_cases (frame frame' : StoredFrame) (source : Bytes)
    (stored : frame.set source = some frame') :
    4 ≤ source.length ∧ source.length ≤ kMaxRuleFrameLength ∧
      frame'.length.toNat = source.length ∧
      ∀ k < source.length, byteAt frame'.bytes k = byteAt source k := by
  have limit : kMaxRuleFrameLength = 58 := rfl
  unfold set at stored
  split at stored
  · cases stored
  · rename_i range
    obtain rfl := Option.some.inj stored
    refine ⟨by omega, by omega, ?_, ?_⟩
    · rw [UInt8.toNat_ofNat', Nat.mod_eq_of_lt (by omega)]
    · intro k hk
      have inside : k < kMaxRuleFrameLength := by omega
      simp [byteAt, bytes, inside, hk]

theorem set_content (frame frame' : StoredFrame) (source : Bytes)
    (stored : frame.set source = some frame') : frame'.content = source := by
  obtain ⟨-, most, length, same⟩ := set_cases frame frame' source stored
  apply List.ext_getElem
  · rw [content, List.length_take, bytes_length, length]
    omega
  · intro i hi hs
    have byte := same i hs
    have inside : i < frame'.bytes.length := by
      rw [bytes_length]
      omega
    rw [byteAt_eq_getElem _ _ inside, byteAt_eq_getElem _ _ hs] at byte
    simpa [content] using byte

end StoredFrame

structure RuleRecord where
  enabled : Bool := false
  frames : RuleFrameSlot → StoredFrame := fun _ => default

namespace RuleRecord

def configured (record : RuleRecord) : Bool :=
  RuleFrameSlot.all.any fun slot => (record.frames slot).present

def setFrame (record : RuleRecord) (slot : RuleFrameSlot) (frame : StoredFrame) : RuleRecord :=
  { record with frames := Function.update record.frames slot frame }

end RuleRecord

/-- The records of rules 1 to 16; rule `id` stands at index `id - 1`. -/
structure RuleState where
  rules : Nat → RuleRecord := fun _ => {}

namespace RuleState

def rule (state : RuleState) (ruleId : UInt8) : Option RuleRecord :=
  if ruleId < 1 || ruleId.toNat > kRuleCount then none
  else some (state.rules (ruleId - 1).toNat)

def setRule (state : RuleState) (ruleId : UInt8) (record : RuleRecord) : RuleState :=
  ⟨Function.update state.rules (ruleId - 1).toNat record⟩

end RuleState

end Rules
