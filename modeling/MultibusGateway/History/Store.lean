import MultibusGateway.History.Image
import MultibusGateway.Library.Preferences

/-! The ring kept in two flash slots. Each save goes to the slot of its generation's parity,
so that the slot of the generation before it stays whole until the next save. -/

namespace History
open ByteString Preferences

inductive RingKey where
  | slotA
  | slotB
  deriving DecidableEq, Repr

abbrev Ring := HistoryRing kPersistentHistoryCapacity

instance : NeZero kPersistentHistoryCapacity := ⟨by decide⟩

structure PersistentHistoryStore where
  generation : UInt32 := 0
  deriving DecidableEq, Inhabited

namespace PersistentHistoryStore

abbrev RingFlash := Flash RingKey Bytes

def loadKey (flash : RingFlash) (key : RingKey) : Option (Ring × UInt32) :=
  match flash key with
  | none => none
  | some image =>
      if image.length = 0 then none
      else if image.length ≠ HistoryImageCodec.kImageLength kPersistentHistoryCapacity then none
      else HistoryImageCodec.decode image

def newerGeneration (a b : UInt32) : Bool := 0 < (a - b).toInt32

/-- The ring and the generation taken over by a load, and the value it returns. -/
structure Loaded where
  ring : Ring
  generation : UInt32
  success : Bool

def load (flash : RingFlash) (ring : Ring) : Loaded :=
  match loadKey flash .slotA, loadKey flash .slotB with
  | none, none => ⟨ring.clear, 0, !isKey flash .slotA && !isKey flash .slotB⟩
  | some (a, generationA), none => ⟨a, generationA, true⟩
  | none, some (b, generationB) => ⟨b, generationB, true⟩
  | some (a, generationA), some (b, generationB) =>
      if newerGeneration generationA generationB then ⟨a, generationA, true⟩
      else ⟨b, generationB, true⟩

def slotOf (generation : UInt32) : RingKey := if generation &&& 1 = 0 then .slotA else .slotB

def save (store : PersistentHistoryStore) (flash : RingFlash) (ring : Ring)
    (outcome : PutOutcome Bytes) : RingFlash × PersistentHistoryStore × Bool :=
  let nextGeneration := store.generation + 1
  let image := HistoryImageCodec.encode ring nextGeneration
  let (flash, written) := put flash (slotOf nextGeneration) image outcome
  (flash, if written then ⟨nextGeneration⟩ else store, written)

theorem slotOf_succ (generation : UInt32) : slotOf (generation + 1) ≠ slotOf generation := by
  have parity : ∀ g : UInt32, (g &&& 1 = 0) ↔ g.toNat % 2 = 0 := by
    intro g
    rw [← UInt32.toNat_inj, UInt32.toNat_and]
    exact iff_of_eq (congrArg (· = 0) (Nat.and_one_is_mod g.toNat))
  simp only [slotOf, parity, UInt32.toNat_add, UInt32.toNat_one]
  split <;> split
  · omega
  · simp
  · simp
  · omega

theorem slot_eq_of_ne {held slot key : RingKey} (other : slot ≠ held) (apart : key ≠ held) :
    slot = key := by
  cases held <;> cases slot <;> cases key <;> simp_all

theorem newerGeneration_pred (generation : UInt32) :
    newerGeneration generation (generation - 1) = true ∧
      newerGeneration (generation - 1) generation = false := by
  have ahead : generation - (generation - 1) = 1 := by grind
  have behind : generation - 1 - generation = -1 := by grind
  rw [newerGeneration, newerGeneration, ahead, behind]
  decide

theorem loadKey_encode (flash : RingFlash) (key : RingKey) (ring : Ring) (generation : UInt32)
    (stored : flash key = some (HistoryImageCodec.encode ring generation))
    (marked : ∀ record ∈ ring.toList, record.marked = true) :
    ∃ decoded, loadKey flash key = some (decoded, generation) ∧
      decoded.toList = ring.toList := by
  obtain ⟨decoded, read, same⟩ :=
    HistoryImageCodec.decode_encode ring generation (by decide) marked
  refine ⟨decoded, ?_, same⟩
  have length := HistoryImageCodec.encode_length ring generation
  rw [loadKey, stored]
  simp only
  rw [if_neg, if_neg (by rw [length]; simp), read]
  rw [length]
  decide

/-- A load takes the slot of the latest generation when the other slot is one behind it, or
holds nothing that is accepted. -/
theorem load_latest (flash : RingFlash) (memory ring : Ring) (generation : UInt32)
    (held other : RingKey) (apart : other ≠ held)
    (latest : loadKey flash held = some (ring, generation))
    (behind : loadKey flash other = none ∨
      ∃ older, loadKey flash other = some (older, generation - 1)) :
    load flash memory = ⟨ring, generation, true⟩ := by
  have order := newerGeneration_pred generation
  cases held with
  | slotA =>
      obtain rfl : other = .slotB := slot_eq_of_ne apart (by decide)
      obtain none | ⟨older, some⟩ := behind
      · simp only [load, latest, none]
      · simp only [load, latest, some, order.1, if_true]
  | slotB =>
      obtain rfl : other = .slotA := slot_eq_of_ne apart (by decide)
      obtain none | ⟨older, some⟩ := behind
      · simp only [load, latest, none]
      · simp only [load, latest, some, order.2, Bool.false_eq_true, if_false]

theorem load_absent (flash : RingFlash) (memory : Ring) (absent : ∀ key, flash key = none) :
    load flash memory = ⟨memory.clear, 0, true⟩ := by
  simp [load, loadKey, isKey, absent]

end PersistentHistoryStore

end History
