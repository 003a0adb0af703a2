import MultibusGateway.History.Store
import MultibusGateway.Library.Execution

/-! Runs of the persistent history over saves, failed saves, saves torn by a power loss,
reboots and loads. A load gives back the ring of the last completed save in every run that
saves only rings of records with the mark, saves after the load that follows a reboot, and
does not lose power in a save before the first one has completed. -/

namespace History
open ByteString Preferences Execution

structure TornImage where
  image : Bytes
  rejected : (HistoryImageCodec.decode image : Option (Ring × UInt32)) = none

def erased : TornImage := ⟨[], by decide⟩

inductive JournalStep where
  | save (ring : Ring)
  | failedSave (ring : Ring)
  | tornSave (ring : Ring) (left : TornImage)
  | reboot
  | load

structure CompletedSave where
  records : List HistoricalRecord
  generation : UInt32
  slot : RingKey

structure Journal where
  flash : PersistentHistoryStore.RingFlash := fun _ => none
  store : PersistentHistoryStore := {}
  completed : Option CompletedSave := none

namespace Journal

def target (s : Journal) : RingKey := PersistentHistoryStore.slotOf (s.store.generation + 1)

def save (s : Journal) (ring : Ring) (outcome : PutOutcome Bytes) : Journal :=
  let (flash, store, success) := s.store.save s.flash ring outcome
  { flash
    store
    completed := if success then some ⟨ring.toList, store.generation, s.target⟩
      else s.completed }

def reboot (s : Journal) : Journal := { s with store := {} }

def loaded (s : Journal) : PersistentHistoryStore.Loaded :=
  PersistentHistoryStore.load s.flash default

def step (s : Journal) : JournalStep → Journal
  | .save ring => s.save ring .stored
  | .failedSave ring => s.save ring .refused
  | .tornSave ring left => (s.save ring (.torn left.image)).reboot
  | .reboot => s.reboot
  | .load => { s with store := ⟨s.loaded.generation⟩ }

def records (s : Journal) : List HistoricalRecord :=
  (s.completed.map CompletedSave.records).getD []

/-- What a step has to do: a load succeeds with the records of the last completed save, and a
save spares the slot that holds them. -/
def Correct (s : Journal) : JournalStep → Prop
  | .load => s.loaded.success = true ∧ s.loaded.ring.toList = s.records
  | .reboot => True
  | _ => ∀ last, s.completed = some last → s.target ≠ last.slot

def Current (s : Journal) : Prop :=
  ∀ last, s.completed = some last → s.store.generation = last.generation

def Sound (s : Journal) : JournalStep → Prop
  | .save ring => s.Current ∧ ∀ record ∈ ring.toList, record.marked = true
  | .failedSave _ => s.Current
  | .tornSave _ _ => s.Current ∧ s.completed ≠ none
  | .reboot => True
  | .load => True

/-- The last completed image is whole, and the other slot has no image that is accepted, or
that of the save before. -/
structure Held (s : Journal) (last : CompletedSave) : Prop where
  slot : last.slot = PersistentHistoryStore.slotOf last.generation
  marked : ∃ ring : Ring, ring.toList = last.records ∧
    (∀ record ∈ ring.toList, record.marked = true) ∧
    s.flash last.slot = some (HistoryImageCodec.encode ring last.generation)
  behind : ∀ other, other ≠ last.slot → PersistentHistoryStore.loadKey s.flash other = none ∨
    ∃ older, PersistentHistoryStore.loadKey s.flash other = some (older, last.generation - 1)

def Invariant (s : Journal) : Prop :=
  match s.completed with
  | none => (∀ key, s.flash key = none) ∧ s.store.generation = 0
  | some last => s.Held last

theorem invariant_empty : Invariant {} := ⟨fun _ => rfl, rfl⟩

theorem loadKey_congr (flash written : PersistentHistoryStore.RingFlash) (key : RingKey)
    (same : written key = flash key) :
    PersistentHistoryStore.loadKey written key = PersistentHistoryStore.loadKey flash key := by
  simp only [PersistentHistoryStore.loadKey, same]

theorem loadKey_rejected (flash : PersistentHistoryStore.RingFlash) (key : RingKey)
    (left : TornImage) (torn : flash key = some left.image) :
    PersistentHistoryStore.loadKey flash key = none := by
  simp only [PersistentHistoryStore.loadKey, torn, left.rejected]
  split <;> simp

theorem target_apart (s : Journal) (last : CompletedSave) (held : s.Held last)
    (current : s.store.generation = last.generation) : s.target ≠ last.slot := by
  rw [target, current, held.slot]
  exact PersistentHistoryStore.slotOf_succ last.generation

theorem held_loadKey (s : Journal) (last : CompletedSave) (held : s.Held last) :
    ∃ ring, PersistentHistoryStore.loadKey s.flash last.slot = some (ring, last.generation) ∧
      ring.toList = last.records := by
  obtain ⟨ring, content, marked, stored⟩ := held.marked
  obtain ⟨decoded, read, same⟩ :=
    PersistentHistoryStore.loadKey_encode s.flash last.slot ring last.generation stored marked
  exact ⟨decoded, read, same.trans content⟩

theorem exists_other (slot : RingKey) : ∃ other, other ≠ slot := by
  cases slot with
  | slotA => exact ⟨.slotB, by decide⟩
  | slotB => exact ⟨.slotA, by decide⟩

theorem load_correct (s : Journal) (invariant : s.Invariant) :
    s.loaded.success = true ∧ s.loaded.ring.toList = s.records := by
  cases completed : s.completed with
  | none =>
      simp only [Invariant, completed] at invariant
      rw [loaded, PersistentHistoryStore.load_absent s.flash default invariant.1]
      simp [records, completed]
  | some last =>
      simp only [Invariant, completed] at invariant
      obtain ⟨ring, read, same⟩ := held_loadKey s last invariant
      obtain ⟨other, apart⟩ := exists_other last.slot
      rw [loaded, PersistentHistoryStore.load_latest s.flash default ring last.generation
        last.slot other apart read (invariant.behind other apart)]
      simp [records, completed, same]

/-- The slot that was not written keeps its image when a save completes. -/
theorem held_save (s : Journal) (ring : Ring) (invariant : s.Invariant) (current : s.Current)
    (marked : ∀ record ∈ ring.toList, record.marked = true) :
    (s.save ring .stored).Held ⟨ring.toList, s.store.generation + 1, s.target⟩ := by
  refine ⟨rfl, ⟨ring, rfl, marked, by simp [save, PersistentHistoryStore.save, put, target]⟩, ?_⟩
  intro other apart
  have same : PersistentHistoryStore.loadKey (s.save ring .stored).flash other =
      PersistentHistoryStore.loadKey s.flash other :=
    loadKey_congr _ _ _ (put_other s.flash _ other _ .stored apart)
  rw [same]
  cases completed : s.completed with
  | none =>
      simp only [Invariant, completed] at invariant
      exact .inl (by simp [PersistentHistoryStore.loadKey, invariant.1])
  | some last =>
      simp only [Invariant, completed] at invariant
      have generation := current last completed
      obtain rfl : last.slot = other :=
        PersistentHistoryStore.slot_eq_of_ne (target_apart s last invariant generation).symm apart
      obtain ⟨older, read, -⟩ := held_loadKey s last invariant
      have before : s.store.generation + 1 - 1 = last.generation := by
        rw [generation]
        grind
      exact .inr ⟨older, by rw [read, before]⟩

/-- A torn save loses only what the other slot had. -/
theorem held_torn (s : Journal) (ring : Ring) (left : TornImage) (last : CompletedSave)
    (held : s.Held last) (apart : s.target ≠ last.slot) :
    (s.save ring (.torn left.image)).Held last := by
  obtain ⟨kept, content, marked, stored⟩ := held.marked
  refine ⟨held.slot, ⟨kept, content, marked, ?_⟩, ?_⟩
  · rw [← stored]
    exact put_other s.flash s.target last.slot
      (HistoryImageCodec.encode ring (s.store.generation + 1)) (.torn left.image) apart.symm
  · intro other otherApart
    obtain rfl : other = s.target := PersistentHistoryStore.slot_eq_of_ne otherApart apart
    exact .inl (loadKey_rejected _ _ left (Function.update_self s.target _ _))

theorem invariant_step (s : Journal) (x : JournalStep) (invariant : s.Invariant)
    (sound : s.Sound x) : (s.step x).Invariant := by
  cases x with
  | save ring =>
      obtain ⟨current, marked⟩ := sound
      exact held_save s ring invariant current marked
  | failedSave ring => exact invariant
  | tornSave ring left =>
      obtain ⟨current, some⟩ := sound
      obtain ⟨last, completed⟩ := Option.ne_none_iff_exists'.mp some
      simp only [Invariant, completed] at invariant
      have held := held_torn s ring left last invariant
        (target_apart s last invariant (current last completed))
      have kept : (s.step (.tornSave ring left)).completed = Option.some last := completed
      simp only [Invariant, kept]
      exact ⟨held.slot, held.marked, held.behind⟩
  | reboot =>
      cases completed : s.completed with
      | none =>
          simp only [Invariant, completed] at invariant
          simpa [Invariant, step, reboot, completed] using invariant.1
      | some last =>
          simp only [Invariant, completed] at invariant
          simp only [Invariant, step, reboot, completed]
          exact ⟨invariant.slot, invariant.marked, invariant.behind⟩
  | load =>
      cases completed : s.completed with
      | none =>
          simp only [Invariant, completed] at invariant
          simp only [Invariant, step, completed, loaded,
            PersistentHistoryStore.load_absent s.flash default invariant.1]
          exact ⟨invariant.1, trivial⟩
      | some last =>
          simp only [Invariant, completed] at invariant
          simp only [Invariant, step, completed]
          exact ⟨invariant.slot, invariant.marked, invariant.behind⟩

theorem correct_of_invariant (s : Journal) (x : JournalStep) (invariant : s.Invariant)
    (sound : s.Sound x) : s.Correct x := by
  have apart : s.Current → ∀ last, s.completed = some last → s.target ≠ last.slot := by
    intro current last completed
    simp only [Invariant, completed] at invariant
    exact target_apart s last invariant (current last completed)
  cases x with
  | save ring => exact apart sound.1
  | failedSave ring => exact apart sound
  | tornSave ring left => exact apart sound.1
  | reboot => trivial
  | load => exact load_correct s invariant

/-- Along a run of sound steps from the empty store, every load gives back the last completed
save and no save overwrites it. -/
theorem loads_last_completed (xs : List JournalStep) (sound : Always step Sound {} xs) :
    Always step Correct {} xs :=
  Always.mono step (fun s x both => correct_of_invariant s x both.1 both.2)
    (Always.and step (invariant_steps step Invariant Sound invariant_step {} xs
      invariant_empty sound) sound)

/-- A ring of one record that failed to be read at second one. -/
def oneRecord : Ring :=
  (default : Ring).push (HistoricalRecord.readAt [0x21, 0xce, 1, 0, 0, 0, 1] 0)

/-- Two saves complete and power is lost in a third: the load goes back to the second. -/
theorem loads_last_completed_torn :
    Always step Correct {} [.load, .save oneRecord, .save default,
      .tornSave oneRecord erased, .load] :=
  loads_last_completed _ (by
    have marked : ∀ record ∈ oneRecord.toList, record.marked = true := by decide
    refine (always_cons _ _ _ _ _).mpr ⟨trivial, ?_⟩
    refine (always_cons _ _ _ _ _).mpr ⟨⟨?_, marked⟩, ?_⟩
    · intro last completed
      cases completed
    refine (always_cons _ _ _ _ _).mpr ⟨⟨?_, by simp⟩, ?_⟩
    · intro last completed
      cases completed
      rfl
    refine (always_cons _ _ _ _ _).mpr ⟨⟨?_, nofun⟩, ?_⟩
    · intro last completed
      cases completed
      rfl
    exact (always_cons _ _ _ _ _).mpr ⟨trivial, always_nil _ _ _⟩)

/-- Power is lost in the very first save: no slot has an accepted image, and a key is present. -/
theorem first_save_torn : ¬ Always step Correct {} [.tornSave oneRecord erased, .load] := by
  intro always
  have correct := always ((step {} (.tornSave oneRecord erased)), .load) (by simp [steps])
  exact absurd correct.1 (by decide)

end Journal
end History
