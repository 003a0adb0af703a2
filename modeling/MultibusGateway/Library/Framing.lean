import Mathlib.Data.List.SplitBy
import MultibusGateway.Library.ByteString

/-! Decoders that only look at the bytes they consume, and strings made of decoded items.
Such a decoder finds the same item whatever follows it, so items that are put one after the
other are found again one after the other. -/

namespace Framing
open ByteString
variable {α β ε : Type*}

structure Agree (n : Nat) (p q : Bytes) : Prop where
  left : n ≤ p.length
  right : n ≤ q.length
  bytes : ∀ i < n, byteAt q i = byteAt p i

theorem agree_of_take {n : Nat} {p q : Bytes} (inside : n ≤ p.length)
    (same : q.take n = p.take n) : Agree n p q := by
  have lengths := congrArg List.length same
  rw [List.length_take, List.length_take] at lengths
  refine ⟨inside, by omega, fun i small => ?_⟩
  rw [← byteAt_take q n i small, same, byteAt_take p n i small]

namespace Agree
variable {n : Nat} {p q : Bytes} (agree : Agree n p q)
include agree

theorem mono {m : Nat} (fewer : m ≤ n) : Agree m p q :=
  ⟨by have := agree.left; omega, by have := agree.right; omega,
    fun i small => agree.bytes i (by omega)⟩

theorem readU16 {k : Nat} (inside : k + 2 ≤ n) : ByteString.readU16 q k = ByteString.readU16 p k :=
  readU16_congr q p k (agree.bytes k (by omega)) (agree.bytes (k + 1) (by omega))

theorem readU32 {k : Nat} (inside : k + 4 ≤ n) : ByteString.readU32 q k = ByteString.readU32 p k :=
  readU32_congr q p k fun i small => agree.bytes (k + i) (by omega)

theorem slice {k m : Nat} (inside : k + m ≤ n) : (q.drop k).take m = (p.drop k).take m := by
  have left := agree.left
  have right := agree.right
  apply List.ext_getElem
  · simp only [List.length_take, List.length_drop]
    omega
  · intro i hq hp
    simp only [List.length_take, List.length_drop] at hq hp
    have byte := agree.bytes (k + i) (by omega)
    rw [byteAt_eq_getElem q _ (by omega), byteAt_eq_getElem p _ (by omega)] at byte
    simpa using byte

end Agree

/-- A decoder, as the relation between strings, items and sizes, is local when an item has a
least size, lies within the string, and is found in every string that starts with it. -/
def Local (least : Nat) (accepts : Bytes → α → Nat → Prop) : Prop :=
  ∀ p item n, accepts p item n →
    least ≤ n ∧ n ≤ p.length ∧ ∀ q, Agree n p q → accepts q item n

/-- A decoder of one size that gives the same result on strings that agree in that size. -/
theorem local_of_fixed (least n : Nat) (decode : Bytes → Except ε (α × Nat)) (enough : least ≤ n)
    (size : ∀ p item k, decode p = .ok (item, k) → k = n ∧ n ≤ p.length)
    (same : ∀ p q, Agree n p q → decode q = decode p) :
    Local least fun p item k => decode p = .ok (item, k) := by
  intro p item k decoded
  obtain ⟨rfl, inside⟩ := size p item k decoded
  exact ⟨enough, inside, fun q agree => (same p q agree).trans decoded⟩

/-- The items of a string, up to what remains of it. -/
inductive Items (decode : Bytes → Option (α × Nat)) : Bytes → List α → Bytes → Prop
  | done (p : Bytes) : Items decode p [] p
  | item {p rest : Bytes} {n : Nat} {item : α} {items : List α}
      (first : decode p = some (item, n)) (others : Items decode (p.drop n) items rest) :
      Items decode p (item :: items) rest

theorem items_flatMap (least : Nat) (decode : Bytes → Option (α × Nat))
    (isLocal : Local least fun p item n => decode p = some (item, n))
    (pieces : List (Bytes × α))
    (single : ∀ piece ∈ pieces, decode piece.1 = some (piece.2, piece.1.length)) (rest : Bytes) :
    Items decode (pieces.flatMap Prod.fst ++ rest) (pieces.map Prod.snd) rest := by
  induction pieces with
  | nil => exact .done rest
  | cons piece others ih =>
    have tail := ih fun other member => single other (List.mem_cons_of_mem _ member)
    obtain ⟨-, -, found⟩ := isLocal _ _ _ (single piece List.mem_cons_self)
    rw [List.flatMap_cons, List.append_assoc, List.map_cons]
    refine .item (found _ ?_) ?_
    · exact agree_of_take (Nat.le_refl _) (by rw [List.take_left, List.take_length])
    · rw [List.drop_left]
      exact tail

def decodeAll (decode : Bytes → Option (α × Nat)) : Nat → Bytes → Option (List α)
  | _, [] => some []
  | 0, _ :: _ => none
  | fuel + 1, b :: p =>
    match decode (b :: p) with
    | none => none
    | some (item, n) => (decodeAll decode fuel ((b :: p).drop n)).map (item :: ·)

/-- Items that are decoded from their own bytes, whatever follows, are decoded one by one. -/
theorem decodeAll_flatMap (decode : Bytes → Option (α × Nat)) (bytes : α → Bytes)
    (items : List α) (single : ∀ item ∈ items, bytes item ≠ [] ∧
      ∀ rest, decode (bytes item ++ rest) = some (item, (bytes item).length)) (fuel : Nat)
    (enough : (items.flatMap bytes).length ≤ fuel) :
    decodeAll decode fuel (items.flatMap bytes) = some items := by
  induction items generalizing fuel with
  | nil => cases fuel <;> rfl
  | cons item others ih =>
    obtain ⟨⟨some_, first⟩, later⟩ := List.forall_mem_cons.mp single
    obtain ⟨b, p, own⟩ := List.exists_cons_of_ne_nil some_
    have found := first (others.flatMap bytes)
    rw [List.flatMap_cons] at enough ⊢
    have size : (bytes item).length = p.length + 1 := by rw [own, List.length_cons]
    rw [List.length_append] at enough
    obtain ⟨fuel, rfl⟩ : ∃ less, fuel = less + 1 := ⟨fuel - 1, by omega⟩
    have rest := ih later fuel (by omega)
    have whole : bytes item ++ others.flatMap bytes = b :: (p ++ others.flatMap bytes) := by
      rw [own, List.cons_append]
    rw [whole, decodeAll, ← whole, found]
    dsimp only
    rw [List.drop_left, rest]
    rfl

/-- Groups are found again by the items that go on with a group. -/
theorem splitBy_headed (continues : α → Bool) (groups : List (List α))
    (headed : ∀ group ∈ groups, ∃ first others, group = first :: others ∧
      continues first = false ∧ ∀ item ∈ others, continues item = true) :
    groups.flatten.splitBy (fun _ item => continues item) = groups := by
  refine List.splitBy_flatten ?_ ?_ ?_
  · intro none
    obtain ⟨first, others, shape, -⟩ := headed [] none
    cases shape
  · intro group member
    obtain ⟨first, others, rfl, -, later⟩ := headed group member
    refine List.Pairwise.isChain (List.pairwise_cons.mpr ⟨later, ?_⟩)
    exact List.pairwise_of_forall_mem_list fun _ _ item member => later item member
  · refine List.Pairwise.isChain (List.pairwise_of_forall_mem_list fun front left back right => ?_)
    obtain ⟨first, others, rfl, -⟩ := headed front left
    obtain ⟨next, more, rfl, fresh, -⟩ := headed back right
    exact ⟨List.cons_ne_nil _ _, List.cons_ne_nil _ _, fresh⟩

end Framing
