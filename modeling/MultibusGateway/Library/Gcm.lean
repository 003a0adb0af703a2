import MultibusGateway.Library.ByteString

/-! The authenticated encryption GCM over any block cipher: a text is xored with a stream of
enciphered counters, and the tag is a polynomial over the field of 128 bits of what is sent. -/

namespace Gcm
open ByteString

abbrev Block := BitVec 128

def ofBytes (bytes : Bytes) : Block :=
  BitVec.ofNat 128 (bytes.foldl (fun number byte => number * 256 + byte.toNat) 0)

def toBytes (block : Block) : Bytes :=
  (List.range 16).map fun i => UInt8.ofNat (block.toNat / 2 ^ (8 * (15 - i)))

def reduction : Block := 0xe1 <<< 120

def double (v : Block) : Block :=
  if v.getLsbD 0 then (v >>> 1) ^^^ reduction else v >>> 1

def multiplyFrom (x : Block) : Nat → Block → Block → Block
  | 0, z, _ => z
  | bits + 1, z, v => multiplyFrom x bits (if x.getLsbD bits then z ^^^ v else z) (double v)

def multiply (x y : Block) : Block := multiplyFrom x 128 0 y

def ghash (h : Block) : Nat → Block → Bytes → Block
  | 0, y, _ => y
  | blocks + 1, y, bytes =>
    ghash h blocks (multiply (y ^^^ ofBytes (bytes.take 16)) h) (bytes.drop 16)

def padded (bytes : Bytes) : Bytes :=
  bytes ++ List.replicate ((16 - bytes.length % 16) % 16) 0

def lengthBytes (bytes : Bytes) : Bytes :=
  (List.range 8).map fun i => UInt8.ofNat (8 * bytes.length / 2 ^ (8 * (7 - i)))

def increment (block : Block) : Block :=
  BitVec.ofNat 128 (block.toNat / 2 ^ 32 * 2 ^ 32 + (block.toNat + 1) % 2 ^ 32)

section
variable (cipher : Block → Block) (nonce aad : Bytes)

def hash (bytes : Bytes) : Block := ghash (cipher 0) (bytes.length / 16) 0 bytes

def firstCounter : Block :=
  if nonce.length = 12 then ofBytes (nonce ++ [0, 0, 0, 1])
  else hash cipher (padded nonce ++ List.replicate 8 0 ++ lengthBytes nonce)

def keystream : Nat → Block → Bytes
  | 0, _ => []
  | blocks + 1, counter => toBytes (cipher counter) ++ keystream blocks (increment counter)

def counterMode (counter : Block) (text : Bytes) : Bytes :=
  List.zipWith (· ^^^ ·) text (keystream cipher ((text.length + 15) / 16) counter)

def tagOf (ciphertext : Bytes) : Bytes :=
  toBytes (hash cipher (padded aad ++ padded ciphertext ++ lengthBytes aad ++
    lengthBytes ciphertext) ^^^ cipher (firstCounter cipher nonce))

def encrypt (text : Bytes) : Bytes × Bytes :=
  let ciphertext := counterMode cipher (increment (firstCounter cipher nonce)) text
  (ciphertext, tagOf cipher nonce aad ciphertext)

/-- Nothing comes back from a ciphertext without its tag. -/
def decrypt (tag ciphertext : Bytes) : Option Bytes :=
  if tag = tagOf cipher nonce aad ciphertext then
    some (counterMode cipher (increment (firstCounter cipher nonce)) ciphertext)
  else none

@[simp] theorem toBytes_length (block : Block) : (toBytes block).length = 16 := by
  rw [toBytes, List.length_map, List.length_range]

theorem keystream_length (blocks : Nat) (counter : Block) :
    (keystream cipher blocks counter).length = 16 * blocks := by
  induction blocks generalizing counter with
  | zero => rfl
  | succ blocks ih =>
    rw [keystream, List.length_append, toBytes_length, ih]
    omega

@[simp] theorem counterMode_length (counter : Block) (text : Bytes) :
    (counterMode cipher counter text).length = text.length := by
  rw [counterMode, List.length_zipWith, keystream_length]
  omega

theorem counterMode_counterMode (counter : Block) (text : Bytes) :
    counterMode cipher counter (counterMode cipher counter text) = text := by
  have same : (counterMode cipher counter text).length = text.length :=
    counterMode_length cipher counter text
  apply List.ext_getElem
  · rw [counterMode_length, same]
  · intro i inside inside'
    simp only [counterMode, List.getElem_zipWith, List.length_zipWith, keystream_length] at *
    have blocks : min text.length (16 * ((text.length + 15) / 16)) = text.length := by omega
    simp only [blocks, UInt8.xor_assoc, UInt8.xor_self, UInt8.xor_zero]

@[simp] theorem tagOf_length (ciphertext : Bytes) :
    (tagOf cipher nonce aad ciphertext).length = 16 := toBytes_length _

theorem encrypt_length (text : Bytes) :
    (encrypt cipher nonce aad text).1.length = text.length :=
  counterMode_length cipher _ text

theorem encrypt_tag_length (text : Bytes) : (encrypt cipher nonce aad text).2.length = 16 :=
  tagOf_length cipher nonce aad _

/-- What is accepted is what was encrypted, and nothing else. -/
theorem decrypt_eq_some_iff (tag ciphertext text : Bytes) :
    decrypt cipher nonce aad tag ciphertext = some text ↔
      encrypt cipher nonce aad text = (ciphertext, tag) := by
  have undone := counterMode_counterMode cipher (increment (firstCounter cipher nonce))
  constructor
  · intro accepted
    rw [decrypt] at accepted
    split at accepted
    · rename_i authentic
      rw [Option.some.injEq] at accepted
      subst accepted
      rw [encrypt, undone, authentic]
    · cases accepted
  · intro sent
    rw [encrypt, Prod.mk.injEq] at sent
    obtain ⟨rfl, rfl⟩ := sent
    rw [decrypt, if_pos rfl, undone]

end

end Gcm
