import MultibusGateway.Library.ByteString
import Mathlib.Data.Vector.Defs

/-! The hash SHA-256 and the keyed hash HMAC over it. -/

namespace Sha256
open ByteString

abbrev Digest := Vector UInt8 32

def roundConstants : List UInt32 :=
  [0x428a2f98, 0x71374491, 0xb5c0fbcf, 0xe9b5dba5, 0x3956c25b, 0x59f111f1, 0x923f82a4, 0xab1c5ed5,
    0xd807aa98, 0x12835b01, 0x243185be, 0x550c7dc3, 0x72be5d74, 0x80deb1fe, 0x9bdc06a7, 0xc19bf174,
    0xe49b69c1, 0xefbe4786, 0x0fc19dc6, 0x240ca1cc, 0x2de92c6f, 0x4a7484aa, 0x5cb0a9dc, 0x76f988da,
    0x983e5152, 0xa831c66d, 0xb00327c8, 0xbf597fc7, 0xc6e00bf3, 0xd5a79147, 0x06ca6351, 0x14292967,
    0x27b70a85, 0x2e1b2138, 0x4d2c6dfc, 0x53380d13, 0x650a7354, 0x766a0abb, 0x81c2c92e, 0x92722c85,
    0xa2bfe8a1, 0xa81a664b, 0xc24b8b70, 0xc76c51a3, 0xd192e819, 0xd6990624, 0xf40e3585, 0x106aa070,
    0x19a4c116, 0x1e376c08, 0x2748774c, 0x34b0bcb5, 0x391c0cb3, 0x4ed8aa4a, 0x5b9cca4f, 0x682e6ff3,
    0x748f82ee, 0x78a5636f, 0x84c87814, 0x8cc70208, 0x90befffa, 0xa4506ceb, 0xbef9a3f7, 0xc67178f2]

structure State where
  a : UInt32
  b : UInt32
  c : UInt32
  d : UInt32
  e : UInt32
  f : UInt32
  g : UInt32
  h : UInt32

def initial : State :=
  ⟨0x6a09e667, 0xbb67ae85, 0x3c6ef372, 0xa54ff53a, 0x510e527f, 0x9b05688c, 0x1f83d9ab, 0x5be0cd19⟩

def rotateRight (x n : UInt32) : UInt32 := (x >>> n) ||| (x <<< (32 - n))

def round (s : State) (constant word : UInt32) : State :=
  let sigma1 := rotateRight s.e 6 ^^^ rotateRight s.e 11 ^^^ rotateRight s.e 25
  let choice := (s.e &&& s.f) ^^^ (~~~s.e &&& s.g)
  let t1 := s.h + sigma1 + choice + constant + word
  let sigma0 := rotateRight s.a 2 ^^^ rotateRight s.a 13 ^^^ rotateRight s.a 22
  let majority := (s.a &&& s.b) ^^^ (s.a &&& s.c) ^^^ (s.b &&& s.c)
  ⟨t1 + (sigma0 + majority), s.a, s.b, s.c, s.d + t1, s.e, s.f, s.g⟩

def rounds (s : State) : List UInt32 → List UInt32 → State
  | [], _ => s
  | constant :: constants, words =>
    let w1 := words.getD 1 0
    let w14 := words.getD 14 0
    let s0 := rotateRight w1 7 ^^^ rotateRight w1 18 ^^^ (w1 >>> 3)
    let s1 := rotateRight w14 17 ^^^ rotateRight w14 19 ^^^ (w14 >>> 10)
    let next := words.getD 0 0 + s0 + words.getD 9 0 + s1
    rounds (round s constant (words.getD 0 0)) constants (words.drop 1 ++ [next])

def blockWords (block : Bytes) : List UInt32 :=
  (List.range 16).map fun i =>
    ((byteAt block (4 * i)).toUInt32 <<< 24) ||| ((byteAt block (4 * i + 1)).toUInt32 <<< 16) |||
      ((byteAt block (4 * i + 2)).toUInt32 <<< 8) ||| (byteAt block (4 * i + 3)).toUInt32

def compress (s : State) (block : Bytes) : State :=
  let t := rounds s roundConstants (blockWords block)
  ⟨s.a + t.a, s.b + t.b, s.c + t.c, s.d + t.d, s.e + t.e, s.f + t.f, s.g + t.g, s.h + t.h⟩

def pad (message : Bytes) : Bytes :=
  message ++ 0x80 :: List.replicate ((119 - message.length % 64) % 64) 0 ++
    (List.range 8).map fun i => UInt8.ofNat (8 * message.length / 2 ^ (8 * (7 - i)))

def absorb (s : State) (message : Bytes) : Nat → State
  | 0 => s
  | blocks + 1 => absorb (compress s (message.take 64)) (message.drop 64) blocks

def sha256 (message : Bytes) : Digest :=
  let s := absorb initial (pad message) ((pad message).length / 64)
  Vector.ofFn fun i =>
    ([s.a, s.b, s.c, s.d, s.e, s.f, s.g, s.h].getD (i.val / 4) 0 >>>
      UInt32.ofNat (8 * (3 - i.val % 4))).toUInt8

/-- The hash of no bytes. -/
example : (sha256 []).toList.take 8 = [0xe3, 0xb0, 0xc4, 0x42, 0x98, 0xfc, 0x1c, 0x14] := by
  decide +kernel

def hmacKey (key : Bytes) : Bytes :=
  let key := if key.length > 64 then (sha256 key).toList else key
  key ++ List.replicate (64 - key.length) 0

def hmac (key message : Bytes) : Digest :=
  sha256 ((hmacKey key).map (· ^^^ 0x5c) ++
    (sha256 ((hmacKey key).map (· ^^^ 0x36) ++ message)).toList)

end Sha256
