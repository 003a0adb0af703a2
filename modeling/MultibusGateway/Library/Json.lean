import MultibusGateway.Library.ByteString

/-! JSON documents as a program reads them: by name and with a default for a value that is missing
or of another type. -/

/-- A value. A number without a fraction or an exponent is an integer; other numbers are kept as
they are written. -/
inductive Json where
  | null
  | bool (b : Bool)
  | integer (n : Int)
  | real (digits : List UInt8)
  | text (bytes : List UInt8)
  | array (items : List Json)
  | object (members : List (String × Json))

namespace Json
open ByteString

/-- The member with this name; null if there is none, or the value is no object. -/
def get (json : Json) (name : String) : Json :=
  match json with
  | .object members => (members.lookup name).getD .null
  | _ => .null

def isObject : Json → Bool
  | .object _ => true
  | _ => false

def textOr (otherwise : String) : Json → Bytes
  | .text bytes => cStr bytes
  | _ => ascii otherwise

def boolOr (otherwise : Bool) : Json → Bool
  | .bool b => b
  | _ => otherwise

def uint32Or (otherwise : UInt32) : Json → UInt32
  | .integer n => if 0 ≤ n ∧ n < 2 ^ 32 then UInt32.ofNat n.toNat else otherwise
  | _ => otherwise

def uint8Or (otherwise : UInt8) : Json → UInt8
  | .integer n => if 0 ≤ n ∧ n < 2 ^ 8 then UInt8.ofNat n.toNat else otherwise
  | _ => otherwise

def intOr (otherwise : Int) : Json → Int
  | .integer n => if -2 ^ 31 ≤ n ∧ n < 2 ^ 31 then n else otherwise
  | _ => otherwise

/-! A value of a type, if it is one and fits. -/

def asBool : Json → Option Bool
  | .bool b => some b
  | _ => none

def asInt64 : Json → Option Int64
  | .integer n => if -2 ^ 63 ≤ n ∧ n < 2 ^ 63 then some (Int64.ofInt n) else none
  | _ => none

def asUInt64 : Json → Option UInt64
  | .integer n => if 0 ≤ n ∧ n < 2 ^ 64 then some (UInt64.ofNat n.toNat) else none
  | _ => none

def asText : Json → Option Bytes
  | .text bytes => some (cStr bytes)
  | _ => none

def isNull : Json → Bool
  | .null => true
  | _ => false

/-- The functions of a library that writes documents and reads them. -/
structure Library where
  serializeJsonPretty : Json → Bytes
  deserializeJson : Bytes → Except Bytes Json

/-- The library reads a document as it has written it. -/
def Library.Faithful (library : Library) (doc : Json) : Prop :=
  library.serializeJsonPretty doc ≠ [] ∧
    library.deserializeJson (library.serializeJsonPretty doc) = .ok doc

def plainCharacter (c : UInt8) : Bool := c ≥ 0x20 && c < 0x7f && c != 0x22 && c != 0x5c

/-- The library writes no zero byte, names in quotes, and a plain text as it is. -/
def Library.Spells (library : Library) (members : List (String × Json)) : Prop :=
  (0 : UInt8) ∉ library.serializeJsonPretty (.object members) ∧
  ∀ name value, (name, .text value) ∈ members → (ascii name).all plainCharacter →
    value.all plainCharacter →
      ascii "\"" ++ ascii name ++ ascii "\"" <:+: library.serializeJsonPretty (.object members) ∧
      value <:+: library.serializeJsonPretty (.object members)

@[simp] theorem get_cons (other name : String) (value : Json)
    (members : List (String × Json)) :
    (object ((other, value) :: members)).get name =
      if name == other then value else (object members).get name := by
  rw [get, List.lookup_cons]
  cases name == other <;> rfl

@[simp] theorem isObject_object (members : List (String × Json)) :
    (object members).isObject = true := rfl

@[simp] theorem textOr_text (otherwise : String) (bytes : Bytes) :
    (text bytes).textOr otherwise = cStr bytes := rfl

@[simp] theorem boolOr_bool (otherwise b : Bool) : (bool b).boolOr otherwise = b := rfl

theorem uint32Or_toNat (otherwise n : UInt32) :
    (integer n.toNat).uint32Or otherwise = n := by
  have bound := n.toNat_lt
  rw [uint32Or, if_pos (by omega), Int.toNat_natCast, UInt32.ofNat_toNat]

@[simp] theorem uint8Or_toNat (otherwise n : UInt8) :
    (integer n.toNat).uint8Or otherwise = n := by
  have bound := n.toNat_lt
  rw [uint8Or, if_pos (by omega), Int.toNat_natCast, UInt8.ofNat_toNat]

@[simp] theorem intOr_uint16 (otherwise : Int) (n : UInt16) :
    (integer n.toNat).intOr otherwise = n.toNat := by
  have bound := n.toNat_lt
  rw [intOr, if_pos (by omega)]

end Json
