import KeysetStore.Hex

/-!
# ObjectId — primary keys and their text

A primary key is twelve bytes, read high byte first as one number.  Its text is 24 lower-case
hexadecimal digits; a text names a key when it is 24 digits of either case (`ofHex?`).
-/

namespace KeysetStore

/-- A primary key: twelve bytes as one number, so keys order as their bytes do. -/
structure ObjectId where
  /-- The bytes, high byte first. -/
  bits : BitVec 96
deriving DecidableEq, Inhabited

namespace ObjectId

/-- The order of the bytes. -/
def compare (a b : ObjectId) : Ordering := Ord.compare a.bits.toNat b.bits.toNat

/-- The `n`-th key in the order of the bytes. -/
def ofNat (n : Nat) : ObjectId := ⟨BitVec.ofNat 96 n⟩

/-- The 24 digits of a key. -/
def toHex (id : ObjectId) : String := String.ofList (Hex.digits 24 id.bits.toNat)

/-- **The key a text names**: exactly 24 hexadecimal digits, of either case. -/
def ofHex? (text : String) : Option ObjectId :=
  if text.toList.length = 24 then (Hex.value? 0 text.toList).map ofNat else none

/-- **Every key is named by its text.** -/
@[simp] theorem ofHex?_toHex (id : ObjectId) : ofHex? id.toHex = some id := by
  have hlt : id.bits.toNat < 16 ^ (24 : Nat) := id.bits.isLt
  simp [ofHex?, toHex, Hex.value?_digits 0 24 _ hlt, ofNat]

theorem toHex_injective {a b : ObjectId} (h : a.toHex = b.toHex) : a = b := by
  have := congrArg ofHex? h
  simpa using this

end ObjectId

end KeysetStore
