import KeymasterTags.Tag

/-!
# Key parameters

`KeyParameter`: a tag, the union `f` of the integer-like payloads, and the byte vector `blob`.
Every member of the union starts at offset 0 of the same eight bytes, which we keep as the
little-endian word they spell: a member of `w` bits reads the low `w` bits of the word, and a
store to it replaces those bits and leaves the bytes above them as they were (`load_store`,
`store_ushiftRight`).

`Field` names what an accessor of `keymaster_tags.h` or its `operator==` reads: a member
`.f m` of the union, or `.blob`. `Field.get` and `Field.set` read and write it, and
`Field.get_set` is the round trip every later proof cites.
-/

namespace Keymaster

/-! ## The union -/

/-- Modelled from the spec: the union `KeyParameter::IntegerParams` of keymaster 4.0
`types.hal`, not among the sources. Its eight bytes, shared by all members from offset 0, as
the little-endian word they spell. -/
structure IntegerParams where
  word : BitVec 64
  deriving DecidableEq, Repr

namespace IntegerParams

/-- The member of `w` bits: the low `w` bits of the union. -/
def load (w : Nat) (f : IntegerParams) : BitVec w := f.word.setWidth w

/-- A store to the member of `w` bits: those bits become `v`, the bits above keep theirs. -/
def store (w : Nat) (v : BitVec w) (f : IntegerParams) : IntegerParams :=
  ⟨BitVec.ofNat 64 (f.word.toNat / 2 ^ w * 2 ^ w + v.toNat)⟩

/-- A member reads back what was stored to it. -/
theorem load_store
    {w : Nat} (hw : w ≤ 64) (v : BitVec w) (f : IntegerParams) :
  (f.store w v).load w = v
  := by
  apply BitVec.eq_of_toNat_eq
  simp only [load, store, BitVec.toNat_setWidth, BitVec.toNat_ofNat]
  rw [Nat.mod_mod_of_dvd _ (Nat.pow_dvd_pow 2 hw), Nat.mul_comm, Nat.mul_add_mod]
  exact Nat.mod_eq_of_lt v.isLt

/-- A store to a member leaves the bits above it as they were. -/
theorem store_ushiftRight
    {w : Nat} (hw : w ≤ 64) (v : BitVec w) (f : IntegerParams) :
  (f.store w v).word >>> w = f.word >>> w
  := by
  have hq : f.word.toNat / 2 ^ w < 2 ^ (64 - w) :=
    Nat.div_lt_of_lt_mul (by rw [← Nat.pow_add, Nat.add_sub_of_le hw]; exact f.word.isLt)
  have hlt : f.word.toNat / 2 ^ w * 2 ^ w + v.toNat < 2 ^ 64 :=
    calc f.word.toNat / 2 ^ w * 2 ^ w + v.toNat
        < (f.word.toNat / 2 ^ w + 1) * 2 ^ w := by
          rw [Nat.succ_mul]; exact Nat.add_lt_add_left v.isLt _
      _ ≤ 2 ^ (64 - w) * 2 ^ w := Nat.mul_le_mul_right _ hq
      _ = 2 ^ 64 := by rw [← Nat.pow_add, Nat.sub_add_cancel hw]
  apply BitVec.eq_of_toNat_eq
  simp only [store, BitVec.toNat_ushiftRight, BitVec.toNat_ofNat, Nat.mod_eq_of_lt hlt,
    Nat.shiftRight_eq_div_pow]
  rw [Nat.add_comm, Nat.add_mul_div_right _ _ (Nat.two_pow_pos w), Nat.div_eq_of_lt v.isLt,
    Nat.zero_add]

/-- The union is fixed by its member of `w` bits and the bits above that member. -/
theorem eq_iff_load_ushiftRight (w : Nat) {f₁ f₂ : IntegerParams} :
  f₁ = f₂ ↔ f₁.load w = f₂.load w ∧ f₁.word >>> w = f₂.word >>> w
  := by
  refine ⟨fun h => h ▸ ⟨rfl, rfl⟩, fun ⟨hl, hh⟩ => ?_⟩
  have hl' := congrArg BitVec.toNat hl
  have hh' := congrArg BitVec.toNat hh
  simp only [load, BitVec.toNat_setWidth, BitVec.toNat_ushiftRight,
    Nat.shiftRight_eq_div_pow] at hl' hh'
  obtain ⟨x₁⟩ := f₁
  obtain ⟨x₂⟩ := f₂
  congr 1
  apply BitVec.eq_of_toNat_eq
  rw [← Nat.div_add_mod x₁.toNat (2 ^ w), hl', hh', Nat.div_add_mod]

/-- A store to the whole union leaves nothing of what was there. -/
@[simp]
theorem store_64 (v : BitVec 64) (f : IntegerParams) :
  f.store 64 v = ⟨v⟩
  := by
  simp only [store, mk.injEq]
  bv_omega

end IntegerParams

/-! ## Members and fields -/

/-- Modelled from the spec: the members of `IntegerParams` that an accessor or `operator==`
reads; the enumerations first, each a `uint32_t` code. `keyDerivationFunction`, which nothing
in `keymaster_tags.h` reads, is left out. -/
inductive Member where
  | algorithm | blockMode | paddingMode | digest | ecCurve | origin | keyBlobUsageRequirements
  | purpose | hardwareAuthenticatorType | hardwareType
  | boolValue | integer | longInteger | dateTime
  deriving DecidableEq, Repr

/-- The C++ type of a member: `bool`, `uint64_t`, or a 32-bit enumeration code or `uint32_t`. -/
def Member.type : Member → Type
  | .boolValue => Bool
  | .longInteger | .dateTime => BitVec 64
  | .algorithm | .blockMode | .paddingMode | .digest | .ecCurve | .origin
  | .keyBlobUsageRequirements | .purpose | .hardwareAuthenticatorType | .hardwareType
  | .integer => BitVec 32

/-- Reading a member of the union; a `bool` is true when its byte is not zero. -/
def Member.get : (m : Member) → IntegerParams → m.type
  | .boolValue, f => f.load 8 != 0
  | .longInteger, f | .dateTime, f => f.load 64
  | .algorithm, f | .blockMode, f | .paddingMode, f | .digest, f | .ecCurve, f | .origin, f
  | .keyBlobUsageRequirements, f | .purpose, f | .hardwareAuthenticatorType, f
  | .hardwareType, f | .integer, f => f.load 32

/-- Assigning to a member of the union; `true` is stored as the byte 1. -/
def Member.set : (m : Member) → m.type → IntegerParams → IntegerParams
  | .boolValue, b, f => f.store 8 (cond b 1 0)
  | .longInteger, v, f | .dateTime, v, f => f.store 64 v
  | .algorithm, v, f | .blockMode, v, f | .paddingMode, v, f | .digest, v, f
  | .ecCurve, v, f | .origin, v, f | .keyBlobUsageRequirements, v, f | .purpose, v, f
  | .hardwareAuthenticatorType, v, f | .hardwareType, v, f | .integer, v, f => f.store 32 v

@[simp]
theorem Member.get_set (m : Member) (v : m.type) (f : IntegerParams) :
  m.get (m.set v f) = v
  := by
  cases m
  case boolValue =>
    simp only [Member.get, Member.set]
    rw [IntegerParams.load_store (by decide)]
    cases v <;> rfl
  all_goals exact IntegerParams.load_store (by decide) _ _

/-- Modelled from the spec: `KeyParameter` of keymaster 4.0 `types.hal`, not among the
sources. The tag may hold any 32-bit value. -/
structure KeyParameter where
  tag : BitVec 32
  f : IntegerParams
  blob : List (BitVec 8)
  deriving DecidableEq, Repr

/-- A field of a key parameter: the member `m` of the union `f`, or the vector `blob`. -/
inductive Field where
  | f (m : Member)
  | blob
  deriving DecidableEq, Repr

/-- The C++ type of a field; `hidl_vec<uint8_t>` is a list of bytes. -/
def Field.type : Field → Type
  | .f m => m.type
  | .blob => List (BitVec 8)

/-- `param.f.m` or `param.blob`. -/
def Field.get : (fl : Field) → KeyParameter → fl.type
  | .f m, p => m.get p.f
  | .blob, p => p.blob

/-- Assigning to `param.f.m` or `param.blob`. -/
def Field.set : (fl : Field) → fl.type → KeyParameter → KeyParameter
  | .f m, v, p => { p with f := m.set v p.f }
  | .blob, v, p => { p with blob := v }

@[simp]
theorem Field.get_set (fl : Field) (v : fl.type) (p : KeyParameter) :
  fl.get (fl.set v p) = v
  := by
  cases fl
  · exact Member.get_set _ _ _
  · rfl

@[simp]
theorem Field.tag_set (fl : Field) (v : fl.type) (p : KeyParameter) :
  (fl.set v p).tag = p.tag
  := by
  cases fl <;> rfl

/-! ## What a field reads -/

/-- What reading a field looks at: the blob, the low `w` bits of the union as a number, or its
low byte as a `bool`. -/
inductive Storage where
  | blob
  | bits (w : Nat)
  | flag
  deriving DecidableEq, Repr

/-- The storage each field is read from. -/
def Field.storage : Field → Storage
  | .f .boolValue => .flag
  | .f .longInteger | .f .dateTime => .bits 64
  | .f _ => .bits 32
  | .blob => .blob

/-- The width in bits of what a field occupies in the union; `0` for `blob`, which is not in
it. -/
def Field.width (fl : Field) : Nat :=
  match fl.storage with
  | .blob => 0
  | .bits w => w
  | .flag => 8

/-- Two parameters agree on a storage. -/
def Storage.same : Storage → KeyParameter → KeyParameter → Prop
  | .blob, a, b => a.blob = b.blob
  | .bits w, a, b => a.f.load w = b.f.load w
  | .flag, a, b => (a.f.load 8 != 0) = (b.f.load 8 != 0)

/-- Two parameters agree on a field exactly when they agree on the storage it is read from. -/
theorem Field.get_eq_iff_storage (fl : Field) (a b : KeyParameter) :
  fl.get a = fl.get b ↔ fl.storage.same a b
  := by
  cases fl with
  | f m => cases m <;> exact Iff.rfl
  | blob => exact Iff.rfl

/-- Fields read from the same storage compare two parameters alike. -/
theorem Field.get_eq_iff_of_storage_eq
    {fl fl' : Field} (h : fl.storage = fl'.storage) (a b : KeyParameter) :
  fl.get a = fl.get b ↔ fl'.get a = fl'.get b
  := by
  rw [Field.get_eq_iff_storage, Field.get_eq_iff_storage, h]

/-- Equality of a field's values is decidable for every field. -/
instance Field.decEq : (fl : Field) → DecidableEq fl.type
  | .f .boolValue => inferInstanceAs (DecidableEq Bool)
  | .f .longInteger | .f .dateTime => inferInstanceAs (DecidableEq (BitVec 64))
  | .f .algorithm | .f .blockMode | .f .paddingMode | .f .digest | .f .ecCurve | .f .origin
  | .f .keyBlobUsageRequirements | .f .purpose | .f .hardwareAuthenticatorType
  | .f .hardwareType | .f .integer => inferInstanceAs (DecidableEq (BitVec 32))
  | .blob => inferInstanceAs (DecidableEq (List (BitVec 8)))

end Keymaster
