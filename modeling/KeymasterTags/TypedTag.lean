import KeymasterTags.KeyParameter

/-!
# Typed tags and their accessors

`TypedTag` pairs a tag with its type and keeps the `static_assert` of its constructor as a
field, so that a typed tag whose type disagrees with its tag cannot be built; a typed tag is
therefore fixed by its tag alone (`TypedTag.eq_tag2TypedTag`).

`accessTagValue` is the family of overloads that `MAKE_TAG_VALUE_ACCESSOR` and
`MAKE_TAG_ENUM_VALUE_ACCESSOR` generate: the field of a `KeyParameter` that a typed tag reads
and writes, chosen by the tag's type, and for the ten enumerated tags by the tag itself. The
type of that field is `TypedTag2ValueType`; where there is no overload, `accessTagValue` is
`none` and no call of it, of `Authorization` with a value or of `authorizationValue`
compiles.
-/

namespace Keymaster

/-- `TypedTag<tag_type, tag>`; `type_eq` is the `static_assert` of its constructor. -/
structure TypedTag where
  tagType : BitVec 32
  tag : BitVec 32
  type_eq : typeFromTag tag = tagType

/-- `Tag2TypedTag<tag>::type`, the typed tag `DECLARE_TYPED_TAG` declares for a tag. -/
def tag2TypedTag (tag : BitVec 32) : TypedTag := ⟨typeFromTag tag, tag, rfl⟩

/-- A typed tag is the one its tag declares. -/
theorem TypedTag.eq_tag2TypedTag (T : TypedTag) :
  T = tag2TypedTag T.tag
  := by
  obtain ⟨_, tag, rfl⟩ := T
  rfl

/-- `accessTagValue(ttag, param)`: the field the overload for a typed tag returns a reference
to. `MAKE_TAG_VALUE_ACCESSOR` declares one for every tag of the types `ULONG`, `ULONG_REP`,
`DATE`, `UINT`, `UINT_REP`, `BOOL`, `BYTES` and `BIGNUM`; `MAKE_TAG_ENUM_VALUE_ACCESSOR` one
for each of ten enumerated tags. -/
def accessTagValue (T : TypedTag) : Option Field :=
  match TagType.ofVal? T.tagType with
  | some .ulong | some .ulongRep => some (.f .longInteger)
  | some .date => some (.f .dateTime)
  | some .uint | some .uintRep => some (.f .integer)
  | some .bool => some (.f .boolValue)
  | some .bytes | some .bignum => some .blob
  | _ =>
    match Tag.ofVal? T.tag with
    | some .algorithm => some (.f .algorithm)
    | some .blobUsageRequirements => some (.f .keyBlobUsageRequirements)
    | some .blockMode => some (.f .blockMode)
    | some .digest => some (.f .digest)
    | some .ecCurve => some (.f .ecCurve)
    | some .origin => some (.f .origin)
    | some .padding => some (.f .paddingMode)
    | some .purpose => some (.f .purpose)
    | some .userAuthType => some (.f .hardwareAuthenticatorType)
    | some .hardwareType => some (.f .hardwareType)
    | _ => none

/-- `TypedTag2ValueType<T>::type`, where it is defined: the type of the field `accessTagValue`
selects. -/
def TypedTag2ValueType (T : TypedTag) : Option Type := (accessTagValue T).map Field.type

/-- The `BOOL` overload reads `f.boolValue`. -/
theorem accessTagValue_of_bool
    {T : TypedTag} (h : T.tagType = TagType.bool.val) :
  accessTagValue T = some (.f .boolValue)
  := by
  simp [accessTagValue, h]

/-- Every tag of the enumeration but `INVALID` has an accessor: `INVALID` is the one tag of the
enumeration whose type `MAKE_TAG_VALUE_ACCESSOR` does not cover and that is not one of the ten
enumerated tags. -/
theorem accessTagValue_isSome_iff (t : Tag) :
  (accessTagValue (tag2TypedTag t.val)).isSome ↔ t ≠ .invalid
  := by
  cases t <;> decide

/-- The tag of the enumeration whose type is `INVALID` has no accessor. -/
theorem accessTagValue_eq_none_of_invalid
    (t : Tag) (h : typeFromTag t.val = TagType.invalid.val) :
  accessTagValue (tag2TypedTag t.val) = none
  := by
  revert h
  cases t <;> decide

/-- A tag of the enumeration that has an accessor is not of type `INVALID`. -/
theorem typeFromTag_ne_invalid
    {t : Tag} {fl : Field} (h : accessTagValue (tag2TypedTag t.val) = some fl) :
  typeFromTag t.val ≠ TagType.invalid.val
  := fun hi => Option.noConfusion ((accessTagValue_eq_none_of_invalid t hi).symm.trans h)

end Keymaster
