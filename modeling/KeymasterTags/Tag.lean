import Mathlib

/-!
# Tags and tag types

The enumerations `TagType` and `Tag` of keymaster 4.0, with the value of every enumerator;
`typeFromTag`, which reads a tag's type off its top four bits, and `maskedTag`, the bits below
them; and the values of the four legacy tags that `keymaster_tags.h` keeps for old keys.

A `Tag` object of the source holds any 32-bit value, named by an enumerator or not, so the
tag of a key parameter is a `BitVec 32` here and `Tag` is the enumeration of the named ones.
`lookup` finds the enumerator a value names, which is what the `case` labels of a `switch`
over the enumeration do.
-/

namespace Keymaster

/-! ## Enumerations with values -/

/-- The enumerator among `all` whose value is `v`, if there is one. -/
def lookup {α : Type} (all : List α) (val : α → BitVec 32) (v : BitVec 32) : Option α :=
  all.find? (val · = v)

/-- `lookup` only ever returns an enumerator whose value is the one looked up. -/
theorem val_of_lookup_eq_some
    {α : Type} {all : List α} {val : α → BitVec 32} {v : BitVec 32} {a : α}
    (h : lookup all val v = some a) :
  val a = v
  := by
  simpa using List.find?_some h

/-- `lookup` finds nothing exactly when no enumerator among `all` has the value. -/
theorem lookup_eq_none_iff
    {α : Type} (all : List α) (val : α → BitVec 32) (v : BitVec 32) :
  lookup all val v = none ↔ ∀ a ∈ all, val a ≠ v
  := by
  simp [lookup, List.find?_eq_none]

/-! ## Tag types -/

/-- Modelled from the spec: the enumeration `TagType` of keymaster 4.0 `types.hal`, which
`keymaster_tags.h` includes through `IKeymasterDevice.h` and which is not among the sources.
The spec's categories: boolean presence, 32- and 64-bit integers and their repeatable forms,
dates, enumerated values, byte blobs and big numbers. -/
inductive TagType where
  | invalid | enum | enumRep | uint | uintRep | ulong | date | bool | bignum | bytes | ulongRep
  deriving DecidableEq, Repr

/-- The value of each `TagType` enumerator, as `types.hal` gives it. -/
def TagType.val : TagType → BitVec 32
  | .invalid => 0 <<< 28
  | .enum => 1 <<< 28
  | .enumRep => 2 <<< 28
  | .uint => 3 <<< 28
  | .uintRep => 4 <<< 28
  | .ulong => 5 <<< 28
  | .date => 6 <<< 28
  | .bool => 7 <<< 28
  | .bignum => 8 <<< 28
  | .bytes => 9 <<< 28
  | .ulongRep => 10 <<< 28

/-- Every `TagType` enumerator. -/
def TagType.all : List TagType :=
  [.invalid, .enum, .enumRep, .uint, .uintRep, .ulong, .date, .bool, .bignum, .bytes, .ulongRep]

/-- The `TagType` enumerator a 32-bit value names, if any. -/
def TagType.ofVal? (v : BitVec 32) : Option TagType := lookup TagType.all TagType.val v

@[simp]
theorem TagType.ofVal?_val (k : TagType) :
  TagType.ofVal? k.val = some k
  := by
  cases k <;> rfl

/-- `typeFromTag`: the top four bits of a tag, as a `TagType` value that an enumerator may or
may not name. -/
def typeFromTag (tag : BitVec 32) : BitVec 32 := tag &&& 0xf0000000#32

/-- `TypedTag::maskedTag`: the bits of a tag below its type. -/
def maskedTag (tag : BitVec 32) : BitVec 32 := tag &&& 0x0FFFFFFF#32

/-! ## Tags -/

/-- Modelled from the spec: the enumeration `Tag` of keymaster 4.0 `types.hal`, not among the
sources; one enumerator for each tag the spec's closed set of tags holds. -/
inductive Tag where
  | invalid | purpose | algorithm | keySize | blockMode | digest | padding | callerNonce
  | minMacLength | ecCurve | rsaPublicExponent | includeUniqueId | blobUsageRequirements
  | bootloaderOnly | rollbackResistance | hardwareType | activeDatetime
  | originationExpireDatetime | usageExpireDatetime | minSecondsBetweenOps | maxUsesPerBoot
  | userId | userSecureId | noAuthRequired | userAuthType | authTimeout | allowWhileOnBody
  | trustedUserPresenceRequired | trustedConfirmationRequired | unlockedDeviceRequired
  | applicationId | applicationData | creationDatetime | origin | rootOfTrust | osVersion
  | osPatchlevel | uniqueId | attestationChallenge | attestationApplicationId
  | attestationIdBrand | attestationIdDevice | attestationIdProduct | attestationIdSerial
  | attestationIdImei | attestationIdMeid | attestationIdManufacturer | attestationIdModel
  | vendorPatchlevel | bootPatchlevel | associatedData | nonce | macLength
  | resetSinceIdRotation | confirmationToken
  deriving DecidableEq, Repr

/-- The value of each `Tag` enumerator, `TagType:T | n` in `types.hal`. -/
def Tag.val : Tag → BitVec 32
  | .invalid => TagType.invalid.val ||| 0
  | .purpose => TagType.enumRep.val ||| 1
  | .algorithm => TagType.enum.val ||| 2
  | .keySize => TagType.uint.val ||| 3
  | .blockMode => TagType.enumRep.val ||| 4
  | .digest => TagType.enumRep.val ||| 5
  | .padding => TagType.enumRep.val ||| 6
  | .callerNonce => TagType.bool.val ||| 7
  | .minMacLength => TagType.uint.val ||| 8
  | .ecCurve => TagType.enum.val ||| 10
  | .rsaPublicExponent => TagType.ulong.val ||| 200
  | .includeUniqueId => TagType.bool.val ||| 202
  | .blobUsageRequirements => TagType.enum.val ||| 301
  | .bootloaderOnly => TagType.bool.val ||| 302
  | .rollbackResistance => TagType.bool.val ||| 303
  | .hardwareType => TagType.enum.val ||| 304
  | .activeDatetime => TagType.date.val ||| 400
  | .originationExpireDatetime => TagType.date.val ||| 401
  | .usageExpireDatetime => TagType.date.val ||| 402
  | .minSecondsBetweenOps => TagType.uint.val ||| 403
  | .maxUsesPerBoot => TagType.uint.val ||| 404
  | .userId => TagType.uint.val ||| 502
  | .userSecureId => TagType.ulongRep.val ||| 502
  | .noAuthRequired => TagType.bool.val ||| 503
  | .userAuthType => TagType.enum.val ||| 504
  | .authTimeout => TagType.uint.val ||| 505
  | .allowWhileOnBody => TagType.bool.val ||| 506
  | .trustedUserPresenceRequired => TagType.bool.val ||| 507
  | .trustedConfirmationRequired => TagType.bool.val ||| 508
  | .unlockedDeviceRequired => TagType.bool.val ||| 509
  | .applicationId => TagType.bytes.val ||| 601
  | .applicationData => TagType.bytes.val ||| 700
  | .creationDatetime => TagType.date.val ||| 701
  | .origin => TagType.enum.val ||| 702
  | .rootOfTrust => TagType.bytes.val ||| 704
  | .osVersion => TagType.uint.val ||| 705
  | .osPatchlevel => TagType.uint.val ||| 706
  | .uniqueId => TagType.bytes.val ||| 707
  | .attestationChallenge => TagType.bytes.val ||| 708
  | .attestationApplicationId => TagType.bytes.val ||| 709
  | .attestationIdBrand => TagType.bytes.val ||| 710
  | .attestationIdDevice => TagType.bytes.val ||| 711
  | .attestationIdProduct => TagType.bytes.val ||| 712
  | .attestationIdSerial => TagType.bytes.val ||| 713
  | .attestationIdImei => TagType.bytes.val ||| 714
  | .attestationIdMeid => TagType.bytes.val ||| 715
  | .attestationIdManufacturer => TagType.bytes.val ||| 716
  | .attestationIdModel => TagType.bytes.val ||| 717
  | .vendorPatchlevel => TagType.uint.val ||| 718
  | .bootPatchlevel => TagType.uint.val ||| 719
  | .associatedData => TagType.bytes.val ||| 1000
  | .nonce => TagType.bytes.val ||| 1001
  | .macLength => TagType.uint.val ||| 1003
  | .resetSinceIdRotation => TagType.bool.val ||| 1004
  | .confirmationToken => TagType.bytes.val ||| 1005

/-- Every `Tag` enumerator. -/
def Tag.all : List Tag :=
  [.invalid, .purpose, .algorithm, .keySize, .blockMode, .digest, .padding, .callerNonce,
    .minMacLength, .ecCurve, .rsaPublicExponent, .includeUniqueId, .blobUsageRequirements,
    .bootloaderOnly, .rollbackResistance, .hardwareType, .activeDatetime,
    .originationExpireDatetime, .usageExpireDatetime, .minSecondsBetweenOps, .maxUsesPerBoot,
    .userId, .userSecureId, .noAuthRequired, .userAuthType, .authTimeout, .allowWhileOnBody,
    .trustedUserPresenceRequired, .trustedConfirmationRequired, .unlockedDeviceRequired,
    .applicationId, .applicationData, .creationDatetime, .origin, .rootOfTrust, .osVersion,
    .osPatchlevel, .uniqueId, .attestationChallenge, .attestationApplicationId,
    .attestationIdBrand, .attestationIdDevice, .attestationIdProduct, .attestationIdSerial,
    .attestationIdImei, .attestationIdMeid, .attestationIdManufacturer, .attestationIdModel,
    .vendorPatchlevel, .bootPatchlevel, .associatedData, .nonce, .macLength,
    .resetSinceIdRotation, .confirmationToken]

/-- The `Tag` enumerator a 32-bit value names, if any: the `case` label a `switch` on the value
reaches. -/
def Tag.ofVal? (v : BitVec 32) : Option Tag := lookup Tag.all Tag.val v

/-- Every enumerator is found from its value. -/
@[simp]
theorem Tag.ofVal?_val (t : Tag) :
  Tag.ofVal? t.val = some t
  := by
  cases t <;> rfl

/-- No two enumerators share a value. -/
theorem Tag.val_inj {t t' : Tag} (h : t.val = t'.val) :
  t = t'
  := Option.some.inj ((Tag.ofVal?_val t).symm.trans (h ▸ Tag.ofVal?_val t'))

theorem Tag.ofVal?_eq_some_iff (v : BitVec 32) (t : Tag) :
  Tag.ofVal? v = some t ↔ t.val = v
  := ⟨val_of_lookup_eq_some, fun h => h ▸ Tag.ofVal?_val t⟩

theorem Tag.mem_all (t : Tag) :
  t ∈ Tag.all
  := by
  have h := Tag.ofVal?_val t
  unfold Tag.ofVal? lookup at h
  exact List.mem_of_find?_eq_some h

/-- A value names no enumerator exactly when `Tag.ofVal?` finds none. -/
theorem Tag.ofVal?_eq_none_iff (v : BitVec 32) :
  Tag.ofVal? v = none ↔ ∀ t : Tag, t.val ≠ v
  := by
  rw [Tag.ofVal?, lookup_eq_none_iff]
  exact ⟨fun h t => h t (Tag.mem_all t), fun h t _ => h t⟩

/-! ## Legacy tags -/

/-- `KM_TAG_DIGEST_OLD`, the value `KM_TAG_DIGEST` used to have. -/
def kmTagDigestOld : BitVec 32 := TagType.enum.val ||| 5

/-- `KM_TAG_PADDING_OLD`, the value `KM_TAG_PADDING` used to have. -/
def kmTagPaddingOld : BitVec 32 := TagType.enum.val ||| 7

/-- `KM_TAG_FBE_ICE`. -/
def kmTagFbeIce : BitVec 32 := TagType.bool.val ||| 16201

/-- `KM_TAG_KEY_TYPE`. -/
def kmTagKeyType : BitVec 32 := TagType.uint.val ||| 16202

/-- None of the legacy values is the value of an enumerator of `Tag`. -/
theorem legacy_tags_not_enumerators :
  Tag.ofVal? kmTagDigestOld = none ∧ Tag.ofVal? kmTagPaddingOld = none ∧
    Tag.ofVal? kmTagFbeIce = none ∧ Tag.ofVal? kmTagKeyType = none
  := ⟨rfl, rfl, rfl, rfl⟩

end Keymaster
