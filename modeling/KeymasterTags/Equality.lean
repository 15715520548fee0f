import KeymasterTags.Authorization

/-!
# Equality of key parameters

`operator==` on `KeyParameter` is a `switch` written by hand over the tags of the enumeration,
apart from the accessor macros of `keymaster_tags.h`: `switchField` is its table of `case`
labels, and `beq_of_tag_ne`, `beq_of_ofVal?_eq_none` and `beq_of_tag` are the three ways out
of the function. `switchAgrees` checks, tag by tag, that the table compares the storage the
accessor of the tag reads, and presence alone for the `BOOL` and `INVALID` types; from it,
`beq_iff_accessTagValue` says what `a == b` means for every tag of the enumeration.

A tag that no `case` label names falls out of the `switch` to `return false`, so `==` is
reflexive exactly on the parameters whose tag is an enumerator (`beq_partial_equivalence`).

Against `authorizationValue`: reading a parameter back and rebuilding it with `Authorization`
is exact up to `==` (`authorization_beq_iff_authorizationValue`), and `authorizationValue`
respects `==` through every tag but the `BOOL` ones, whose flag `==` never compares
(`authorizationValue_congr_iff`). The bytes that the `BOOL` overload of `Authorization` leaves
uninitialised show through neither `==` nor `authorizationValue`, whose tag check keeps out the
accessors of other tags that would read them (`authorizationBool_indistinguishable`).
-/

namespace Keymaster

/-- The `switch` of `operator==`: for the `case` label of each enumerator, `none` for the
boolean tags, which `return true`, else the field both sides are compared on. -/
def switchField : Tag → Option Field
  | .invalid | .callerNonce | .includeUniqueId | .bootloaderOnly | .noAuthRequired
  | .allowWhileOnBody | .unlockedDeviceRequired | .rollbackResistance | .resetSinceIdRotation
  | .trustedConfirmationRequired | .trustedUserPresenceRequired => none
  | .keySize | .minMacLength | .minSecondsBetweenOps | .maxUsesPerBoot | .osVersion
  | .osPatchlevel | .macLength | .userId | .authTimeout | .vendorPatchlevel
  | .bootPatchlevel => some (.f .integer)
  | .rsaPublicExponent | .userSecureId => some (.f .longInteger)
  | .activeDatetime | .originationExpireDatetime | .usageExpireDatetime
  | .creationDatetime => some (.f .dateTime)
  | .applicationId | .applicationData | .rootOfTrust | .uniqueId | .attestationChallenge
  | .attestationApplicationId | .attestationIdBrand | .attestationIdDevice
  | .attestationIdProduct | .attestationIdSerial | .attestationIdImei | .attestationIdMeid
  | .attestationIdManufacturer | .attestationIdModel | .associatedData | .confirmationToken
  | .nonce => some .blob
  | .purpose => some (.f .purpose)
  | .algorithm => some (.f .algorithm)
  | .blockMode => some (.f .blockMode)
  | .digest => some (.f .digest)
  | .padding => some (.f .paddingMode)
  | .ecCurve => some (.f .ecCurve)
  | .blobUsageRequirements => some (.f .keyBlobUsageRequirements)
  | .userAuthType => some (.f .integer)
  | .origin => some (.f .origin)
  | .hardwareType => some (.f .hardwareType)

/-- The body of the `case` of an enumerator: `true`, or the comparison of a field. -/
def switchCompare (t : Tag) (a b : KeyParameter) : Bool :=
  match switchField t with
  | none => true
  | some fl => decide (fl.get a = fl.get b)

/-- `operator==(a, b)`: parameters with different tags differ; an enumerator's `case` compares
as `switchField` says; any other tag falls out of the `switch` to `return false`. -/
def KeyParameter.beq (a b : KeyParameter) : Bool :=
  if a.tag ≠ b.tag then false
  else
    match Tag.ofVal? a.tag with
    | none => false
    | some t => switchCompare t a b

instance : BEq KeyParameter := ⟨KeyParameter.beq⟩

/-- `a == b` once the tags are known equal and the tag is known to be the enumerator `t`. -/
theorem beq_of_tag
    {a b : KeyParameter} {t : Tag} (hab : a.tag = b.tag) (ha : a.tag = t.val) :
  (a == b) = switchCompare t a b
  := by
  have hb : b.tag = t.val := hab ▸ ha
  show KeyParameter.beq a b = _
  simp only [KeyParameter.beq, hab, hb, ne_eq, not_true_eq_false, if_false, Tag.ofVal?_val]

/-- Parameters with different tags are never `==`. -/
theorem beq_of_tag_ne {a b : KeyParameter} (hab : a.tag ≠ b.tag) :
  (a == b) = false
  := if_pos hab

/-- A parameter whose tag names no enumerator falls out of the `switch`: it is `==` to
nothing. -/
theorem beq_of_ofVal?_eq_none {a : KeyParameter} (b : KeyParameter)
    (ht : Tag.ofVal? a.tag = none) :
  (a == b) = false
  := by
  show KeyParameter.beq a b = false
  simp only [KeyParameter.beq, ht, ite_self]

/-! ## The `switch` against the accessors -/

/-- The types whose tags carry no value: presence is the only information. -/
def presenceOnly (tag : BitVec 32) : Bool :=
  typeFromTag tag == TagType.bool.val || typeFromTag tag == TagType.invalid.val

/-- The `switch` and the accessors agree on a tag: the `case` returns `true` exactly for the
`BOOL` and `INVALID` types, and otherwise compares a field read from the same storage as the
field `accessTagValue` selects. -/
def switchAgrees (t : Tag) : Bool :=
  ((switchField t).isNone == presenceOnly t.val) &&
    (switchField t).all fun fl' =>
      (accessTagValue (tag2TypedTag t.val)).any fun fl => fl.storage == fl'.storage

/-- The hand-written `switch` agrees with the accessor macros on every tag of the
enumeration; for `USER_AUTH_TYPE` it compares `f.integer` where the accessor reads
`f.hardwareAuthenticatorType`, the same four bytes. -/
theorem switchAgrees_eq_true (t : Tag) :
  switchAgrees t = true
  := by
  cases t <;> rfl

/-- The `case` of a tag of the enumeration compares two parameters as its accessor does:
presence alone for the `BOOL` and `INVALID` types, else the field `accessTagValue` selects. -/
theorem switch_iff_accessTagValue (t : Tag) (a b : KeyParameter) :
  switchCompare t a b = true ↔
    (typeFromTag t.val = TagType.bool.val ∨ typeFromTag t.val = TagType.invalid.val ∨
      ∃ fl, accessTagValue (tag2TypedTag t.val) = some fl ∧ fl.get a = fl.get b)
  := by
  have hagree := switchAgrees_eq_true t
  simp only [switchAgrees, Bool.and_eq_true, beq_iff_eq, presenceOnly] at hagree
  obtain ⟨hnone, hsome⟩ := hagree
  unfold switchCompare
  cases hsw : switchField t with
  | none =>
    have hpres : typeFromTag t.val = TagType.bool.val ∨
        typeFromTag t.val = TagType.invalid.val := by
      simpa [hsw] using hnone.symm
    exact iff_of_true rfl (hpres.imp_right Or.inl)
  | some fl' =>
    cases hacc : accessTagValue (tag2TypedTag t.val) with
    | none => simp [hsw, hacc] at hsome
    | some fl =>
      obtain ⟨hbool, hinvalid⟩ : typeFromTag t.val ≠ TagType.bool.val ∧
          typeFromTag t.val ≠ TagType.invalid.val := by
        simpa [hsw] using hnone.symm
      simp only [hsw, hacc, Option.all_some, Option.any_some, beq_iff_eq] at hsome
      simp only [hbool, hinvalid, Option.some.injEq, exists_eq_left', false_or,
        decide_eq_true_eq]
      exact (Field.get_eq_iff_of_storage_eq hsome a b).symm

/-- Two parameters of the same tag, an enumerator of type `BOOL`, are `==`. -/
theorem beq_of_bool
    {t : Tag} (hB : typeFromTag t.val = TagType.bool.val) {a b : KeyParameter}
    (hab : a.tag = b.tag) (ha : a.tag = t.val) :
  (a == b) = true
  := by
  rw [beq_of_tag hab ha, switch_iff_accessTagValue]
  exact Or.inl hB

/-- Two parameters of the same tag, an enumerator with a value type other than `BOOL`, are `==`
exactly when they agree on the field its accessor selects. -/
theorem beq_iff_get_eq
    {t : Tag} {fl : Field} (h : accessTagValue (tag2TypedTag t.val) = some fl)
    (hb : typeFromTag t.val ≠ TagType.bool.val) {a b : KeyParameter}
    (hab : a.tag = b.tag) (ha : a.tag = t.val) :
  (a == b) = true ↔ fl.get a = fl.get b
  := by
  rw [beq_of_tag hab ha, switch_iff_accessTagValue]
  simp only [hb, typeFromTag_ne_invalid h, h, false_or, Option.some.injEq, exists_eq_left']

/-- For every tag `t` of the enumeration and all parameters `a`, `b` with `a.tag = t`: `a == b`
exactly when `b` has the same tag and either `t` has type `BOOL` or `INVALID`, or `a` and `b`
agree on the field `accessTagValue` selects for `t`. -/
theorem beq_iff_accessTagValue (t : Tag) (a b : KeyParameter) (ha : a.tag = t.val) :
  (a == b) = true ↔ a.tag = b.tag ∧
    (typeFromTag t.val = TagType.bool.val ∨ typeFromTag t.val = TagType.invalid.val ∨
      ∃ fl, accessTagValue (tag2TypedTag t.val) = some fl ∧ fl.get a = fl.get b)
  := by
  by_cases hab : a.tag = b.tag
  case neg => exact iff_of_false (Bool.eq_false_iff.mp (beq_of_tag_ne hab)) (hab ·.1)
  rw [beq_of_tag hab ha, switch_iff_accessTagValue]
  exact (and_iff_right hab).symm

/-- `beq_iff_accessTagValue` at `USER_AUTH_TYPE`, for two parameters that agree on the first
four bytes of their unions and differ above them and in their blobs. -/
theorem beq_iff_accessTagValue_userAuthType :
  (⟨Tag.userAuthType.val, ⟨0x2#64⟩, []⟩ : KeyParameter).tag = Tag.userAuthType.val ∧
    (((⟨Tag.userAuthType.val, ⟨0x2#64⟩, []⟩ : KeyParameter) ==
        ⟨Tag.userAuthType.val, ⟨0xFF00000002#64⟩, [1]⟩) = true ↔
      (⟨Tag.userAuthType.val, ⟨0x2#64⟩, []⟩ : KeyParameter).tag =
          (⟨Tag.userAuthType.val, ⟨0xFF00000002#64⟩, [1]⟩ : KeyParameter).tag ∧
        (typeFromTag Tag.userAuthType.val = TagType.bool.val ∨
          typeFromTag Tag.userAuthType.val = TagType.invalid.val ∨
          ∃ fl, accessTagValue (tag2TypedTag Tag.userAuthType.val) = some fl ∧
            fl.get ⟨Tag.userAuthType.val, ⟨0x2#64⟩, []⟩ =
              fl.get ⟨Tag.userAuthType.val, ⟨0xFF00000002#64⟩, [1]⟩))
  := ⟨rfl, beq_iff_accessTagValue Tag.userAuthType _ _ rfl⟩

/-! ## `==` is a partial equivalence -/

/-- What `a == b` says: the tags are equal and name an enumerator, whose `case`, when it
compares a field, finds it equal on both sides. -/
theorem beq_eq_true_iff (a b : KeyParameter) :
  (a == b) = true ↔ a.tag = b.tag ∧ ∃ t : Tag, a.tag = t.val ∧
    ∀ fl, switchField t = some fl → fl.get a = fl.get b
  := by
  by_cases hab : a.tag = b.tag
  case neg => exact iff_of_false (Bool.eq_false_iff.mp (beq_of_tag_ne hab)) (hab ·.1)
  cases ht : Tag.ofVal? a.tag with
  | none =>
    have hnot := (Tag.ofVal?_eq_none_iff _).mp ht
    exact iff_of_false (Bool.eq_false_iff.mp (beq_of_ofVal?_eq_none b ht))
      fun ⟨_, t, h, _⟩ => hnot t h.symm
  | some t =>
    have hat : a.tag = t.val := ((Tag.ofVal?_eq_some_iff _ _).mp ht).symm
    have huniq (t' : Tag) : a.tag = t'.val ↔ t' = t :=
      ⟨fun h => Tag.val_inj (h.symm.trans hat), fun h => h ▸ hat⟩
    rw [beq_of_tag hab hat, and_iff_right hab]
    simp only [huniq, exists_eq_left, switchCompare]
    cases switchField t <;> simp

/-- Parameters that are `==` have the same tag. -/
theorem tag_eq_of_beq {a b : KeyParameter} (h : (a == b) = true) :
  a.tag = b.tag
  := ((beq_eq_true_iff a b).mp h).1

theorem beq_symm {a b : KeyParameter} (h : (a == b) = true) :
  (b == a) = true
  := by
  rw [beq_eq_true_iff] at h ⊢
  obtain ⟨hab, t, ht, hfl⟩ := h
  exact ⟨hab.symm, t, hab ▸ ht, fun fl h => (hfl fl h).symm⟩

theorem beq_trans {a b c : KeyParameter} (h₁ : (a == b) = true) (h₂ : (b == c) = true) :
  (a == c) = true
  := by
  rw [beq_eq_true_iff] at h₁ h₂ ⊢
  obtain ⟨hab, t, ht, hfl⟩ := h₁
  obtain ⟨hbc, t', ht', hfl'⟩ := h₂
  obtain rfl : t = t' := Tag.val_inj (ht.symm.trans (hab.trans ht'))
  exact ⟨hab.trans hbc, t, ht, fun fl h => (hfl fl h).trans (hfl' fl h)⟩

/-- `operator==` is symmetric and transitive on all parameters, and reflexive exactly on those
whose tag is an enumerator of `Tag`: any other 32-bit tag, the legacy ones included, falls out
of the `switch`. -/
theorem beq_partial_equivalence :
  (∀ a b : KeyParameter, (a == b) = (b == a)) ∧
    (∀ a b c : KeyParameter, (a == b) = true → (b == c) = true → (a == c) = true) ∧
    (∀ a : KeyParameter, (a == a) = true ↔ ∃ t : Tag, a.tag = t.val)
  := by
  refine ⟨fun a b => Bool.eq_iff_iff.mpr ⟨beq_symm, beq_symm⟩, fun _ _ _ => beq_trans,
    fun a => ?_⟩
  simp only [beq_eq_true_iff, true_and, implies_true, and_true]

/-- A parameter with the legacy tag `KM_TAG_DIGEST_OLD` is not `==` to itself. -/
theorem beq_kmTagDigestOld_not_refl :
  ¬((⟨kmTagDigestOld, ⟨0⟩, []⟩ : KeyParameter) == ⟨kmTagDigestOld, ⟨0⟩, []⟩) = true
  := Bool.eq_false_iff.mp (beq_of_ofVal?_eq_none _ legacy_tags_not_enumerators.1)

/-! ## `==` on what `Authorization` builds -/

/-- Through a typed tag of the enumeration with a value type, two authorizations are `==`
exactly when their values are equal, whatever their unions held before. -/
theorem authorization_beq_iff
    (t : Tag) {fl : Field} (h : accessTagValue (tag2TypedTag t.val) = some fl)
    (hb : (tag2TypedTag t.val).tagType ≠ TagType.bool.val) (v w : fl.type)
    (u₁ u₂ : IntegerParams) :
  (authorization _ h hb v u₁ == authorization _ h hb w u₂) = true ↔ v = w
  := by
  have hinvalid : typeFromTag t.val ≠ TagType.invalid.val := fun hi => by
    simp [accessTagValue_eq_none_of_invalid t hi] at h
  have hbool : typeFromTag t.val ≠ TagType.bool.val := hb
  rw [beq_of_tag (by simp) (tag_authorization _ h hb v u₁), switch_iff_accessTagValue]
  simp [hbool, hinvalid, h]

/-- `authorization_beq_iff` at `Authorization(TAG_NONCE, …)`, for two nonces that differ in
one byte. -/
theorem authorization_beq_iff_nonce :
  (accessTagValue (tag2TypedTag Tag.nonce.val) = some .blob ∧
      (tag2TypedTag Tag.nonce.val).tagType ≠ TagType.bool.val) ∧
    ((authorization (tag2TypedTag Tag.nonce.val) rfl (by decide) ([1, 2, 3] : List (BitVec 8))
          ⟨0⟩ ==
        authorization (tag2TypedTag Tag.nonce.val) rfl (by decide)
          ([1, 2, 4] : List (BitVec 8)) ⟨0⟩) = true ↔
      ([1, 2, 3] : List (BitVec 8)) = [1, 2, 4])
  := ⟨⟨rfl, by decide⟩, authorization_beq_iff Tag.nonce rfl (by decide) _ _ ⟨0⟩ ⟨0⟩⟩

/-- The seven bytes that the `BOOL` overload of `Authorization` leaves uninitialised cannot be
seen through `operator==` or `authorizationValue`: whatever the two fresh unions held, the two
results compare alike against every parameter and read alike through every typed tag. -/
theorem authorizationBool_indistinguishable
    (T : TypedTag) (hB : T.tagType = TagType.bool.val) (u₁ u₂ : IntegerParams) :
  (∀ q : KeyParameter, (authorizationBool T hB u₁ == q) = (authorizationBool T hB u₂ == q)) ∧
    ∀ (T' : TypedTag) (fl : Field) (h : accessTagValue T' = some fl),
      authorizationValue T' h (authorizationBool T hB u₁) =
        authorizationValue T' h (authorizationBool T hB u₂)
  := by
  have htag₁ := tag_authorizationBool T hB u₁
  have htag₂ := tag_authorizationBool T hB u₂
  refine ⟨fun q => ?_, fun T' fl h => ?_⟩
  · by_cases hq : T.tag = q.tag
    case neg => rw [beq_of_tag_ne (htag₁ ▸ hq), beq_of_tag_ne (htag₂ ▸ hq)]
    cases ht : Tag.ofVal? T.tag with
    | none =>
      rw [@beq_of_ofVal?_eq_none (authorizationBool T hB u₁) q ht,
        @beq_of_ofVal?_eq_none (authorizationBool T hB u₂) q ht]
    | some t =>
      have hT : T.tag = t.val := ((Tag.ofVal?_eq_some_iff _ _).mp ht).symm
      have hbool : typeFromTag t.val = TagType.bool.val := hT ▸ T.type_eq.trans hB
      rw [beq_of_bool hbool (htag₁.trans hq) (htag₁.trans hT),
        beq_of_bool hbool (htag₂.trans hq) (htag₂.trans hT)]
  · by_cases hT' : T.tag = T'.tag
    case neg =>
      rw [authorizationValue_of_tag_ne _ h (htag₁ ▸ hT'),
        authorizationValue_of_tag_ne _ h (htag₂ ▸ hT')]
    obtain rfl : T = T' := by rw [T.eq_tag2TypedTag, T'.eq_tag2TypedTag, hT']
    obtain rfl : fl = .f .boolValue := Option.some.inj (h.symm.trans (accessTagValue_of_bool hB))
    rw [authorizationValue_of_tag_eq _ h htag₁, authorizationValue_of_tag_eq _ h htag₂]
    exact congrArg (fun x => NullOr.ofValue (some x))
      ((Member.get_set .boolValue true u₁).trans (Member.get_set .boolValue true u₂).symm)

/-- `authorizationBool_indistinguishable` at `Authorization(TAG_CALLER_NONCE)`, on two fresh
unions that differ in their second byte. -/
theorem authorizationBool_indistinguishable_callerNonce :
  (tag2TypedTag Tag.callerNonce.val).tagType = TagType.bool.val ∧
    (∀ q : KeyParameter,
        (authorizationBool (tag2TypedTag Tag.callerNonce.val) (by decide) ⟨0⟩ == q) =
          (authorizationBool (tag2TypedTag Tag.callerNonce.val) (by decide) ⟨0x100#64⟩ == q)) ∧
      ∀ (T' : TypedTag) (fl : Field) (h : accessTagValue T' = some fl),
        authorizationValue T' h
            (authorizationBool (tag2TypedTag Tag.callerNonce.val) (by decide) ⟨0⟩) =
          authorizationValue T' h
            (authorizationBool (tag2TypedTag Tag.callerNonce.val) (by decide) ⟨0x100#64⟩)
  := ⟨by decide, authorizationBool_indistinguishable _ (by decide) ⟨0⟩ ⟨0x100#64⟩⟩

/-! ## `authorizationValue` against `==` -/

/-- Through a tag of the enumeration, `authorizationValue` gives the same result on any two
parameters that are `==` exactly when the tag's type is not `BOOL`: for a `BOOL` tag,
`operator==` ignores `f.boolValue`, which the accessor reads. -/
theorem authorizationValue_congr_iff
    (t : Tag) {fl : Field} (h : accessTagValue (tag2TypedTag t.val) = some fl) :
  (∀ a b : KeyParameter, (a == b) = true →
      authorizationValue _ h a = authorizationValue _ h b) ↔
    typeFromTag t.val ≠ TagType.bool.val
  := by
  constructor
  · intro hcongr hB
    obtain rfl : fl = .f .boolValue :=
      Option.some.inj (h.symm.trans (@accessTagValue_of_bool (tag2TypedTag t.val) hB))
    have hab := hcongr ⟨t.val, ⟨1⟩, []⟩ ⟨t.val, ⟨0⟩, []⟩ (beq_of_bool hB rfl rfl)
    rw [authorizationValue_of_tag_eq _ h rfl, authorizationValue_of_tag_eq _ h rfl] at hab
    have hflag : ((⟨1⟩ : IntegerParams).load 8 != 0) ≠ ((⟨0⟩ : IntegerParams).load 8 != 0) := by
      decide
    exact hflag (Option.some.inj (congrArg NullOr.value_ hab))
  · intro hb a b hab
    have htag := tag_eq_of_beq hab
    by_cases ha : a.tag = t.val
    · rw [authorizationValue_of_tag_eq _ h ha,
        authorizationValue_of_tag_eq _ h (htag.symm.trans ha), (beq_iff_get_eq h hb htag ha).mp hab]
    · rw [authorizationValue_of_tag_ne _ h ha,
        authorizationValue_of_tag_ne _ h fun hb' => ha (htag.trans hb')]

/-- `authorizationValue_congr_iff` through `TAG_CALLER_NONCE`, a `BOOL` tag. -/
theorem authorizationValue_congr_iff_callerNonce :
  accessTagValue (tag2TypedTag Tag.callerNonce.val) = some (.f .boolValue) ∧
    ((∀ a b : KeyParameter, (a == b) = true →
        authorizationValue (tag2TypedTag Tag.callerNonce.val) rfl a =
          authorizationValue (tag2TypedTag Tag.callerNonce.val) rfl b) ↔
      typeFromTag Tag.callerNonce.val ≠ TagType.bool.val)
  := ⟨rfl, authorizationValue_congr_iff Tag.callerNonce rfl⟩

/-- Rebuilding a parameter from what `authorizationValue` reads gives a parameter `==` to it,
and no other value does: through a tag of the enumeration with a value type other than `BOOL`,
`Authorization(T, v) == p` exactly when `authorizationValue(T, p)` refers to `v`; through a
`BOOL` tag of the enumeration, `Authorization(T) == p` exactly when `authorizationValue(T, p)`
is ok. -/
theorem authorization_beq_iff_authorizationValue :
  (∀ (t : Tag) (fl : Field) (h : accessTagValue (tag2TypedTag t.val) = some fl)
      (hb : (tag2TypedTag t.val).tagType ≠ TagType.bool.val) (v : fl.type) (u : IntegerParams)
      (p : KeyParameter),
      (authorization _ h hb v u == p) = true ↔ (authorizationValue _ h p).value_ = some v) ∧
    (∀ (t : Tag) (hB : (tag2TypedTag t.val).tagType = TagType.bool.val) (u : IntegerParams)
      (p : KeyParameter),
      (authorizationBool _ hB u == p) = true ↔
        (authorizationValue _ (accessTagValue_of_bool hB) p).isOk)
  := by
  refine ⟨fun t fl h hb v u p => ?_, fun t hB u p => ?_⟩
  · have htag := tag_authorization _ h hb v u
    by_cases hp : p.tag = t.val
    · rw [beq_iff_get_eq h hb (htag.trans hp.symm) htag, get_authorization,
        authorizationValue_of_tag_eq _ h hp]
      exact ⟨fun e => congrArg some e.symm, fun e => (Option.some.inj e).symm⟩
    · rw [authorizationValue_of_tag_ne _ h hp, beq_of_tag_ne (htag ▸ Ne.symm hp)]
      exact iff_of_false Bool.false_ne_true (Option.noConfusion ·)
  · have htag := tag_authorizationBool _ hB u
    by_cases hp : p.tag = t.val
    · rw [authorizationValue_of_tag_eq _ _ hp]
      exact iff_of_true (beq_of_bool hB (htag.trans hp.symm) htag) rfl
    · rw [authorizationValue_of_tag_ne _ _ hp, beq_of_tag_ne (htag ▸ Ne.symm hp)]
      exact Iff.rfl

/-- `authorization_beq_iff_authorizationValue` at `Authorization(TAG_KEY_SIZE, 7)` against a
parameter holding `7` below other bytes, and at `Authorization(TAG_CALLER_NONCE)` against a
parameter whose flag byte is zero. -/
theorem authorization_beq_iff_authorizationValue_keySize_callerNonce :
  ((authorization (tag2TypedTag Tag.keySize.val) rfl (by decide) (7 : BitVec 32) ⟨0⟩ ==
        ⟨Tag.keySize.val, ⟨0xFF00000007#64⟩, [1]⟩) = true ↔
      (authorizationValue (tag2TypedTag Tag.keySize.val) rfl
        ⟨Tag.keySize.val, ⟨0xFF00000007#64⟩, [1]⟩).value_ = some (7 : BitVec 32)) ∧
    ((authorizationBool (tag2TypedTag Tag.callerNonce.val) (by decide) ⟨0xAB00#64⟩ ==
        ⟨Tag.callerNonce.val, ⟨0⟩, []⟩) = true ↔
      (authorizationValue (tag2TypedTag Tag.callerNonce.val)
        (accessTagValue_of_bool (by decide)) ⟨Tag.callerNonce.val, ⟨0⟩, []⟩).isOk)
  := ⟨authorization_beq_iff_authorizationValue.1 Tag.keySize _ rfl (by decide) _ _ _,
    authorization_beq_iff_authorizationValue.2 Tag.callerNonce (by decide) _ _⟩

end Keymaster
