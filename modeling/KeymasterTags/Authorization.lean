import KeymasterTags.TypedTag
import KeymasterTags.NullOr

/-!
# Authorization and authorizationValue

`makeKeyParameter` builds a key parameter from a typed tag, in its two overloads; the argument
`u` is whatever the union of the fresh, default-initialised `KeyParameter param;` holds, which
the source never initialises before the body assigns to it. `authorization` is
`Authorization`, whose `static_assert`s become hypotheses, and `authorizationValue` reads a
parameter back through a typed tag into a `NullOr`.

The value overload zeroes `f.longInteger`, all eight bytes of the union, before assigning the
value, so what it builds does not depend on `u` and every byte above the value is zero. The
`BOOL` overload assigns `f.boolValue` alone: the seven bytes above it keep what `u` held
(`authorizationBool_eq_iff`).

Over a list of parameters, `NullOrOr` of the `authorizationValue`s reads the first parameter of
the typed tag's tag (`toOption_nullOrOr_authorizationValue`).
-/

namespace Keymaster

/-- `KeyParameter param;` followed by `param.tag = tag;`: the union holds `u` and the blob, a
`hidl_vec`, is empty. -/
def freshKeyParameter (tag : BitVec 32) (u : IntegerParams) : KeyParameter := ⟨tag, u, []⟩

/-- `makeKeyParameter(ttag, value)`: set the tag, zero `f.longInteger`, and assign `value`
through `accessTagValue(ttag, param)`. -/
def makeKeyParameter (T : TypedTag) {fl : Field} (_h : accessTagValue T = some fl)
    (value : fl.type) (u : IntegerParams) : KeyParameter :=
  let param := freshKeyParameter T.tag u
  let param := { param with f := Member.longInteger.set (0 : BitVec 64) param.f }
  fl.set value param

/-- `makeKeyParameter(ttag)`, the overload for a `BOOL` typed tag: set the tag and
`f.boolValue = true`. -/
def makeKeyParameterBool (T : TypedTag) (_h : T.tagType = TagType.bool.val)
    (u : IntegerParams) : KeyParameter :=
  let param := freshKeyParameter T.tag u
  { param with f := Member.boolValue.set true param.f }

/-- `Authorization(ttag, value)` for a typed tag that is not `BOOL`. Its `static_assert`s are the
hypotheses: `TypedTag2ValueType` is defined (the accessor exists, and `value` has its type), and
the tag is not `BOOL`, whose authorizations take no value. -/
def authorization (T : TypedTag) {fl : Field} (h : accessTagValue T = some fl)
    (_hb : T.tagType ≠ TagType.bool.val) (value : fl.type) (u : IntegerParams) : KeyParameter :=
  makeKeyParameter T h value u

/-- `Authorization(ttag)` for a `BOOL` typed tag: presence is truth. -/
def authorizationBool (T : TypedTag) (h : T.tagType = TagType.bool.val)
    (u : IntegerParams) : KeyParameter :=
  makeKeyParameterBool T h u

/-- `authorizationValue(ttag, param)`: `{}` when the tags differ, else a wrapper of the
reference `accessTagValue(ttag, param)`, whose address stands for the field's value. -/
def authorizationValue (T : TypedTag) {fl : Field} (_h : accessTagValue T = some fl)
    (param : KeyParameter) : NullOr (Option fl.type) :=
  if T.tag ≠ param.tag then NullOr.null else NullOr.ofValue (some (fl.get param))

/-! ## Reading back -/

@[simp]
theorem tag_authorization
    (T : TypedTag) {fl : Field} (h : accessTagValue T = some fl)
    (hb : T.tagType ≠ TagType.bool.val) (v : fl.type) (u : IntegerParams) :
  (authorization T h hb v u).tag = T.tag
  := Field.tag_set _ _ _

@[simp]
theorem tag_authorizationBool
    (T : TypedTag) (h : T.tagType = TagType.bool.val) (u : IntegerParams) :
  (authorizationBool T h u).tag = T.tag
  := rfl

/-- The field the accessor of `T` selects holds, in `Authorization(T, v)`, the value `v`. -/
@[simp]
theorem get_authorization
    (T : TypedTag) {fl : Field} (h : accessTagValue T = some fl)
    (hb : T.tagType ≠ TagType.bool.val) (v : fl.type) (u : IntegerParams) :
  fl.get (authorization T h hb v u) = v
  := Field.get_set _ _ _

/-- `authorizationValue` through a typed tag whose tag is the parameter's wraps a reference to
the field its accessor selects. -/
theorem authorizationValue_of_tag_eq
    (T : TypedTag) {fl : Field} (h : accessTagValue T = some fl) {p : KeyParameter}
    (hp : p.tag = T.tag) :
  authorizationValue T h p = NullOr.ofValue (some (fl.get p))
  := by
  simp [authorizationValue, hp]

/-- `authorizationValue` through a typed tag whose tag is not the parameter's is not ok,
whatever the parameter holds. -/
theorem isOk_authorizationValue_of_tag_ne
    (T : TypedTag) {fl : Field} (h : accessTagValue T = some fl) {p : KeyParameter}
    (hp : p.tag ≠ T.tag) :
  (authorizationValue T h p).isOk = false
  := by
  simp [authorizationValue, Ne.symm hp]

/-- `authorizationValue` through a typed tag whose tag is not the parameter's is `{}`. -/
theorem authorizationValue_of_tag_ne
    (T : TypedTag) {fl : Field} (h : accessTagValue T = some fl) {p : KeyParameter}
    (hp : p.tag ≠ T.tag) :
  authorizationValue T h p = NullOr.null
  := if_pos (Ne.symm hp)

/-- What `authorizationValue` reads, for a caller that reads `value()` only after `isOk()`. -/
theorem toOption_authorizationValue
    (T : TypedTag) {fl : Field} (h : accessTagValue T = some fl) (p : KeyParameter) :
  (authorizationValue T h p).toOption = if p.tag = T.tag then some (some (fl.get p)) else none
  := by
  by_cases hp : p.tag = T.tag
  · rw [authorizationValue_of_tag_eq T h hp, if_pos hp]
    rfl
  · rw [authorizationValue_of_tag_ne T h hp, if_neg hp]
    rfl

/-- `Authorization` and `authorizationValue` are a round trip for every typed tag with a value
type and every value of it; for every `BOOL` typed tag the value read back is `true`; and
through a typed tag with another tag, what either overload of `Authorization` built reads as
not ok. -/
theorem authorizationValue_authorization :
  (∀ (T : TypedTag) (fl : Field) (h : accessTagValue T = some fl)
      (hb : T.tagType ≠ TagType.bool.val) (v : fl.type) (u : IntegerParams),
      (authorizationValue T h (authorization T h hb v u)).isOk ∧
        (authorizationValue T h (authorization T h hb v u)).value_ = some v) ∧
    (∀ (T : TypedTag) (hB : T.tagType = TagType.bool.val) (u : IntegerParams),
      (authorizationValue T (accessTagValue_of_bool hB) (authorizationBool T hB u)).isOk ∧
        (authorizationValue T (accessTagValue_of_bool hB) (authorizationBool T hB u)).value_ =
          some true) ∧
    (∀ (T T' : TypedTag) (fl fl' : Field) (h : accessTagValue T = some fl)
      (h' : accessTagValue T' = some fl') (hb : T.tagType ≠ TagType.bool.val) (v : fl.type)
      (u : IntegerParams), T'.tag ≠ T.tag →
        (authorizationValue T' h' (authorization T h hb v u)).isOk = false) ∧
    (∀ (T T' : TypedTag) (fl' : Field) (hB : T.tagType = TagType.bool.val)
      (h' : accessTagValue T' = some fl') (u : IntegerParams), T'.tag ≠ T.tag →
        (authorizationValue T' h' (authorizationBool T hB u)).isOk = false)
  := by
  refine ⟨fun T fl h hb v u => ?_, fun T hB u => ?_, fun T T' _ _ h h' hb v u hne => ?_,
    fun T T' _ hB h' u hne => ?_⟩
  · rw [authorizationValue_of_tag_eq T h (tag_authorization T h hb v u)]
    exact ⟨rfl, congrArg some (get_authorization T h hb v u)⟩
  · rw [authorizationValue_of_tag_eq T _ (tag_authorizationBool T hB u)]
    exact ⟨rfl, congrArg some (Member.get_set .boolValue true u)⟩
  · exact isOk_authorizationValue_of_tag_ne T' h' (by simpa using hne.symm)
  · exact isOk_authorizationValue_of_tag_ne T' h' (by simpa using hne.symm)

/-- `authorizationValue_authorization` at `Authorization(TAG_KEY_SIZE, 7)` and
`Authorization(TAG_CALLER_NONCE)`, each on a union holding garbage, read back through their own
typed tags and through each other's. -/
theorem authorizationValue_authorization_keySize_callerNonce :
  ((authorizationValue (tag2TypedTag Tag.keySize.val) rfl
        (authorization (tag2TypedTag Tag.keySize.val) rfl (by decide) (7 : BitVec 32)
          ⟨0xFFFF#64⟩)).isOk ∧
      (authorizationValue (tag2TypedTag Tag.keySize.val) rfl
        (authorization (tag2TypedTag Tag.keySize.val) rfl (by decide) (7 : BitVec 32)
          ⟨0xFFFF#64⟩)).value_ = some (7 : BitVec 32)) ∧
    ((authorizationValue (tag2TypedTag Tag.callerNonce.val) (accessTagValue_of_bool (by decide))
        (authorizationBool (tag2TypedTag Tag.callerNonce.val) (by decide) ⟨0xAB00#64⟩)).isOk ∧
      (authorizationValue (tag2TypedTag Tag.callerNonce.val) (accessTagValue_of_bool (by decide))
        (authorizationBool (tag2TypedTag Tag.callerNonce.val) (by decide)
          ⟨0xAB00#64⟩)).value_ = some true) ∧
    (authorizationValue (tag2TypedTag Tag.callerNonce.val) (accessTagValue_of_bool (by decide))
        (authorization (tag2TypedTag Tag.keySize.val) rfl (by decide) (7 : BitVec 32)
          ⟨0xFFFF#64⟩)).isOk = false ∧
    (authorizationValue (tag2TypedTag Tag.keySize.val) rfl
        (authorizationBool (tag2TypedTag Tag.callerNonce.val) (by decide)
          ⟨0xAB00#64⟩)).isOk = false
  := ⟨authorizationValue_authorization.1 (tag2TypedTag Tag.keySize.val) (.f .integer) rfl
      (by decide) _ _,
    authorizationValue_authorization.2.1 (tag2TypedTag Tag.callerNonce.val) (by decide) _,
    authorizationValue_authorization.2.2.1 (tag2TypedTag Tag.keySize.val)
      (tag2TypedTag Tag.callerNonce.val) (.f .integer) (.f .boolValue) rfl rfl (by decide) _ _
      (by decide),
    authorizationValue_authorization.2.2.2 (tag2TypedTag Tag.callerNonce.val)
      (tag2TypedTag Tag.keySize.val) (.f .integer) (by decide) rfl _ (by decide)⟩

/-! ## Reading a list of parameters -/

/-- `NullOrOr(authorizationValue(T, p₁), …, authorizationValue(T, pₙ))` reads the value of the
first `pᵢ` whose tag is `T`'s, and nothing when there is none. -/
theorem toOption_nullOrOr_authorizationValue
    (T : TypedTag) {fl : Field} (h : accessTagValue T = some fl) (p : KeyParameter)
    (ps : List KeyParameter) :
  (nullOrOr (authorizationValue T h p) (ps.map (authorizationValue T h))).toOption =
    ((p :: ps).find? fun q => q.tag = T.tag).map fun q => some (fl.get q)
  := by
  rw [nullOrOr_eq_foldr, ← List.map_cons, NullOr.toOption_foldr_orElse, List.findSome?_map]
  generalize p :: ps = l
  induction l with
  | nil => rfl
  | cons q l ih =>
    by_cases hq : q.tag = T.tag <;>
      simp only [List.findSome?_cons, List.find?_cons, Function.comp_apply,
        toOption_authorizationValue, hq, if_true, if_false, decide_True, decide_False,
        Option.map_some', ih]

/-- `toOption_nullOrOr_authorizationValue` through `TAG_KEY_SIZE` on three parameters, the
first of another tag. -/
theorem toOption_nullOrOr_authorizationValue_keySize :
  accessTagValue (tag2TypedTag Tag.keySize.val) = some (.f .integer) ∧
    (nullOrOr (authorizationValue (tag2TypedTag Tag.keySize.val) rfl
        ⟨Tag.macLength.val, ⟨128⟩, []⟩)
      ([⟨Tag.keySize.val, ⟨256⟩, []⟩, ⟨Tag.keySize.val, ⟨512⟩, []⟩].map
        (authorizationValue (tag2TypedTag Tag.keySize.val) rfl))).toOption =
      (([⟨Tag.macLength.val, ⟨128⟩, []⟩, ⟨Tag.keySize.val, ⟨256⟩, []⟩,
          ⟨Tag.keySize.val, ⟨512⟩, []⟩] : List KeyParameter).find?
        fun q => q.tag = (tag2TypedTag Tag.keySize.val).tag).map
        fun q => some ((Field.f .integer).get q)
  := ⟨rfl, toOption_nullOrOr_authorizationValue (tag2TypedTag Tag.keySize.val) rfl _ _⟩

/-! ## What the fresh union leaves behind -/

/-- Assigning a field of a parameter whose union is zero leaves the union zero above it. -/
theorem Field.set_ushiftRight_width (fl : Field) (v : fl.type) {p : KeyParameter}
    (hp : p.f = ⟨0⟩) :
  (fl.set v p).f.word >>> fl.width = 0
  := by
  obtain ⟨tag, f, blob⟩ := p
  subst hp
  cases fl with
  | f m =>
    cases m <;> exact (IntegerParams.store_ushiftRight (by decide) _ _).trans
      BitVec.zero_ushiftRight
  | blob => rfl

/-- The value overload of `Authorization` builds the same parameter whatever the fresh union
held, and every bit of its union above the assigned field is zero. -/
theorem authorization_union_zeroed
    (T : TypedTag) {fl : Field} (h : accessTagValue T = some fl)
    (hb : T.tagType ≠ TagType.bool.val) (v : fl.type) (u₁ u₂ : IntegerParams) :
  authorization T h hb v u₁ = authorization T h hb v u₂ ∧
    (authorization T h hb v u₁).f.word >>> fl.width = 0
  := by
  simp only [authorization, makeKeyParameter, freshKeyParameter, Member.set,
    IntegerParams.store_64, true_and]
  exact Field.set_ushiftRight_width fl v rfl

/-- `authorization_union_zeroed` at `Authorization(TAG_KEY_SIZE, 7)`. -/
theorem authorization_union_zeroed_keySize :
  (accessTagValue (tag2TypedTag Tag.keySize.val) = some (.f .integer) ∧
      (tag2TypedTag Tag.keySize.val).tagType ≠ TagType.bool.val) ∧
    authorization (tag2TypedTag Tag.keySize.val) rfl (by decide) (7 : BitVec 32) ⟨0⟩ =
        authorization (tag2TypedTag Tag.keySize.val) rfl (by decide) (7 : BitVec 32)
          ⟨0xFFFF#64⟩ ∧
      (authorization (tag2TypedTag Tag.keySize.val) rfl (by decide) (7 : BitVec 32)
          ⟨0⟩).f.word >>> (Field.f .integer).width = 0
  := ⟨⟨rfl, by decide⟩,
    authorization_union_zeroed (tag2TypedTag Tag.keySize.val) rfl (by decide) (7 : BitVec 32)
      ⟨0⟩ ⟨0xFFFF#64⟩⟩

/-- The `BOOL` overload of `Authorization` keeps the seven bytes above `f.boolValue` that the
fresh union held: two runs build the same parameter exactly when those bytes agreed. -/
theorem authorizationBool_eq_iff
    (T : TypedTag) (h : T.tagType = TagType.bool.val) (u₁ u₂ : IntegerParams) :
  authorizationBool T h u₁ = authorizationBool T h u₂ ↔ u₁.word >>> 8 = u₂.word >>> 8
  := by
  simp only [authorizationBool, makeKeyParameterBool, freshKeyParameter, Member.set,
    KeyParameter.mk.injEq, true_and, and_true]
  rw [IntegerParams.eq_iff_load_ushiftRight 8, IntegerParams.load_store (by decide),
    IntegerParams.load_store (by decide), IntegerParams.store_ushiftRight (by decide),
    IntegerParams.store_ushiftRight (by decide)]
  exact and_iff_right rfl

/-- `authorizationBool_eq_iff` at `Authorization(TAG_CALLER_NONCE)`. -/
theorem authorizationBool_eq_iff_callerNonce :
  (tag2TypedTag Tag.callerNonce.val).tagType = TagType.bool.val ∧
    (authorizationBool (tag2TypedTag Tag.callerNonce.val) (by decide) ⟨0⟩ =
        authorizationBool (tag2TypedTag Tag.callerNonce.val) (by decide) ⟨0x100#64⟩ ↔
      (⟨0⟩ : IntegerParams).word >>> 8 = (⟨0x100#64⟩ : IntegerParams).word >>> 8)
  := ⟨by decide, authorizationBool_eq_iff _ (by decide) ⟨0⟩ ⟨0x100#64⟩⟩

/-- `Authorization(TAG_CALLER_NONCE)` on two fresh unions that differ only in their second byte
builds two different parameters. -/
theorem authorizationBool_callerNonce_differs :
  authorizationBool (tag2TypedTag Tag.callerNonce.val) (by decide) ⟨0⟩ ≠
    authorizationBool (tag2TypedTag Tag.callerNonce.val) (by decide) ⟨0x100#64⟩
  := by decide

end Keymaster
