import KeymasterTags.Equality

/-!
# What a key parameter means

The spec's reading of a key parameter: a tag of the closed set, and the value held in the one
field that the tag's category selects, or nothing when presence is the only information.
`KeyParameter.meaning` computes it from the raw parameter through the accessors, and is
`none` for a tag that names no enumerator.

The raw parameter refines its meaning: `operator==` decides equality of meanings
(`beq_iff_meaning_eq`), and `Authorization` builds a parameter that means its typed tag and
value (`meaning_authorization`).
-/

namespace Keymaster

/-- The value a parameter carries as one of tag `t`: nothing for the `BOOL` and `INVALID`
types, else the field the accessor of `t` selects, with its contents. -/
def tagValue (t : Tag) (p : KeyParameter) : Option (Σ fl : Field, fl.type) :=
  if presenceOnly t.val then none
  else (accessTagValue (tag2TypedTag t.val)).map fun fl => ⟨fl, fl.get p⟩

/-- The meaning of a parameter: the enumerator its tag names, and the value it carries as a
parameter of that tag. -/
def KeyParameter.meaning (p : KeyParameter) : Option (Tag × Option (Σ fl : Field, fl.type)) :=
  (Tag.ofVal? p.tag).map fun t => (t, tagValue t p)

theorem meaning_of_tag {p : KeyParameter} {t : Tag} (hp : p.tag = t.val) :
  p.meaning = some (t, tagValue t p)
  := by
  simp [KeyParameter.meaning, hp]

/-- A tag of the enumeration that carries a value has an accessor. -/
theorem accessTagValue_of_not_presenceOnly {t : Tag} (h : presenceOnly t.val = false) :
  ∃ fl, accessTagValue (tag2TypedTag t.val) = some fl
  := by
  apply Option.isSome_iff_exists.mp
  apply (accessTagValue_isSome_iff t).mpr
  rintro rfl
  exact absurd h (by decide)

/-- Two parameters carry the same value for `t` exactly when the `case` of `t` in
`operator==` finds them equal. -/
theorem tagValue_eq_iff (t : Tag) (a b : KeyParameter) :
  tagValue t a = tagValue t b ↔ switchCompare t a b = true
  := by
  rw [switch_iff_accessTagValue]
  cases hpres : presenceOnly t.val
  · obtain ⟨fl, hfl⟩ := accessTagValue_of_not_presenceOnly hpres
    simp only [presenceOnly, Bool.or_eq_false_iff, beq_eq_false_iff_ne] at hpres
    simp [tagValue, presenceOnly, hpres, hfl]
  · have hp : presenceOnly t.val = true := hpres
    simp only [presenceOnly, Bool.or_eq_true, beq_iff_eq] at hpres
    simp only [tagValue, hp, if_true, true_iff]
    exact hpres.imp_right Or.inl

/-- A parameter whose tag is the enumerator `t` means what `b` means exactly when `b` has the
same tag and carries the same value for `t`. -/
theorem meaning_eq_iff {a b : KeyParameter} {t : Tag} (hat : a.tag = t.val) :
  a.meaning = b.meaning ↔ a.tag = b.tag ∧ tagValue t a = tagValue t b
  := by
  rw [meaning_of_tag hat]
  constructor
  · intro h
    cases hb : Tag.ofVal? b.tag with
    | none => simp [KeyParameter.meaning, hb] at h
    | some t' =>
      have hbt := (Tag.ofVal?_eq_some_iff _ _).mp hb
      rw [meaning_of_tag hbt.symm] at h
      obtain ⟨rfl, hv⟩ := Prod.mk.inj (Option.some.inj h)
      exact ⟨hat.trans hbt, hv⟩
  · rintro ⟨hab, hv⟩
    rw [meaning_of_tag (hab ▸ hat), hv]

/-- `operator==` is equality of meanings on the parameters that have one, and no parameter
without one is `==` to anything. -/
theorem beq_iff_meaning_eq (a b : KeyParameter) :
  (a == b) = true ↔ a.meaning.isSome ∧ a.meaning = b.meaning
  := by
  cases ht : Tag.ofVal? a.tag with
  | none =>
    simp only [beq_of_ofVal?_eq_none b ht, KeyParameter.meaning, ht, Option.map_none',
      Option.isSome_none, Bool.false_eq_true, false_and]
  | some t =>
    have hat : a.tag = t.val := ((Tag.ofVal?_eq_some_iff _ _).mp ht).symm
    rw [meaning_eq_iff hat, meaning_of_tag hat]
    simp only [Option.isSome_some, true_and]
    by_cases hab : a.tag = b.tag
    case neg => exact iff_of_false (Bool.eq_false_iff.mp (beq_of_tag_ne hab)) (hab ·.1)
    rw [beq_of_tag hab hat, tagValue_eq_iff, and_iff_right hab]

/-- `Authorization(T, v)`, for a typed tag of the enumeration with a value type, means `T`'s
enumerator and the value `v` in the field its accessor selects. -/
theorem meaning_authorization
    (t : Tag) {fl : Field} (h : accessTagValue (tag2TypedTag t.val) = some fl)
    (hb : (tag2TypedTag t.val).tagType ≠ TagType.bool.val) (v : fl.type) (u : IntegerParams) :
  (authorization _ h hb v u).meaning = some (t, some ⟨fl, v⟩)
  := by
  have hinvalid : typeFromTag t.val ≠ TagType.invalid.val := fun hi => by
    simp [accessTagValue_eq_none_of_invalid t hi] at h
  have hbool : typeFromTag t.val ≠ TagType.bool.val := hb
  rw [meaning_of_tag (tag_authorization _ h hb v u)]
  simp [tagValue, presenceOnly, hbool, hinvalid, h]

/-- `meaning_authorization` at `Authorization(TAG_KEY_SIZE, 7)`. -/
theorem meaning_authorization_keySize :
  (accessTagValue (tag2TypedTag Tag.keySize.val) = some (.f .integer) ∧
      (tag2TypedTag Tag.keySize.val).tagType ≠ TagType.bool.val) ∧
    (authorization (tag2TypedTag Tag.keySize.val) rfl (by decide) (7 : BitVec 32)
        ⟨0xFFFF#64⟩).meaning = some (Tag.keySize, some ⟨.f .integer, (7 : BitVec 32)⟩)
  := ⟨⟨rfl, by decide⟩,
    meaning_authorization Tag.keySize rfl (by decide) (7 : BitVec 32) ⟨0xFFFF#64⟩⟩

end Keymaster
