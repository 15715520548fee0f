import Mathlib

/-!
# NullOr

`NullOr<ValueT>` keeps a value together with the flag `null_`, which says out of band whether
the value may be used. For a reference `ValueT` it keeps a pointer instead; we model a
`const T*` into a key parameter that outlives the wrapper as `Option T`, `none` being `nullptr`.
`NullOr()` stores `initializer_t::init()`, that is `nullptr` for references and pointers and
`ValueT()` otherwise: in either case the `default` of the type kept, here `NullOr.null`.

`nullOrOr` is the pair of overloads `NullOrOr`, and `defaultOr` is `defaultOr` on a wrapper of a
reference, which returns the referent by value. What a wrapper means to a caller who reads
`value()` only after `isOk()` is an `Option`, `NullOr.toOption`: `nullOrOr` is the or-else fold
of its arguments, and refines the first present value among them. In closed form it is the
first ok argument, or `NullOr()` itself when there is none (`nullOrOr_eq_find?_getD`), so nested
calls flatten (`nullOrOr_append_nullOrOr`).
-/

namespace Keymaster

/-- `NullOr<ValueT>`, storing its `internal_t` as `value_`: a pointer `Option T` for a
reference `ValueT`, the value itself otherwise. -/
structure NullOr (ι : Type) where
  value_ : ι
  null_ : Bool
  deriving DecidableEq, Repr

namespace NullOr

variable {ι : Type}

/-- `NullOr()`: `value_(initializer_t::init())`, `null_(true)`. -/
def null [Inhabited ι] : NullOr ι := ⟨default, true⟩

/-- The constructors from a value, or from a reference, whose address is then `v`. -/
def ofValue (v : ι) : NullOr ι := ⟨v, false⟩

/-- `isOk()`. -/
def isOk (w : NullOr ι) : Bool := !w.null_

@[simp]
theorem isOk_null [Inhabited ι] :
  (null : NullOr ι).isOk = false
  := rfl

@[simp]
theorem isOk_ofValue (v : ι) :
  (ofValue v).isOk = true
  := rfl

/-- The first of two wrappers if it is ok, else the second. -/
def orElse (a b : NullOr ι) : NullOr ι := if a.isOk then a else b

/-- What a caller who reads `value()` only after `isOk()` gets. -/
def toOption (w : NullOr ι) : Option ι := if w.isOk then some w.value_ else none

/-! ## The or-else fold -/

/-- The or-else fold of a list of wrappers is ok exactly when one of them is. -/
theorem isOk_foldr_orElse [Inhabited ι] (l : List (NullOr ι)) :
  (l.foldr orElse null).isOk ↔ ∃ v ∈ l, v.isOk
  := by
  induction l with
  | nil =>
    simp only [List.foldr_nil, isOk_null, Bool.false_eq_true, List.not_mem_nil, false_and,
      exists_false]
  | cons v l ih =>
    cases hv : v.isOk
    · simp only [List.foldr_cons, orElse, hv, Bool.false_eq_true, if_false, ih,
        List.exists_mem_cons_iff, false_or]
    · exact iff_of_true (by simp only [List.foldr_cons, orElse, hv, if_true])
        ⟨v, List.mem_cons_self v l, hv⟩

/-- When the or-else fold of a list is ok, it is the first ok wrapper of the list. -/
theorem find?_isOk_of_foldr_orElse [Inhabited ι] (l : List (NullOr ι))
    (h : (l.foldr orElse null).isOk) :
  l.find? isOk = some (l.foldr orElse null)
  := by
  induction l with
  | nil => simp at h
  | cons v l ih =>
    by_cases hv : v.isOk
    · simp [orElse, hv]
    · simp only [List.foldr_cons, orElse, hv] at h ⊢
      simpa [hv] using ih h

/-- The or-else fold reads, through `toOption`, as the first value present. -/
theorem toOption_foldr_orElse [Inhabited ι] (l : List (NullOr ι)) :
  (l.foldr orElse null).toOption = l.findSome? toOption
  := by
  induction l with
  | nil => rfl
  | cons v l ih =>
    by_cases hv : v.isOk <;> simp [orElse, toOption, hv, ← ih, List.findSome?_cons]

/-- The or-else fold of a list is its first ok wrapper, or `NullOr()` when none is ok: never a
wrapper that is not ok. -/
theorem foldr_orElse_eq_getD [Inhabited ι] (l : List (NullOr ι)) :
  l.foldr orElse null = (l.find? isOk).getD null
  := by
  induction l with
  | nil => rfl
  | cons v l ih =>
    cases hv : v.isOk <;> simp only [List.foldr_cons, orElse, hv, ih, List.find?_cons] <;> rfl

end NullOr

open NullOr

/-! ## `NullOrOr` and `defaultOr` -/

/-- `NullOrOr(head, tail...)`: the variadic overload while `tail` is not empty, then the
one-argument overload, which returns `{}` when its argument is not ok. -/
def nullOrOr {ι : Type} [Inhabited ι] (head : NullOr ι) : List (NullOr ι) → NullOr ι
  | [] => if head.isOk then head else null
  | t :: ts => if head.isOk then head else nullOrOr t ts

/-- The overloads of `NullOrOr` compute the or-else fold of their arguments. -/
theorem nullOrOr_eq_foldr {ι : Type} [Inhabited ι] (head : NullOr ι) (tail : List (NullOr ι)) :
  nullOrOr head tail = (head :: tail).foldr orElse null
  := by
  induction tail generalizing head with
  | nil => rfl
  | cons t ts ih => simp only [nullOrOr, ih, List.foldr_cons, orElse]

/-- `NullOrOr(w₁, …, wₙ)`, for every `n ≥ 1` and all wrappers, is ok exactly when some `wᵢ`
is; when it is ok it is the first ok `wᵢ`; and it is the or-else fold of `w₁, …, wₙ`. -/
theorem nullOrOr_first_ok {ι : Type} [Inhabited ι] (head : NullOr ι) (tail : List (NullOr ι)) :
  ((nullOrOr head tail).isOk ↔ ∃ w ∈ head :: tail, w.isOk) ∧
    ((nullOrOr head tail).isOk → (head :: tail).find? isOk = some (nullOrOr head tail)) ∧
    nullOrOr head tail = (head :: tail).foldr orElse null
  := by
  rw [nullOrOr_eq_foldr]
  exact ⟨isOk_foldr_orElse _, find?_isOk_of_foldr_orElse _, rfl⟩

/-- Abstractly, `NullOrOr` returns the first value present among its arguments. -/
theorem toOption_nullOrOr {ι : Type} [Inhabited ι] (head : NullOr ι) (tail : List (NullOr ι)) :
  (nullOrOr head tail).toOption = (head :: tail).findSome? toOption
  := by
  rw [nullOrOr_eq_foldr, toOption_foldr_orElse]

/-- `NullOrOr(w₁, …, wₙ)` is the first ok `wᵢ`, and exactly `NullOr()` when no `wᵢ` is ok: a
result that is not ok holds the default value, `nullptr` for a reference, as the class comment
of `NullOr` promises. -/
theorem nullOrOr_eq_find?_getD {ι : Type} [Inhabited ι] (head : NullOr ι)
    (tail : List (NullOr ι)) :
  nullOrOr head tail = ((head :: tail).find? isOk).getD null
  := by
  rw [nullOrOr_eq_foldr, foldr_orElse_eq_getD]

/-- A `NullOrOr` whose last argument is another `NullOrOr` is the one `NullOrOr` of all their
arguments. -/
theorem nullOrOr_append_nullOrOr {ι : Type} [Inhabited ι] (head : NullOr ι)
    (tail : List (NullOr ι)) (head' : NullOr ι) (tail' : List (NullOr ι)) :
  nullOrOr head (tail ++ [nullOrOr head' tail']) = nullOrOr head (tail ++ head' :: tail')
  := by
  simp only [nullOrOr_eq_foldr, ← List.cons_append, foldr_orElse_eq_getD, List.find?_append]
  cases (head :: tail).find? isOk with
  | some _ => rfl
  | none =>
    cases h : (head' :: tail').find? isOk with
    | none => rfl
    | some w => simp [List.find?_some h]

/-- `defaultOr(optional, def)` for a wrapper of a reference `const T&`, as `authorizationValue`
returns: `optional.value()`, the referent of the pointer the wrapper keeps, if the wrapper is ok,
else `def`, returned by value as a `T`. The source's constructors never build an ok wrapper that
keeps `nullptr`, whose `value()` would dereference it; for it, too, the result is `def`. -/
def defaultOr {T : Type} (optional : NullOr (Option T)) (def_ : T) : T :=
  match optional.isOk, optional.value_ with
  | true, some v => v
  | _, _ => def_

end Keymaster
