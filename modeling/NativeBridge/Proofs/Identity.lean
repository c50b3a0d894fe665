import NativeBridge.Identity

/-!
# Identities kept apart

An identity mixes a marker, the identity of an owner and the hash of a name, and each step of the
mixing can be undone : exclusive or by itself, addition by subtraction, and multiplication by
`Identity.separator` by another multiplication, since it is odd (`Identity.mul_separator_inj`). So with
two of the three fixed, the identity of a member tells the third (`Identity.member_owner_inj`,
`Identity.member_digest_inj`, `Identity.member_marker_inj`).

Nothing of this depends on how names are hashed. `Declaration.identity` takes any hash of names, and
has the library's identities for `Identity.digest`. `Declaration.identity_apart` : whatever the hash,
owners are told apart, names are as far as their hashes are, and so are a type and a function, a method
and a field, and the getter and the setter of a field, of one name.
-/

namespace NativeBridge

namespace Identity

variable {marker marker' digest digest' : UInt64} {owner owner' : Identity}

/-! ## Mixing -/

/-- What multiplication by the separator is undone by. -/
def unseparator : UInt64 := 0xd3f20f0a40208825

theorem separator_mul_unseparator : separator * unseparator = 1 := by decide

/-- The separator is odd, so that nothing is lost when it is multiplied with. -/
theorem mul_separator_inj {x y : UInt64} : x * separator = y * separator ↔ x = y := by
  refine ⟨fun same => ?_, congrArg (· * separator)⟩
  have undo : ∀ z, z * separator * unseparator = z := fun z => by
    rw [UInt64.mul_assoc, separator_mul_unseparator, UInt64.mul_one]
  rw [← undo x, same, undo y]

/-- Members of different owners have different identities. -/
theorem member_owner_inj : member marker owner digest = member marker owner' digest ↔
    owner = owner' := by
  simp only [member, mk.injEq, UInt64.add_left_inj, mul_separator_inj, UInt64.xor_right_inj]
  cases owner
  cases owner'
  rw [mk.injEq]

theorem member_digest_inj : member marker owner digest = member marker owner digest' ↔
    digest = digest' := by
  simp only [member, mk.injEq, UInt64.add_right_inj]

theorem member_marker_inj : member marker owner digest = member marker' owner digest ↔
    marker = marker' := by
  simp only [member, mk.injEq, UInt64.add_left_inj, mul_separator_inj, UInt64.xor_left_inj]

/-- Another mark on top keeps apart what was apart, and marks. -/
theorem xor_mark_inj {i j : Identity} {mark : UInt64} :
    (⟨i.value ^^^ mark⟩ : Identity) = ⟨j.value ^^^ mark⟩ ↔ i = j := by
  cases i
  cases j
  simp only [mk.injEq, UInt64.xor_left_inj]

/-- A mark that is not zero makes another identity. -/
theorem ne_xor_mark (i : Identity) {mark : UInt64} (marks : mark ≠ 0) :
    i ≠ ⟨i.value ^^^ mark⟩ := by
  intro same
  have value : i.value ^^^ 0 = i.value ^^^ mark := by
    rw [UInt64.xor_zero]
    exact congrArg Identity.value same
  exact marks ((UInt64.xor_right_inj _).1 value).symm

end Identity

/-! ## Declarations -/

/-- What has an identity. -/
inductive Declaration
  | type (name : String)
  | function (name : String)
  | method (owner : Identity) (name : String)
  | constructor (owner : Identity)
  /-- A field, as its getter. -/
  | field (owner : Identity) (name : String)
  | setter (owner : Identity) (name : String)

namespace Declaration

open Identity

/-- The identity of a declaration, by a hash of names. -/
def identity (hash : String → UInt64) : Declaration → Identity
  | type n => ⟨typeMarker ^^^ hash n⟩
  | function n => ⟨functionMarker ^^^ hash n⟩
  | method o n => member methodMarker o (hash n)
  | constructor o => member constructorMarker o 0
  | field o n => member fieldMarker o (hash n)
  | setter o n => ⟨(member fieldMarker o (hash n)).value ^^^ setterMarker⟩

/-- For any hash of names, the identity of a member or a constructor tells its owner, that of a member
tells the hash of its name too, and no two sorts of declaration that are written alike share one. The
library's identities are those for its own hash. -/
theorem identity_apart :
    (∀ (hash : String → UInt64) (A B : Identity) (m n : String),
      (identity hash (method A n) = identity hash (method B n) ↔ A = B) ∧
      (identity hash (field A n) = identity hash (field B n) ↔ A = B) ∧
      (identity hash (setter A n) = identity hash (setter B n) ↔ A = B) ∧
      (identity hash (constructor A) = identity hash (constructor B) ↔ A = B) ∧
      (identity hash (method A m) = identity hash (method A n) ↔ hash m = hash n) ∧
      (identity hash (field A m) = identity hash (field A n) ↔ hash m = hash n) ∧
      (identity hash (setter A m) = identity hash (setter A n) ↔ hash m = hash n) ∧
      identity hash (type n) ≠ identity hash (function n) ∧
      identity hash (method A n) ≠ identity hash (field A n) ∧
      identity hash (field A n) ≠ identity hash (setter A n)) ∧
    (∀ n, ofType n = identity digest (type n)) ∧
    (∀ n, ofFunction n = identity digest (function n)) ∧
    (∀ A n, ofMethod A n = identity digest (method A n)) ∧
    (∀ A, ofConstructor A = identity digest (constructor A)) ∧
    (∀ A n, ofField A n = identity digest (field A n)) ∧
    ∀ A n, ofSetter A n = identity digest (setter A n) := by
  refine ⟨fun hash A B m n => ⟨member_owner_inj, member_owner_inj, ?_, member_owner_inj,
    member_digest_inj, member_digest_inj, ?_, ?_, ?_, ?_⟩, fun _ => rfl, fun _ => rfl,
    fun _ _ => rfl, fun _ => rfl, fun _ _ => rfl, fun _ _ => rfl⟩
  · exact xor_mark_inj.trans member_owner_inj
  · exact xor_mark_inj.trans member_digest_inj
  · intro same
    have markers : typeMarker = functionMarker :=
      (UInt64.xor_left_inj _).1 (congrArg Identity.value same)
    revert markers
    decide
  · intro same
    have markers : methodMarker = fieldMarker := member_marker_inj.1 same
    revert markers
    decide
  · exact ne_xor_mark _ (by decide)

end Declaration

end NativeBridge
