import NativeBridge.Gallery.Exhibit
import NativeBridge.Marshal
import NativeBridge.Proofs.Integer

/-!
# Plain data there and back

A type is plain if it is made by options of integers, 64-bit floats, truth values, strings and the
unit (`NativeType.IsPlain`). Its values hold no instances, so what the host gets for one does not
depend on the heap : it is `NativeType.hostValue?`, and there is none exactly for a value with an
integer beyond the host's (`NativeType.toHost_cases`).

The host has one way to say nothing, and options have several : a `some` whose content the host sees
as nothing is lost on the way. `NativeType.collapse` puts `none` in its place. A strict conversion
accepts what the host gets for some value, and returns the one such value that is collapsed
(`NativeType.fromHost_strict_eq_ok_iff`); the laws of the round trip follow from that
(`NativeType.fromHost_strict_toHost`).
-/

namespace NativeBridge

variable {C : Catalog}

namespace NativeType

/-! ## Plain types -/

/-- The type is made by options of integers, 64-bit floats, truth values, strings and the unit. -/
def IsPlain : NativeType C → Prop
  | int _ | f64 | bool | str | unit => True
  | option t => t.IsPlain
  | f32 | object _ => False

/-- What the host gets for a value that holds no instance. -/
def hostValue? (t : NativeType C) (v : t.Value) : Option HostValue :=
  ((t.toHost v .empty).map Prod.fst).toOption

/-- There is an unsigned integer in the value that exceeds the host's integers. -/
def Exceeds : (t : NativeType C) → t.Value → Prop
  | int w, v => w.isSigned = false ∧ IntType.i64.max < v.val
  | option t, some v => t.Exceeds v
  | _, _ => False

/-- There is a `some` in the value whose content the host sees as nothing. -/
def Conceals : (t : NativeType C) → t.Value → Prop
  | option t, some v => t.hostValue? v = some .none ∨ t.Conceals v
  | _, _ => False

/-- The value with `none` for each `some` whose content the host sees as nothing. -/
def collapse : (t : NativeType C) → t.Value → t.Value
  | option t, some v => if t.hostValue? v = some .none then none else some (t.collapse v)
  | _, v => v

variable {t : NativeType C} {heap heap' : Heap C} {x : HostValue} {v : t.Value}

/-! ## Equations for options -/

@[simp] theorem hostValue?_none (t : NativeType C) : (option t).hostValue? none = some .none := rfl

@[simp] theorem hostValue?_some (t : NativeType C) (v : t.Value) :
    (option t).hostValue? (some v) = t.hostValue? v := rfl

theorem fromHost_option_none (policy : NumericPolicy) (heap : Heap C) (t : NativeType C) :
    (option t).fromHost policy heap .none = .ok none := rfl

theorem fromHost_option_eq_ok_iff {policy : NumericPolicy} {a : Option t.Value}
    (present : x ≠ .none) :
    (option t).fromHost policy heap x = .ok a ↔
      ∃ v, t.fromHost policy heap x = .ok v ∧ a = some v := by
  rw [fromHost]
  · cases t.fromHost policy heap x with
    | ok v => simp [eq_comm]
    | error e => simp
    | panic p => simp
  · exact present

/-! ## Values for the host -/

theorem hostValue?_int_eq_some_iff {w : IntType} {v : Fixed w} :
    (int w : NativeType C).hostValue? v = some x ↔ ∃ n : HostInt, x = .int n ∧ n.val = v.val := by
  unfold hostValue? toHost
  cases fits : Fixed.fit? .i64 v.val with
  | none =>
    simp only [Except.map, Except.toOption, reduceCtorEq, false_iff]
    rintro ⟨n, -, same⟩
    rw [Fixed.fit?_eq_some_iff.2 same] at fits
    cases fits
  | some n =>
    have val := Fixed.fit?_eq_some_iff.1 fits
    refine ⟨fun given => ?_, ?_⟩
    · cases given
      exact ⟨n, rfl, val⟩
    · rintro ⟨m, rfl, same⟩
      rw [Fixed.ext (same.trans val.symm)]
      rfl

/-- A plain value passes to the host as it is in every heap and leaves the heap alone, or it holds
an integer beyond the host's and passes in none. -/
theorem toHost_cases (plain : t.IsPlain) (v : t.Value) :
    (¬t.Exceeds v ∧ ∃ x, ∀ heap, t.toHost v heap = .ok (x, heap)) ∨
      (t.Exceeds v ∧ ∃ e, ∀ heap, t.toHost v heap = .error e) := by
  induction t with
  | f32 | object => exact plain.elim
  | f64 | bool | str | unit => exact Or.inl ⟨id, _, fun heap => rfl⟩
  | option t ih =>
    cases v with
    | none => exact Or.inl ⟨id, .none, fun heap => rfl⟩
    | some v => exact ih plain v
  | int w =>
    cases fits : Fixed.fit? .i64 v.val with
    | none =>
      refine Or.inr ⟨Fixed.fit?_i64_eq_none_iff.1 fits, .integerOutOfRange v.val "int", ?_⟩
      intro heap
      rw [toHost, fits]
    | some n =>
      refine Or.inl ⟨fun exceeds => ?_, .int n, fun heap => ?_⟩
      · rw [Fixed.fit?_i64_eq_none_iff.2 exceeds] at fits
        cases fits
      · rw [toHost, fits]

/-- A plain value is handed out without a look at the heap. -/
theorem toHost_eq_ok_iff (plain : t.IsPlain) :
    t.toHost v heap = .ok (x, heap') ↔ t.hostValue? v = some x ∧ heap' = heap := by
  unfold hostValue?
  obtain ⟨-, y, handed⟩ | ⟨-, e, refused⟩ := toHost_cases plain v
  · rw [handed, handed]
    simp [Except.map, Except.toOption, eq_comm]
  · rw [refused, refused]
    simp [Except.map, Except.toOption]

/-- Only a number that the host does not have cannot be handed out. -/
theorem toHost_eq_error_iff (plain : t.IsPlain) :
    (∃ e, t.toHost v heap = .error e) ↔ t.Exceeds v := by
  obtain ⟨fits, y, handed⟩ | ⟨exceeds, e, refused⟩ := toHost_cases plain v
  · simp [handed, fits]
  · simp [refused, exceeds]

/-! ## Collapsed values -/

/-- An option that holds what the host sees as nothing collapses. -/
theorem collapse_of_nothing (nothing : t.hostValue? v = some .none) :
    (option t).collapse (some v) = none := by
  rw [collapse, if_pos nothing]

theorem collapse_of_something (something : t.hostValue? v ≠ some .none) :
    (option t).collapse (some v) = some (t.collapse v) := by
  rw [collapse, if_neg something]

/-- The host sees no difference. -/
theorem hostValue?_collapse (t : NativeType C) (v : t.Value) :
    t.hostValue? (t.collapse v) = t.hostValue? v := by
  induction t with
  | option t ih =>
    cases v with
    | none => rfl
    | some v =>
      by_cases nothing : t.hostValue? v = some .none
      · rw [collapse_of_nothing nothing, hostValue?_none, hostValue?_some, nothing]
      · rw [collapse_of_something nothing, hostValue?_some, hostValue?_some, ih]
  | int | f32 | f64 | bool | str | unit | object => rfl

/-- A value is collapsed if it conceals nothing. -/
theorem collapse_eq_self_iff (t : NativeType C) (v : t.Value) :
    t.collapse v = v ↔ ¬t.Conceals v := by
  induction t with
  | option t ih =>
    cases v with
    | none => simp [collapse, Conceals]
    | some v =>
      by_cases nothing : t.hostValue? v = some .none
      · simp [collapse_of_nothing nothing, Conceals, nothing]
      · simp [collapse_of_something nothing, Conceals, nothing, ih]
  | int | f32 | f64 | bool | str | unit | object => simp [collapse, Conceals]

/-- What has collapsed stays so. By induction on the type. -/
theorem collapse_collapse (t : NativeType C) (v : t.Value) :
    t.collapse (t.collapse v) = t.collapse v := by
  induction t with
  | option t ih =>
    cases v with
    | none => rfl
    | some v =>
      by_cases nothing : t.hostValue? v = some .none
      · rw [collapse_of_nothing nothing]
        rfl
      · have something : t.hostValue? (t.collapse v) ≠ some .none := by
          rwa [hostValue?_collapse]
        rw [collapse_of_something nothing, collapse_of_something something, ih]
  | int | f32 | f64 | bool | str | unit | object => rfl

/-! ## There and back -/

theorem fromHost_int_eq_ok_iff {policy : NumericPolicy} {w : IntType} {v : Fixed w} :
    (int w).fromHost policy heap x = .ok v ↔ ∃ n : HostInt, x = .int n ∧ n.val = v.val := by
  cases x with
  | int n =>
    unfold fromHost
    cases fits : Fixed.fit? w n.val with
    | none =>
      simp only [reduceCtorEq, HostValue.int.injEq, exists_eq_left', false_iff]
      intro same
      rw [Fixed.fit?_eq_some_iff.2 same.symm] at fits
      cases fits
    | some u =>
      have val := Fixed.fit?_eq_some_iff.1 fits
      simp only [Outcome.ok.injEq, HostValue.int.injEq, exists_eq_left']
      refine ⟨fun same => same ▸ val.symm, fun same => ?_⟩
      exact Fixed.ext (val.trans same)
  | none | bool | float | str | object => simp [fromHost]

/-- A strict conversion returns the one collapsed value for which the host gets what it has. By
induction on the type. -/
theorem fromHost_strict_eq_ok_iff (plain : t.IsPlain) :
    t.fromHost .strict heap x = .ok v ↔ t.hostValue? v = some x ∧ t.collapse v = v := by
  induction t with
  | f32 | object => exact plain.elim
  | int w =>
    rw [fromHost_int_eq_ok_iff, hostValue?_int_eq_some_iff]
    simp [collapse]
  | f64 | bool | str | unit =>
    cases x <;>
      simp [fromHost, NumericPolicy.widen, Outcome.ofExcept, hostValue?, toHost, Except.map,
        Except.toOption, collapse, eq_comm]
  | option t ih =>
    by_cases absent : x = .none
    · subst absent
      rw [fromHost_option_none]
      cases v with
      | none => simp [collapse]
      | some v =>
        by_cases nothing : t.hostValue? v = some .none
        · simp [collapse_of_nothing nothing]
        · simp [nothing]
    · rw [fromHost_option_eq_ok_iff absent]
      cases v with
      | none => simp [eq_comm, absent]
      | some v =>
        rw [hostValue?_some]
        refine ⟨?_, ?_⟩
        · rintro ⟨u, accepted, same⟩
          cases same
          obtain ⟨given, collapsed⟩ := (ih plain).1 accepted
          have something : t.hostValue? v ≠ some .none := by
            rw [given]
            simpa using absent
          exact ⟨given, by rw [collapse_of_something something, collapsed]⟩
        · rintro ⟨given, collapsed⟩
          have something : t.hostValue? v ≠ some .none := by
            rw [given]
            simpa using absent
          rw [collapse_of_something something] at collapsed
          exact ⟨v, (ih plain).2 ⟨given, Option.some.inj collapsed⟩, rfl⟩

/-- A strict conversion to a plain type accepts exactly the values that the host gets for values of
the type, and returns one for which it gets the same again. Back from the host comes the collapsed
value, which is the value itself if it conceals nothing. Only integers beyond the host's do not get
there. The heap has no part in it. -/
theorem fromHost_strict_toHost (t : NativeType C) (plain : t.IsPlain) (a b : Heap C) :
    (∀ x, (∃ v, t.fromHost .strict a x = .ok v) ↔ ∃ v heap, t.toHost v b = .ok (x, heap)) ∧
      (∀ x v, t.fromHost .strict a x = .ok v → t.toHost v b = .ok (x, b)) ∧
      (∀ v x heap, t.toHost v b = .ok (x, heap) →
        heap = b ∧ t.fromHost .strict a x = .ok (t.collapse v) ∧
          (t.fromHost .strict a x = .ok v ↔ ¬t.Conceals v)) ∧
      ∀ v, (∃ e, t.toHost v b = .error e) ↔ t.Exceeds v := by
  have back : ∀ v x, t.hostValue? v = some x → t.fromHost .strict a x = .ok (t.collapse v) := by
    intro v x given
    refine (fromHost_strict_eq_ok_iff plain).2 ⟨?_, t.collapse_collapse v⟩
    rw [hostValue?_collapse, given]
  refine ⟨fun x => ⟨?_, ?_⟩, fun x v accepted => ?_, fun v x heap handed => ?_, fun v => ?_⟩
  · rintro ⟨v, accepted⟩
    obtain ⟨given, -⟩ := (fromHost_strict_eq_ok_iff plain).1 accepted
    exact ⟨v, b, (toHost_eq_ok_iff plain).2 ⟨given, rfl⟩⟩
  · rintro ⟨v, heap, handed⟩
    exact ⟨t.collapse v, back v x ((toHost_eq_ok_iff plain).1 handed).1⟩
  · obtain ⟨given, -⟩ := (fromHost_strict_eq_ok_iff plain).1 accepted
    exact (toHost_eq_ok_iff plain).2 ⟨given, rfl⟩
  · obtain ⟨given, same⟩ := (toHost_eq_ok_iff plain).1 handed
    refine ⟨same, back v x given, ?_⟩
    rw [fromHost_strict_eq_ok_iff plain, collapse_eq_self_iff]
    exact and_iff_right given
  · exact toHost_eq_error_iff plain

open Gallery in
/-- Of three nested options around the unit, one comes back. -/
theorem fromHost_strict_toHost_nested :
    let t : NativeType catalog := .option (.option (.option .unit))
    t.IsPlain ∧ t.toHost (some (some (some ()))) .empty = .ok (.none, .empty) ∧
      t.fromHost .strict .empty .none = .ok none ∧
      t.fromHost .strict .empty .none ≠ .ok (some (some (some ()))) := by
  intro t
  have plain : t.IsPlain := trivial
  have handed : t.toHost (some (some (some ()))) .empty = .ok (.none, .empty) := rfl
  have concealed : t.Conceals (some (some (some ()))) := Or.inl rfl
  obtain ⟨-, back, whole⟩ :=
    (fromHost_strict_toHost t plain .empty .empty).2.2.1 _ _ _ handed
  exact ⟨plain, handed, back, fun same => whole.1 same concealed⟩

end NativeType

end NativeBridge
