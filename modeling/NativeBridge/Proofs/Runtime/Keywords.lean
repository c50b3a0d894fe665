import Mathlib.Data.List.Nodup
import Mathlib.Data.List.Perm.Subperm
import NativeBridge.Gallery.Exhibit
import NativeBridge.Proofs.Runtime.Dispatch
import NativeBridge.Wrapper

/-!
# Construction from keywords

Positional arguments fill the leading parameters of a constructor, and the parameters behind them are
open (`openNames`) : each must be named by exactly one keyword, in any order (`Fills`). The arguments
in the order of the parameters are then the positional ones, with what the keywords give to the open
parameters behind them (`Orders`). Whatever else is given misses the parameters, and `Misbinds` says
what is reported : too many positional arguments; the first keyword that is unknown or names a
parameter that is bound already; or the first parameter that nothing is bound to.

`bindKeywords_cases` finds one of the two in every binding. It follows the slots : what one keyword
does to them (`Slots.bind_of_unbound`), what all of them do (`Slots.foldlM_bind`), and what is read
off in the end. `Runtime.constructWith_binds` : a construction with keywords is the construction from
the arguments in the order of the parameters, or it is refused with one of these errors.
-/

namespace NativeBridge

open List (Subperm)

variable {C : Catalog}

/-! ## Arguments for parameters -/

section Spec

variable (typeName : String) (params : List Param) (args : List HostValue)
  (keywords : List (String × HostValue))

/-- The names of the parameters behind the positional arguments. -/
def openNames : List String := (params.drop args.length).map Param.name

/-- The positional arguments have parameters, and the keywords name the other parameters, each once
and in any order. -/
def Fills : Prop :=
  args.length ≤ params.length ∧ (keywords.map Prod.fst).Perm (openNames params args)

/-- The arguments in the order of the parameters : the positional ones, and behind them what the
keywords give to the open parameters. -/
def Orders (values : List HostValue) : Prop :=
  ∃ rest, values = args ++ rest ∧ rest.length = (openNames params args).length ∧
    keywords.Perm ((openNames params args).zip rest)

/-- What is wrong with arguments that do not fill the parameters. -/
inductive Misbinds : BindingError → Prop
  | arity (excess : params.length < args.length) :
      Misbinds (.arity (CallSite.constructor typeName params).text params.length
        (args.length + keywords.length))
  | unknown {earlier later : List (String × HostValue)} {keyword : String} {v : HostValue}
      (room : args.length ≤ params.length) (split : keywords = earlier ++ (keyword, v) :: later)
      (fits : Subperm (earlier.map Prod.fst) (openNames params args))
      (other : keyword ∉ params.map Param.name) :
      Misbinds
        (constructionError typeName (some keyword) s!"unknown keyword argument '{keyword}'")
  | repeated {earlier later : List (String × HostValue)} {keyword : String} {v : HostValue}
      (room : args.length ≤ params.length) (split : keywords = earlier ++ (keyword, v) :: later)
      (fits : Subperm (earlier.map Prod.fst) (openNames params args))
      (bound : keyword ∈ (params.take args.length).map Param.name ∨
        keyword ∈ earlier.map Prod.fst) :
      Misbinds
        (constructionError typeName (some keyword) s!"argument '{keyword}' given more than once")
  | missing {earlier later : List Param} {p : Param}
      (room : args.length ≤ params.length)
      (fits : Subperm (keywords.map Prod.fst) (openNames params args))
      (split : params.drop args.length = earlier ++ p :: later)
      (filled : ∀ q ∈ earlier, q.name ∈ keywords.map Prod.fst)
      (unfilled : p.name ∉ keywords.map Prod.fst) :
      Misbinds (constructionError typeName (some p.name) s!"missing argument '{p.name}'")

end Spec

section Spec

variable {typeName : String} {params : List Param} {args : List HostValue}
  {keywords : List (String × HostValue)} {values : List HostValue} {cause : BindingError}

theorem Fills.perm {keywords' : List (String × HostValue)} (fills : Fills params args keywords)
    (same : keywords.Perm keywords') : Fills params args keywords' :=
  ⟨fills.1, (same.symm.map Prod.fst).trans fills.2⟩

/-- A parameter is bound by its position, or its name is open. -/
theorem mem_openNames_or (keyword : String) :
    keyword ∈ params.map Param.name ↔
      keyword ∈ (params.take args.length).map Param.name ∨ keyword ∈ openNames params args := by
  rw [openNames, ← List.mem_append, ← List.map_append, List.take_append_drop]

theorem nodup_openNames (distinct : (params.map Param.name).Nodup) (args : List HostValue) :
    (openNames params args).Nodup :=
  distinct.sublist ((List.drop_sublist ..).map Param.name)

theorem not_mem_openNames (distinct : (params.map Param.name).Nodup) {keyword : String}
    (bound : keyword ∈ (params.take args.length).map Param.name) :
    keyword ∉ openNames params args := by
  rw [← List.take_append_drop args.length params, List.map_append] at distinct
  exact fun mem => List.disjoint_of_nodup_append distinct bound mem

/-- What misses the parameters does not fill them. -/
theorem Misbinds.not_fills (misbinds : Misbinds typeName params args keywords cause)
    (distinct : (params.map Param.name).Nodup) : ¬Fills params args keywords := by
  rintro ⟨room, perm⟩
  cases misbinds with
  | arity excess => omega
  | @unknown earlier later keyword v _ split fits other =>
    have named : keyword ∈ keywords.map Prod.fst := by simp [split]
    exact other ((mem_openNames_or keyword).2 (Or.inr (perm.subset named)))
  | @repeated earlier later keyword v _ split fits bound =>
    have named : keyword ∈ keywords.map Prod.fst := by simp [split]
    obtain bound | bound := bound
    · exact not_mem_openNames distinct bound (perm.subset named)
    · have nodup := perm.nodup_iff.2 (nodup_openNames distinct args)
      rw [split, List.map_append, List.map_cons] at nodup
      exact List.disjoint_of_nodup_append nodup bound (List.mem_cons_self ..)
  | @missing earlier later p _ fits split _ unfilled =>
    have open' : p.name ∈ openNames params args := by simp [openNames, split]
    exact unfilled (perm.symm.subset open')

end Spec

/-! ## Slots -/

namespace Slots

variable {typeName keyword : String} {v : HostValue} {s : Slots}

/-- The names of the parameters, in their order. -/
def names (s : Slots) : List String := s.map fun slot => slot.1.name

/-- The names of the parameters that nothing is bound to, in their order. -/
def unbound (s : Slots) : List String :=
  (s.filter fun slot => slot.2.isNone).map fun slot => slot.1.name

/-- What is bound, by the names of the parameters. -/
def bound (s : Slots) : List (String × HostValue) :=
  s.filterMap fun slot => slot.2.map (slot.1.name, ·)

theorem unbound_sublist (s : Slots) : s.unbound.Sublist s.names :=
  List.filter_sublist.map _

theorem names_ofPositional (params : List Param) (args : List HostValue) :
    (ofPositional params args).names = params.map Param.name := by
  induction params, args using ofPositional.induct with
  | case1 => rfl
  | case2 p ps ih => exact congrArg (p.name :: ·) ih
  | case3 p ps v vs ih => exact congrArg (p.name :: ·) ih

/-- After the positions are filled the open names are left. -/
theorem unbound_ofPositional (params : List Param) (args : List HostValue) :
    (ofPositional params args).unbound = openNames params args := by
  induction params, args using ofPositional.induct with
  | case1 => simp [ofPositional, unbound, openNames]
  | case2 p ps ih => exact congrArg (p.name :: ·) ih
  | case3 p ps v vs ih => exact ih

/-- The first parameters are bound to the positional arguments, in their order. -/
theorem bound_ofPositional (params : List Param) (args : List HostValue) :
    (ofPositional params args).bound = (params.map Param.name).zip args := by
  induction params, args using ofPositional.induct with
  | case1 => rfl
  | case2 p ps ih => exact ih.trans List.zip_nil_right
  | case3 p ps v vs ih => exact congrArg ((p.name, v) :: ·) ih

/-- A keyword that names no parameter. -/
theorem bind_of_unknown (other : keyword ∉ s.names) :
    s.bind typeName keyword v =
      .error (constructionError typeName (some keyword) s!"unknown keyword argument '{keyword}'") := by
  induction s with
  | nil => rfl
  | cons slot rest ih =>
    obtain ⟨p, bound⟩ := slot
    obtain ⟨ne, other⟩ := not_or.1 (mt List.mem_cons.2 other)
    rw [bind.eq_def]
    dsimp only
    rw [if_neg (Ne.symm ne), ih other]
    rfl

/-- A keyword whose parameter is bound already. -/
theorem bind_of_bound (known : keyword ∈ s.names) (bound : keyword ∉ s.unbound) :
    s.bind typeName keyword v =
      .error
        (constructionError typeName (some keyword) s!"argument '{keyword}' given more than once") := by
  induction s with
  | nil => cases known
  | cons slot rest ih =>
    obtain ⟨p, _ | w⟩ := slot
    · obtain ⟨ne, bound⟩ := not_or.1 (mt List.mem_cons.2 bound)
      have known : keyword ∈ names rest := (List.mem_cons.1 known).resolve_left ne
      rw [bind, if_neg (Ne.symm ne), ih known bound]
      rfl
    · by_cases same : p.name = keyword
      · rw [bind, if_pos same]
      · have known : keyword ∈ names rest := (List.mem_cons.1 known).resolve_left (Ne.symm same)
        rw [bind, if_neg same, ih known bound]
        rfl

/-- A keyword whose parameter is free binds it, and nothing else. -/
theorem bind_of_unbound (typeName : String) (distinct : s.names.Nodup) (free : keyword ∈ s.unbound)
    (v : HostValue) :
    ∃ s' : Slots, s.bind typeName keyword v = .ok s' ∧ s'.names = s.names ∧
      s'.unbound = s.unbound.erase keyword ∧ s'.bound.Perm ((keyword, v) :: s.bound) := by
  induction s with
  | nil => cases free
  | cons slot rest ih =>
    obtain ⟨fresh, nodup⟩ := List.nodup_cons.1 distinct
    obtain ⟨p, _ | w⟩ := slot
    · by_cases same : p.name = keyword
      · subst same
        exact ⟨(p, some v) :: rest, by rw [bind, if_pos rfl], rfl, (List.erase_cons_head ..).symm,
          .refl _⟩
      · have free : keyword ∈ unbound rest := (List.mem_cons.1 free).resolve_left (Ne.symm same)
        obtain ⟨s', binds, names', unbound', bound'⟩ := ih nodup free
        refine ⟨(p, none) :: s', by rw [bind, if_neg same, binds]; rfl, ?_, ?_, bound'⟩
        · exact congrArg (p.name :: ·) names'
        · exact (congrArg (p.name :: ·) unbound').trans
            (List.erase_cons_tail (by simpa using same)).symm
    · have ne : p.name ≠ keyword := by
        rintro rfl
        exact fresh ((unbound_sublist rest).subset free)
      obtain ⟨s', binds, names', unbound', bound'⟩ := ih nodup free
      refine ⟨(p, some w) :: s', by rw [bind, if_neg ne, binds]; rfl, ?_, unbound', ?_⟩
      · exact congrArg (p.name :: ·) names'
      · exact (bound'.cons (p.name, w)).trans (.swap ..)

/-- Keywords bind the parameters that they name, up to the first that names none or one that is bound
already. -/
theorem foldlM_bind (typeName : String) (distinct : s.names.Nodup)
    (keywords : List (String × HostValue)) :
    (∃ s' : Slots, keywords.foldlM (fun (s : Slots) k => s.bind typeName k.1 k.2) s = .ok s' ∧
      s'.names = s.names ∧ Subperm (keywords.map Prod.fst) s.unbound ∧
      s'.unbound = s.unbound.diff (keywords.map Prod.fst) ∧
      s'.bound.Perm (s.bound ++ keywords)) ∨
    ∃ earlier keyword v later, keywords = earlier ++ (keyword, v) :: later ∧
      Subperm (earlier.map Prod.fst) s.unbound ∧
      keyword ∉ s.unbound.diff (earlier.map Prod.fst) ∧
      keywords.foldlM (fun (s : Slots) k => s.bind typeName k.1 k.2) s =
        .error (constructionError typeName (some keyword)
          (if keyword ∈ s.names then s!"argument '{keyword}' given more than once"
            else s!"unknown keyword argument '{keyword}'")) := by
  induction keywords generalizing s with
  | nil => exact Or.inl ⟨s, rfl, rfl, List.nil_subperm, rfl, by simp⟩
  | cons k rest ih =>
    obtain ⟨keyword, v⟩ := k
    rw [List.foldlM_cons]
    by_cases free : keyword ∈ s.unbound
    · obtain ⟨s₁, binds, names₁, unbound₁, bound₁⟩ :=
        bind_of_unbound typeName distinct free v
      have grow : ∀ {ks : List String},
          Subperm ks s₁.unbound → Subperm (keyword :: ks) s.unbound := by
        intro ks sub
        rw [unbound₁] at sub
        exact (List.perm_cons_erase free).symm.subperm_left.1 ((List.subperm_cons keyword).2 sub)
      have less : ∀ ks, s₁.unbound.diff ks = s.unbound.diff (keyword :: ks) := by
        intro ks
        rw [List.diff_cons, unbound₁]
      simp only [binds]
      obtain ⟨s', run, names', sub, unbound', bound'⟩ | ⟨earlier, other, w, later, split, sub, stuck, run⟩ :=
        ih (names₁ ▸ distinct)
      · refine Or.inl ⟨s', run, names'.trans names₁, grow sub, unbound'.trans (less _), ?_⟩
        refine bound'.trans ((bound₁.append_right rest).trans ?_)
        exact List.perm_middle.symm
      · refine Or.inr ⟨(keyword, v) :: earlier, other, w, later, by rw [split]; rfl, grow sub, ?_, ?_⟩
        · exact less _ ▸ stuck
        · exact names₁ ▸ run
    · refine Or.inr ⟨[], keyword, v, rest, rfl, List.nil_subperm, free, ?_⟩
      by_cases known : keyword ∈ s.names
      · rw [bind_of_bound known free, if_pos known]
        rfl
      · rw [bind_of_unknown known, if_neg known]
        rfl

/-- The values of slots that are all bound. -/
theorem values_of_bound (typeName : String) (full : s.unbound = []) :
    ∃ values, s.values typeName = .ok values ∧ values.length = s.names.length ∧
      s.bound = s.names.zip values := by
  induction s with
  | nil => exact ⟨[], rfl, rfl, rfl⟩
  | cons slot rest ih =>
    obtain ⟨p, _ | v⟩ := slot
    · cases full
    · obtain ⟨values, read, length, bound⟩ := ih full
      refine ⟨v :: values, by rw [Slots.values, read]; rfl, congrArg (· + 1) length, ?_⟩
      exact congrArg ((p.name, v) :: ·) bound

/-- The first slot that nothing is bound to. -/
theorem values_of_unbound {name : String} {others : List String}
    (missing : s.unbound = name :: others) :
    s.values typeName =
      .error (constructionError typeName (some name) s!"missing argument '{name}'") := by
  induction s with
  | nil => cases missing
  | cons slot rest ih =>
    obtain ⟨p, _ | v⟩ := slot
    · cases missing
      rfl
    · rw [Slots.values, ih missing]
      rfl

end Slots

/-! ## Binding -/

section Binding

variable {typeName : String} {params : List Param} {args : List HostValue}
  {keywords : List (String × HostValue)} {values : List HostValue}

/-- A value under one of distinct names is at the place of the name. -/
theorem getElem?_of_mem_zip {names : List String} (distinct : names.Nodup) {i : Nat}
    (inside : i < names.length) {v : HostValue} (mem : (names[i], v) ∈ names.zip values) :
    values[i]? = some v := by
  obtain ⟨j, inside', same⟩ := List.mem_iff_getElem.1 mem
  rw [List.getElem_zip, Prod.mk.injEq, distinct.getElem_inj_iff] at same
  obtain ⟨rfl, same⟩ := same
  exact List.getElem?_eq_some_iff.2 ⟨_, same⟩

/-- The order of the parameters leaves no choice, whatever the order of the keywords. -/
theorem Orders.unique (distinct : (params.map Param.name).Nodup)
    {keywords' : List (String × HostValue)} {values' : List HostValue}
    (orders : Orders params args keywords values) (orders' : Orders params args keywords' values')
    (same : keywords.Perm keywords') : values = values' := by
  obtain ⟨rest, rfl, length, perm⟩ := orders
  obtain ⟨rest', rfl, length', perm'⟩ := orders'
  refine congrArg (args ++ ·) (List.ext_getElem (length.trans length'.symm) fun i inside inside' => ?_)
  have pair : ((openNames params args)[i], rest[i]) ∈ (openNames params args).zip rest :=
    List.mem_iff_getElem.2 ⟨i, by simp; omega, List.getElem_zip⟩
  have value := getElem?_of_mem_zip (nodup_openNames distinct args) (by omega)
    ((perm.symm.trans (same.trans perm')).subset pair)
  exact ((List.getElem_eq_iff _).2 value).symm

/-- Values under distinct names that hold the positional arguments and the keywords are in the order
of the parameters. -/
theorem orders_of_perm (distinct : (params.map Param.name).Nodup)
    (room : args.length ≤ params.length) (length : values.length = params.length)
    (perm : ((params.map Param.name).zip values).Perm
      ((params.map Param.name).zip args ++ keywords)) :
    Orders params args keywords values := by
  have leads : values.take args.length = args := by
    refine List.ext_getElem (by simp [length, room]) fun i _ inside => ?_
    have named : i < (params.map Param.name).length := by simp; omega
    have pair : ((params.map Param.name)[i], args[i]) ∈ (params.map Param.name).zip args :=
      List.mem_iff_getElem.2 ⟨i, by simp; omega, List.getElem_zip⟩
    have value := getElem?_of_mem_zip distinct named
      (perm.symm.subset (List.mem_append_left _ pair))
    rw [List.getElem_take]
    exact (List.getElem_eq_iff _).2 value
  have width : ((params.map Param.name).take args.length).length = args.length := by
    simp [room]
  have behind : openNames params args = (params.map Param.name).drop args.length :=
    List.map_drop
  have zips : ∀ rest : List HostValue, (params.map Param.name).zip (args ++ rest) =
      ((params.map Param.name).take args.length).zip args ++ (openNames params args).zip rest := by
    intro rest
    rw [behind, ← List.zip_append width, List.take_append_drop]
  have parts : values = args ++ values.drop args.length := by
    conv_lhs => rw [← List.take_append_drop args.length values, leads]
  refine ⟨values.drop args.length, parts, by simp [openNames, length], ?_⟩
  have positional := zips []
  rw [List.append_nil, List.zip_nil_right, List.append_nil] at positional
  rw [parts, zips, positional] at perm
  exact ((List.perm_append_left_iff _).1 perm).symm

/-- Arguments bind in the order of the parameters, or they misbind. -/
theorem bindKeywords_cases (typeName : String) (distinct : (params.map Param.name).Nodup)
    (args : List HostValue) (keywords : List (String × HostValue)) :
    (∃ values, bindKeywords typeName params args keywords = .ok values ∧
      Fills params args keywords ∧ Orders params args keywords values) ∨
    ∃ cause, bindKeywords typeName params args keywords = .error cause ∧
      Misbinds typeName params args keywords cause := by
  unfold bindKeywords
  by_cases excess : params.length < args.length
  · rw [if_pos excess]
    exact Or.inr ⟨_, rfl, .arity excess⟩
  have room : args.length ≤ params.length := Nat.not_lt.1 excess
  rw [if_neg excess]
  have names := Slots.names_ofPositional params args
  have free := nodup_openNames distinct args
  have run := Slots.foldlM_bind typeName (names.symm ▸ distinct) keywords
  simp only [names, Slots.unbound_ofPositional, Slots.bound_ofPositional] at run
  obtain ⟨s, binds, names', fits, left, bound⟩ |
    ⟨earlier, keyword, v, later, split, fits, stuck, binds⟩ := run
  · simp only [binds]
    rw [free.sdiff_eq_filter] at left
    cases rest : s.unbound with
    | nil =>
      obtain ⟨values, read, length, zips⟩ :=
        Slots.values_of_bound typeName rest
      rw [names', List.length_map] at length
      rw [zips, names'] at bound
      have given : openNames params args ⊆ keywords.map Prod.fst := by
        rw [rest, eq_comm, List.filter_eq_nil_iff] at left
        exact fun name mem => by simpa using left name mem
      exact Or.inl ⟨values, read, ⟨room, fits.antisymm (free.subperm given)⟩,
        orders_of_perm distinct room length bound⟩
    | cons name others =>
      rw [rest, eq_comm, List.filter_eq_cons_iff] at left
      obtain ⟨earlier, later, split, filled, unfilled, -⟩ := left
      obtain ⟨before, behind, split', rfl, tail⟩ := List.map_eq_append_iff.1 split
      obtain ⟨p, after, rfl, rfl, rfl⟩ := List.map_eq_cons_iff.1 tail
      refine Or.inr ⟨_, Slots.values_of_unbound rest, .missing room fits split' ?_ ?_⟩
      · exact fun q mem => by simpa using filled q.name (List.mem_map_of_mem mem)
      · simpa using unfilled
  · simp only [binds]
    refine Or.inr ⟨_, rfl, ?_⟩
    by_cases known : keyword ∈ params.map Param.name
    · rw [if_pos known]
      refine .repeated room split fits ?_
      obtain positional | open' := (mem_openNames_or keyword).1 known
      · exact Or.inl positional
      · refine Or.inr (Classical.byContradiction fun new => stuck ?_)
        exact free.mem_sdiff_iff.2 ⟨open', new⟩
    · rw [if_neg known]
      exact .unknown room split fits known

end Binding

/-! ## Construction -/

namespace Runtime

/-- A construction with keywords binds exactly if the arguments fill the parameters. It is then the
construction from the arguments in the order of the parameters, and so is every other order of the
keywords. Otherwise it is refused, before any native code runs, and the error says which argument,
keyword or parameter is at fault; it is about the number of arguments exactly if there are too many
positional ones. -/
theorem constructWith_binds (rt : Runtime C) {typeName : String} {e : ClassEntry C}
    {c : ConstructorMeta C} (entry : rt.registry.classNamed typeName = .ok e)
    (present : e.constructor = some c) (distinct : (c.params.map Param.name).Nodup)
    (args : List HostValue) (keywords : List (String × HostValue)) :
    ((∃ values, bindKeywords e.name c.params args keywords = .ok values) ↔
        Fills c.params args keywords) ∧
      (Fills c.params args keywords →
        ∃ values, Orders c.params args keywords values ∧
          ∀ keywords', keywords.Perm keywords' →
            rt.perform (.constructWith typeName args keywords') =
              rt.perform (.construct typeName values)) ∧
      (¬Fills c.params args keywords →
        ∃ cause, Misbinds e.name c.params args keywords cause ∧
          rt.dispatch? (.constructWith typeName args keywords) = none ∧
          rt.perform (.constructWith typeName args keywords) = rt.answer (.error cause) ∧
          (cause.kind = .arity ↔ c.params.length < args.length)) := by
  have binds := bindKeywords_cases e.name distinct args keywords
  refine ⟨⟨?_, ?_⟩, ?_, ?_⟩
  · rintro ⟨values, bound⟩
    obtain ⟨-, -, fills, -⟩ | ⟨cause, refused, -⟩ := binds
    · exact fills
    · cases bound.symm.trans refused
  · intro fills
    obtain ⟨values, bound, -⟩ | ⟨cause, -, misbinds⟩ := binds
    · exact ⟨values, bound⟩
    · exact absurd fills (misbinds.not_fills distinct)
  · intro fills
    obtain ⟨values, -, -, orders⟩ | ⟨cause, -, misbinds⟩ := binds
    · refine ⟨values, orders, fun keywords' same => ?_⟩
      obtain ⟨values', bound', -, orders'⟩ | ⟨cause, -, misbinds⟩ :=
        bindKeywords_cases e.name distinct args keywords'
      · simp only [perform, constructWith, construct, entry, present, bound',
          orders.unique distinct orders' same]
      · exact absurd (fills.perm same) (misbinds.not_fills distinct)
    · exact absurd fills (misbinds.not_fills distinct)
  · intro misses
    obtain ⟨-, -, fills, -⟩ | ⟨cause, refused, misbinds⟩ := binds
    · exact absurd fills misses
    refine ⟨cause, misbinds, ?_, ?_, ?_⟩
    · simp [dispatch?, entry, present, refused, Except.toOption]
    · simp only [perform, constructWith, entry, present, refused]
      rfl
    · cases misbinds with
      | arity excess => exact iff_of_true rfl excess
      | unknown room | repeated room | missing room =>
        refine iff_of_false ?_ (Nat.not_lt.2 room)
        rintro ⟨⟩

open Gallery in
/-- A tag is constructed from its number by position and the rest by keywords, in either order; with a
keyword for the number that is bound by position, it is not. -/
theorem constructWith_binds_tag :
    let make : Callable catalog :=
      ⟨[⟨"id", .int .u8⟩, ⟨"label", .str⟩, ⟨"type", .bool⟩], .object .tag,
        .free fun (id, label, type, ()) => .ok ⟨id, .ofBits 0, some label, type, .wrap .i64 0⟩⟩
    let entry : ClassEntry catalog :=
      ⟨.empty, "Tag", catalog.identity .tag, .shared, none, some (make.toConstructor .tag), true⟩
    let rt : Runtime catalog :=
      ⟨(Registry.empty "tags").pushClass entry rfl rfl, {}, .empty⟩
    let one : HostValue := .int (.wrap .i64 1)
    let label : String × HostValue := ("label", .str "new")
    let type : String × HostValue := ("type", .bool true)
    rt.registry.classNamed "Tag" = .ok entry ∧ (make.paramMetas.map Param.name).Nodup ∧
      rt.perform (.constructWith "Tag" [one] [type, label]) =
        rt.perform (.construct "Tag" [one, label.2, type.2]) ∧
      rt.perform (.constructWith "Tag" [one] [label, type]) =
        rt.perform (.construct "Tag" [one, label.2, type.2]) ∧
      ∃ cause, rt.perform (.constructWith "Tag" [one] [label, ("id", one)]) =
          rt.answer (.error cause) ∧ cause.kind ≠ .arity := by
  intro make entry rt one label type
  have found : rt.registry.classNamed "Tag" = .ok entry :=
    Registry.classNamed_eq_ok_iff.2 ⟨List.mem_singleton_self entry, rfl⟩
  have distinct : (make.paramMetas.map Param.name).Nodup := by decide
  have binds := constructWith_binds rt found rfl distinct [one]
  have fills : Fills make.paramMetas [one] [type, label] := by
    refine ⟨by decide, ?_⟩
    exact .swap ..
  have ordered : Orders make.paramMetas [one] [type, label] [one, label.2, type.2] := by
    refine ⟨[label.2, type.2], rfl, rfl, ?_⟩
    exact .swap ..
  have misses : ¬Fills make.paramMetas [one] [label, ("id", one)] := by
    rintro ⟨-, perm⟩
    have bound : "id" ∈ openNames make.paramMetas [one] := perm.subset (by decide)
    revert bound
    decide
  obtain ⟨values, orders, same⟩ := (binds [type, label]).2.1 fills
  obtain rfl := orders.unique distinct ordered (.refl _)
  obtain ⟨cause, -, -, refused, kind⟩ := (binds [label, ("id", one)]).2.2 misses
  refine ⟨found, distinct, same _ (.refl _), same _ (.swap ..), cause, refused, fun arity => ?_⟩
  exact absurd (kind.1 arity) (by decide)

end Runtime

end NativeBridge
