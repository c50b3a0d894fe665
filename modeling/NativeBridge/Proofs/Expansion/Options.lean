import Mathlib.Data.List.Forall2
import NativeBridge.Expansion.Options
import NativeBridge.Proofs.Registry.Lookup
import NativeBridge.Proofs.Expansion.Reading

/-!
# What helper attributes say

The helper attributes of a declaration may be several, with several items each. An item stands between
commas and is a word for a flag or a name with a text (`Setting.ofPiece?`), and reading them one by one
finds just these (`settings_eq_ok_iff`). If all attributes can be read (`Readable`), their items form one
list (`settingsOf`), and the options are what the list says : a flag is set if and only if it is among the
items (`Options.has_ofSettings`), and the name is the one given last (`Options.name_ofSettings`). If one
of them cannot be read, there are no options (`Options.ofAttributes_eq_ok_iff`).
-/

namespace NativeBridge.Expansion

open Source

/-! ## Passes that may fail -/

theorem pure_eq_ok_iff {α ε : Type} {a b : α} : (pure a : Except ε α) = .ok b ↔ a = b :=
  Except.ok.injEq a b ▸ Iff.rfl

theorem map_eq_ok_iff {α β ε : Type} {g : α → β} {x : Except ε α} {b : β} :
    g <$> x = .ok b ↔ ∃ a, x = .ok a ∧ g a = b := by
  cases x <;> simp [Functor.map, Except.map]

/-- A pass over a list succeeds if it does on each item. -/
theorem mapM_eq_ok_iff {α β ε : Type} {f : α → Except ε β} {xs : List α} {ys : List β} :
    xs.mapM f = .ok ys ↔ List.Forall₂ (fun x y => f x = .ok y) xs ys := by
  induction xs generalizing ys with
  | nil =>
    rw [List.mapM_nil, List.forall₂_nil_left_iff]
    exact ⟨fun same => (Except.ok.inj same).symm, fun same => congrArg Except.ok same.symm⟩
  | cons x xs ih =>
    rw [List.mapM_cons, List.forall₂_cons_left_iff, bind_eq_ok_iff]
    refine ⟨?_, ?_⟩
    · rintro ⟨y, first, rest⟩
      obtain ⟨zs, rest, same⟩ := bind_eq_ok_iff.1 rest
      exact ⟨y, zs, first, ih.1 rest, (Except.ok.inj same).symm⟩
    · rintro ⟨y, zs, first, rest, rfl⟩
      exact ⟨y, first, bind_eq_ok_iff.2 ⟨zs, ih.2 rest, rfl⟩⟩

/-- If each item has a counterpart, the list has one. -/
theorem exists_forall₂_iff {α β : Type} {R : α → β → Prop} {xs : List α} :
    (∃ ys, List.Forall₂ R xs ys) ↔ ∀ x ∈ xs, ∃ y, R x y := by
  induction xs with
  | nil => simp
  | cons x xs ih =>
    rw [List.forall_mem_cons, ← ih]
    refine ⟨?_, fun ⟨⟨y, first⟩, ys, rest⟩ => ⟨y :: ys, .cons first rest⟩⟩
    rintro ⟨_, matched⟩
    obtain ⟨y, ys, first, rest, rfl⟩ := List.forall₂_cons_left_iff.1 matched
    exact ⟨⟨y, first⟩, ys, rest⟩

/-- If each item has a counterpart and there is at most one, it is an option. -/
theorem exists_forall₂_toList_iff {α β : Type} {R : α → β → Prop} {xs : List α} :
    (∃ o : Option β, List.Forall₂ R xs o.toList) ↔ xs.length ≤ 1 ∧ ∀ x ∈ xs, ∃ y, R x y := by
  refine ⟨?_, fun ⟨single, each⟩ => ?_⟩
  · rintro ⟨o, matched⟩
    refine ⟨matched.length_eq ▸ Option.length_toList_le, exists_forall₂_iff.1 ⟨_, matched⟩⟩
  · obtain ⟨ys, matched⟩ := exists_forall₂_iff.2 each
    rw [matched.length_eq] at single
    match ys, single with
    | [], _ => exact ⟨none, matched⟩
    | [y], _ => exact ⟨some y, matched⟩

/-- The last item has the last counterpart. -/
theorem forall₂_concat_left_iff {α β : Type} {R : α → β → Prop} {xs : List α} {x : α} {zs : List β} :
    List.Forall₂ R (xs ++ [x]) zs ↔ ∃ ys y, List.Forall₂ R xs ys ∧ R x y ∧ zs = ys ++ [y] := by
  induction xs generalizing zs with
  | nil => simp [List.forall₂_cons_left_iff]
  | cons w xs ih =>
    rw [List.cons_append, List.forall₂_cons_left_iff]
    refine ⟨?_, ?_⟩
    · rintro ⟨v, _, first, others, rfl⟩
      obtain ⟨ys, y, rest, last, rfl⟩ := ih.1 others
      exact ⟨v :: ys, y, .cons first rest, last, rfl⟩
    · rintro ⟨_, y, matched, last, rfl⟩
      obtain ⟨v, ys, first, rest, rfl⟩ := List.forall₂_cons_left_iff.1 matched
      exact ⟨v, ys ++ [y], first, ih.2 ⟨ys, y, rest, last, rfl⟩, rfl⟩

theorem toList_eq_concat_iff {α : Type} {o : Option α} {xs : List α} {x : α} :
    o.toList = xs ++ [x] ↔ xs = [] ∧ o = some x := by
  cases o <;> cases xs <;> simp

/-- A pass over a list finds something if it does on the first item and on the others. -/
theorem mapM_cons_eq_some_iff {α β : Type} {f : α → Option β} {x : α} {xs : List α} {ys : List β} :
    (x :: xs).mapM f = some ys ↔ ∃ z zs, f x = some z ∧ xs.mapM f = some zs ∧ z :: zs = ys := by
  simp [List.mapM_cons, Option.bind_eq_some_iff]

/-! ## Items -/

/-- The word for a flag. -/
def Flag.word : Flag → String
  | shared => "shared"
  | clone => "clone"
  | getAll => "get_all"
  | setAll => "set_all"
  | get => "get"
  | set => "set"
  | skip => "skip"
  | constructor => "constructor"

/-- The flags that a target has. -/
def Target.flags : Target → List Flag
  | type => [.shared, .clone, .getAll, .setAll]
  | field => [.get, .set, .skip]
  | function => []
  | method => [.constructor, .skip]

namespace Setting

/-- The text of a name. -/
def text? : Setting → Option String
  | name text => some text
  | flag _ => none

/-- What stands between commas is the word for a flag, or a name with a text. -/
def ofPiece? (target : Target) : Trees → Option Setting
  | [.ident word] => (target.flags.find? (·.word = word)).map .flag
  | [.ident "name", .punct '=' _, .literal spelling] => (Literal.text? spelling).map .name
  | _ => none

end Setting

/-- The items of an attribute with arguments. -/
def itemsOf? (target : Target) (a : Attribute) : Option (List Setting) :=
  match a.form with
  | .list arguments => (Trees.pieces arguments).mapM (Setting.ofPiece? target)
  | _ => none

/-- The items of all helper attributes that can be read, from left to right. -/
def settingsOf (target : Target) (as : List Attribute) : List Setting :=
  (as.filter (·.name = some "hostbind")).flatMap fun a => (itemsOf? target a).getD []

/-- All helper attributes can be read. -/
def Readable (target : Target) (as : List Attribute) : Prop :=
  ∀ a ∈ as, a.name = some "hostbind" → ∃ ss, itemsOf? target a = some ss

/-- The flag is among the items. -/
def marked (target : Target) (as : List Attribute) (f : Flag) : Bool :=
  (settingsOf target as).contains (.flag f)

/-- The name that is given last. -/
def givenName? (target : Target) (as : List Attribute) : Option String :=
  ((settingsOf target as).filterMap Setting.text?).getLast?

/-! ## Reading items -/

section Reading

variable {target : Target} {piece ts us : Trees} {s : Setting} {ss : List Setting}

theorem Target.flag?_eq_find? (target : Target) (word : String) :
    target.flag? word = target.flags.find? (·.word = word) := by
  cases target <;> unfold Target.flag? <;> split <;>
    simp_all [Target.flags, Flag.word, List.find?, eq_comm]

/-- A word in front of a comma is the name of an item. -/
theorem itemName_ident (word : String) (marks : Trees.atOp "::" us = false) :
    itemName (.ident word :: us) = .ok (word, us) := by
  have behind : behindNames us = .ok (false, us) := by
    unfold behindNames
    split <;> first | rfl | cases marks
  rw [itemName]
  change (behindNames us >>= fun r => pure (if false || r.1 then "" else word, r.2)) = _
  rw [behind]
  rfl

theorem of_behindNames (read : behindNames ts = .ok (false, us)) : us = ts := by
  unfold behindNames at read
  split at read
  · obtain ⟨_, _, same⟩ := bind_eq_ok_iff.1 read
    cases same
  · cases read
  · cases read
  · cases read
    rfl

theorem of_itemName {n : String} (named : itemName ts = .ok (n, us)) (some : n ≠ "") :
    ts = .ident n :: us := by
  unfold itemName at named
  cases lead : Trees.atOp "::" ts <;> simp only [lead, if_true, Bool.false_eq_true, if_false] at named
  · split at named
    · cases named
    · obtain ⟨⟨more, rest⟩, behind, same⟩ := bind_eq_ok_iff.1 named
      cases more with
      | false =>
        cases same
        exact congrArg _ (of_behindNames behind).symm
      | true =>
        cases same
        exact absurd rfl some
    · cases named
  · split at named
    · cases named
    · obtain ⟨⟨more, rest⟩, -, same⟩ := bind_eq_ok_iff.1 named
      cases same
      exact absurd rfl some
    · cases named

/-- A text stands behind an equals sign, as a literal that has one. -/
theorem of_itemText {text : String} (read : itemText ts = .ok (text, us)) :
    ∃ joint spelling, ts = .punct '=' joint :: .literal spelling :: us ∧
      Literal.text? spelling = some text := by
  unfold itemText at read
  split at read
  · cases read
  · split at read
    · cases read
      exact ⟨_, _, rfl, ‹_›⟩
    · cases read
  · cases read
  · cases read

theorem Target.flag?_ne {word : String} (target : Target) (other : word = "" ∨ word = "name") :
    target.flag? word = none := by
  obtain rfl | rfl := other <;> cases target <;> rfl

/-- A piece that says something is read as what it says. -/
theorem setting_of_piece (said : Setting.ofPiece? target piece = some s) (ends : Trees.Ends us) :
    setting target (piece ++ us) = .ok (s, us) := by
  have marks : Trees.atOp "::" us = false := by
    obtain rfl | ⟨joint, rest, rfl⟩ := ends <;> rfl
  unfold Setting.ofPiece? at said
  split at said
  · rename_i word
    obtain ⟨f, found, rfl⟩ := Option.map_eq_some_iff.1 said
    rw [← Target.flag?_eq_find?] at found
    have other : word ≠ "name" := by
      rintro rfl
      rw [target.flag?_ne (Or.inr rfl)] at found
      cases found
    rw [setting, List.singleton_append, itemName_ident word marks]
    change (if word = "name" then _ else _) = _
    rw [if_neg other, found]
    rfl
  · rename_i joint spelling
    obtain ⟨text, read, rfl⟩ := Option.map_eq_some_iff.1 said
    rw [setting, List.cons_append, itemName_ident "name" rfl]
    change (itemText _ >>= fun r => pure (Setting.name r.1, r.2)) = _
    rw [List.cons_append, List.singleton_append, itemText, read]
    rfl
  · cases said

/-- What is read is a piece that says so. -/
theorem exists_piece_of_setting (read : setting target ts = .ok (s, us)) :
    ∃ piece, ts = piece ++ us ∧ Setting.ofPiece? target piece = some s := by
  obtain ⟨⟨n, rest⟩, named, read⟩ := bind_eq_ok_iff.1 read
  dsimp only at read
  split_ifs at read with name
  · subst name
    obtain ⟨⟨text, rest'⟩, told, same⟩ := bind_eq_ok_iff.1 read
    cases same
    obtain ⟨joint, spelling, rfl, text⟩ := of_itemText told
    rw [of_itemName named (by decide)]
    exact ⟨[.ident "name", .punct '=' joint, .literal spelling], rfl, by simp [Setting.ofPiece?, text]⟩
  · cases found : target.flag? n with
    | none =>
      rw [found] at read
      cases read
    | some f =>
      rw [found] at read
      cases read
      have some : n ≠ "" := by
        rintro rfl
        rw [target.flag?_ne (Or.inl rfl)] at found
        cases found
      rw [of_itemName named some]
      rw [Target.flag?_eq_find?] at found
      exact ⟨[.ident n], rfl, by rw [Setting.ofPiece?, found]; rfl⟩

/-- No item has a comma in it. -/
theorem isPiece_of_ofPiece? (said : Setting.ofPiece? target piece = some s) :
    piece.isPiece = true := by
  unfold Setting.ofPiece? at said
  split at said
  · rfl
  · rfl
  · cases said

/-- Items are read one by one, each up to the comma behind it. -/
theorem settings_append (said : Setting.ofPiece? target piece = some s) (ends : Trees.Ends us) :
    settings target (piece ++ us) = (s :: ·) <$> settings target (us.drop 1) := by
  have some : (piece ++ us).isEmpty = false := by
    have isPiece := isPiece_of_ofPiece? said
    cases piece with
    | nil => cases isPiece
    | cons => rfl
  rw [settings, some, setting_of_piece said ends]
  obtain rfl | ⟨joint, rest, rfl⟩ := ends
  · rw [List.drop_nil, settings]
    rfl
  · have shorter : rest.length < (piece ++ .punct ',' joint :: rest).length := by
      rw [List.length_append, List.length_cons]
      omega
    exact dif_pos shorter

/-- Items that can be read begin with one that ends at a comma or at the end. -/
theorem exists_piece_of_settings (read : settings target ts = .ok ss) (some : ts ≠ []) :
    ∃ piece us s, ts = piece ++ us ∧ Setting.ofPiece? target piece = .some s ∧ Trees.Ends us := by
  rw [settings, if_neg (by rwa [List.isEmpty_iff])] at read
  split at read
  · cases read
  · rename_i s first
    obtain ⟨piece, same, said⟩ := exists_piece_of_setting first
    exact ⟨piece, [], s, same, said, Or.inl rfl⟩
  · rename_i s joint rest first
    obtain ⟨piece, same, said⟩ := exists_piece_of_setting first
    exact ⟨piece, _, s, same, said, Or.inr ⟨joint, rest, rfl⟩⟩
  · cases read

/-- The items of an attribute are what its pieces say. By induction on what is left. -/
theorem settings_eq_ok_iff :
    settings target ts = .ok ss ↔ ts.pieces.mapM (Setting.ofPiece? target) = some ss := by
  induction length : ts.length using Nat.strongRecOn generalizing ts ss with
  | ind n ih =>
    subst length
    by_cases none : ts = []
    · subst none
      rw [settings, Trees.pieces, List.mapM_nil]
      exact ⟨fun same => congrArg some (Except.ok.inj same),
        fun same => congrArg Except.ok (Option.some.inj same)⟩
    have shorter {piece us : Trees} (isPiece : piece.isPiece = true) :
        (us.drop 1).length < (piece ++ us).length := by
      have some : piece ≠ [] := by
        rintro rfl
        cases isPiece
      rw [List.length_drop, List.length_append]
      exact Nat.lt_of_le_of_lt (Nat.sub_le _ _) (Nat.lt_add_of_pos_left (List.length_pos_iff.2 some))
    refine ⟨fun read => ?_, fun said => ?_⟩
    · obtain ⟨piece, us, s, rfl, said, ends⟩ := exists_piece_of_settings read none
      have isPiece := isPiece_of_ofPiece? said
      rw [settings_append said ends, map_eq_ok_iff] at read
      obtain ⟨others, rest, same⟩ := read
      rw [Trees.pieces_append isPiece ends]
      exact mapM_cons_eq_some_iff.2 ⟨s, others, said, (ih _ (shorter isPiece) rfl).1 rest, same⟩
    · obtain ⟨piece, us, rfl, pieces, ends⟩ := Trees.exists_pieces_eq none
      rw [pieces] at said
      obtain ⟨s, others, said, rest, same⟩ := mapM_cons_eq_some_iff.1 said
      have isPiece := isPiece_of_ofPiece? said
      rw [settings_append said ends]
      exact map_eq_ok_iff.2 ⟨others, (ih _ (shorter isPiece) rfl).2 rest, same⟩

/-- A helper attribute can be read if it has arguments and all their pieces say something. -/
theorem attributeSettings_eq_ok_iff {a : Attribute} :
    attributeSettings target a = .ok ss ↔ itemsOf? target a = some ss := by
  rw [attributeSettings, itemsOf?]
  cases a.form with
  | list arguments => exact settings_eq_ok_iff
  | word | value => exact ⟨nofun, nofun⟩

end Reading

namespace Options

/-! ## Options -/

variable {target : Target} {as : List Attribute} {ss : List Setting} {o : Options}

/-- A flag is set if it was before, or is among the items. -/
theorem has_foldl (f : Flag) : (ss.foldl add o).has f = (o.has f || ss.contains (.flag f)) := by
  induction ss generalizing o with
  | nil => simp
  | cons s ss ih =>
    rw [List.foldl_cons, ih]
    cases s with
    | name text => simp [add, has]
    | flag g => simp [add, has, Bool.or_assoc, Bool.or_left_comm]

theorem has_ofSettings (f : Flag) : (ofSettings ss).has f = ss.contains (.flag f) := by
  rw [ofSettings, has_foldl]
  rfl

/-- The name is the last that is given, or what it was before. -/
theorem name_foldl : (ss.foldl add o).name = ((ss.filterMap Setting.text?).getLast?).or o.name := by
  induction ss generalizing o with
  | nil => simp
  | cons s ss ih =>
    rw [List.foldl_cons, ih]
    cases s with
    | name text => simp [add, Setting.text?, List.getLast?_cons]
    | flag g => simp [add, Setting.text?]

theorem name_ofSettings : (ofSettings ss).name = (ss.filterMap Setting.text?).getLast? := by
  rw [ofSettings, name_foldl]
  exact Option.or_none

/-- The helper attributes are read together : all of them, each as its items, or none. -/
theorem mapM_attributeSettings_eq_ok_iff {sss : List (List Setting)} :
    (as.filter Attribute.isHelper).mapM (attributeSettings target) = .ok sss ↔
      Readable target as ∧ sss = (as.filter (·.name = some "hostbind")).map
        fun a => (itemsOf? target a).getD [] := by
  have helper : Attribute.isHelper = fun a => decide (a.name = some "hostbind") := rfl
  have read : ∀ a ss, itemsOf? target a = some ss ↔
      (∃ ss, itemsOf? target a = some ss) ∧ (itemsOf? target a).getD [] = ss := by
    intro a ss
    cases itemsOf? target a <;> simp
  simp only [mapM_eq_ok_iff, attributeSettings_eq_ok_iff]
  rw [funext₂ fun a ss => propext (read a ss), List.forall₂_and_left, ← List.forall₂_map_left_iff,
    List.forall₂_eq_eq_eq, eq_comm, helper]
  simp [Readable]

/-- There are options if and only if all helper attributes can be read, and they are those of the
items. -/
theorem ofAttributes_eq_ok_iff :
    ofAttributes target as = .ok o ↔ Readable target as ∧ o = ofSettings (settingsOf target as) := by
  have read {sss} := @mapM_attributeSettings_eq_ok_iff target as sss
  unfold ofAttributes
  cases ran : (as.filter Attribute.isHelper).mapM (attributeSettings target) with
  | error fault =>
    refine ⟨nofun, fun ⟨readable, _⟩ => ?_⟩
    cases ran.symm.trans (read.2 ⟨readable, rfl⟩)
  | ok sss =>
    obtain ⟨readable, rfl⟩ := read.1 ran
    rw [settingsOf, List.flatMap_def]
    exact ⟨fun same => ⟨readable, (Except.ok.inj same).symm⟩, fun ⟨_, same⟩ => by rw [same]⟩

@[simp] theorem has_settingsOf (f : Flag) :
    (ofSettings (settingsOf target as)).has f = marked target as f := has_ofSettings f

@[simp] theorem name_settingsOf :
    (ofSettings (settingsOf target as)).name = givenName? target as := name_ofSettings

end Options

end NativeBridge.Expansion
