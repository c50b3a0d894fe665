import Mathlib.Data.List.Induction
import Mathlib.Data.List.Infix
import NativeBridge.Gallery.Sample
import NativeBridge.Proofs.Native.Keeping
import NativeBridge.Proofs.Runtime.Journal
import NativeBridge.Proofs.Runtime.StaleHandles

/-!
# Counting holders

Holders come by successful shares and go by successful releases of the same tenancy, one at a time,
and no other operation has a part in that (`Runtime.Fate`). So the host can tell from the journal
how many holders a live instance has, which release will be the last, and whether a share is
permitted.

`Runtime.holders_after` : after every run on an empty heap the journal is right about every handle,
as long as the heap can count its holders. It is `Runtime.tally` that carries this through a run :
until its tenancy is issued a handle has no entries in the journal, and from then on the holders are
one more than the shares less the releases.
-/

namespace NativeBridge

variable {C : Catalog}

namespace Runtime

variable {rt : Runtime C} {op : Operation} {h : Handle} {x y : Occupant C}

/-! ## One operation -/

/-- What an operation may have done to an instance that is live after it. -/
inductive Fate (rt : Runtime C) (op : Operation) (h : Handle) (y : Occupant C) : Prop
  | new (fresh : ¬rt.heap.Issued h.tenancy) (one : y.holders = 1)
      (unshared : (rt.entry op).shared? ≠ some h.tenancy)
      (unreleased : (rt.entry op).released? ≠ some h.tenancy)
  | kept {x : Occupant C} (live : rt.heap.occupant? h = some x) (type : y.type = x.type)
      (holders : y.holders = x.holders) (unshared : (rt.entry op).shared? ≠ some h.tenancy)
      (unreleased : (rt.entry op).released? ≠ some h.tenancy)
  | shared {x : Occupant C} (live : rt.heap.occupant? h = some x) (type : y.type = x.type)
      (permitted : C.sharing x.type = .shared)
      (holders : y.holders = min (x.holders + 1) Heap.holderLimit)
      (shared : (rt.entry op).shared? = some h.tenancy)
      (unreleased : (rt.entry op).released? ≠ some h.tenancy)
  | released {x : Occupant C} (live : rt.heap.occupant? h = some x) (type : y.type = x.type)
      (others : 0 < y.holders) (holders : y.holders + 1 = x.holders)
      (unshared : (rt.entry op).shared? ≠ some h.tenancy)
      (released : (rt.entry op).released? = some h.tenancy)

theorem share_of_answer {r : Response} (answer : (rt.perform (.share h)).outcome = .ok r) :
    ∃ n, rt.heap.share h = .ok (n, (rt.perform (.share h)).runtime.heap) := by
  simp only [Runtime.perform, share] at answer ⊢
  cases hs : rt.heap.share h with
  | error e =>
    rw [hs] at answer
    cases answer
  | ok p => exact ⟨p.1, rfl⟩

/-- Without a share or a release of its own tenancy an instance stays as it is in type and holders,
or is a new one. -/
theorem perform_keeps (wf : rt.heap.WellFormed)
    (unshared : (rt.entry op).shared? ≠ some h.tenancy)
    (unreleased : (rt.entry op).released? ≠ some h.tenancy) :
    rt.heap.Keeps (rt.perform op).runtime.heap h := by
  cases rt.perform_moves op with
  | still heap =>
    rw [heap]
    exact .of_eq rfl
  | @called d _ heap =>
    rw [heap]
    exact (d.leads rt).keeps wf h
  | @misconstructed e c args v _ _ _ returned _ heap =>
    have leads := (e.construction c args).leads rt
    obtain heap | ⟨k, last, rfl, release⟩ := heap
    · rw [heap]
      exact leads.keeps wf h
    · -- what the constructor returned is its own work, so the release undoes it
      exact leads.keeps_of_release wf (Invoker.issued_of_object returned) release h
  | @released k last operation release answered =>
    subst operation
    refine .of_eq (Heap.occupant?_of_release release fun same => unreleased ?_)
    exact Entry.released?_eq_some_iff.2 ⟨k, _, congrArg (Entry.mk _) answered, same.symm⟩
  | @shared k n operation share answered =>
    subst operation
    refine .of_eq (Heap.occupant?_of_share share fun same => unshared ?_)
    exact Entry.shared?_eq_some_iff.2 ⟨k, _, congrArg (Entry.mk _) answered, same.symm⟩
  | copied _ allocate => exact Heap.keeps_of_allocate wf allocate h

/-- An instance stays as it is, unless native code gets it as a receiver or its holders change. -/
theorem perform_others (wf : rt.heap.WellFormed) (live : rt.heap.occupant? h = some x)
    (beside : ∀ d, rt.dispatch? op = some d → ∀ r ∈ d.receiver, r.tenancy ≠ h.tenancy)
    (unshared : (rt.entry op).shared? ≠ some h.tenancy)
    (unreleased : (rt.entry op).released? ≠ some h.tenancy) :
    (rt.perform op).runtime.heap.occupant? h = some x := by
  cases rt.perform_moves op with
  | still heap =>
    rw [heap]
    exact live
  | @called d dispatch heap =>
    rw [heap]
    exact ((d.leads rt).conduct wf).others h x live (beside d dispatch)
  | @misconstructed e c args v _ _ dispatch returned _ heap =>
    have leads := (e.construction c args).leads rt
    have kept := (leads.conduct wf).others h x live (beside _ dispatch)
    obtain heap | ⟨k, last, rfl, release⟩ := heap
    · rw [heap]
      exact kept
    · have fresh := leads.evolves.fresh wf (Invoker.issued_of_object returned)
      have other : h.tenancy ≠ k.tenancy := fun same => fresh (same ▸ wf.issued_of_live live)
      exact (Heap.occupant?_of_release release other).trans kept
  | @released k last operation release answered =>
    subst operation
    refine (Heap.occupant?_of_release release fun same => unreleased ?_).trans live
    exact Entry.released?_eq_some_iff.2 ⟨k, _, congrArg (Entry.mk _) answered, same.symm⟩
  | @shared k n operation share answered =>
    subst operation
    refine (Heap.occupant?_of_share share fun same => unshared ?_).trans live
    exact Entry.shared?_eq_some_iff.2 ⟨k, _, congrArg (Entry.mk _) answered, same.symm⟩
  | @copied _ k _ _ _ allocate =>
    have other : h.tenancy ≠ k.tenancy :=
      fun same => wf.not_issued_of_allocate allocate (same ▸ wf.issued_of_live live)
    rw [Heap.occupant?_allocate wf.free_vacant allocate, if_neg other]
    exact live

/-- A successful share finds an instance of a shared type and adds a holder. -/
theorem occupant?_of_shared (shared : (rt.entry op).shared? = some h.tenancy) :
    ∃ x, rt.heap.occupant? h = some x ∧ C.sharing x.type = .shared ∧
      (rt.perform op).runtime.heap.occupant? h =
        some { x with holders := min (x.holders + 1) Heap.holderLimit } := by
  obtain ⟨k, r, told, same⟩ := Entry.shared?_eq_some_iff.1 shared
  obtain ⟨rfl, answered⟩ := Entry.mk.inj told
  obtain ⟨n, share⟩ := share_of_answer answered
  obtain ⟨x, live, permitted, rfl, heap⟩ := Heap.share_eq_ok_iff.1 share
  refine ⟨x, (Heap.occupant?_congr _ same).symm.trans live, permitted, ?_⟩
  rw [heap, Heap.occupant?_put live, if_pos same.symm]

/-- A successful release finds an instance and takes a holder away, and the instance with the
last. -/
theorem occupant?_of_released (released : (rt.entry op).released? = some h.tenancy) :
    ∃ x, rt.heap.occupant? h = some x ∧
      (rt.perform op).runtime.heap.occupant? h =
        if 0 < x.holders - 1 then some { x with holders := x.holders - 1 } else none := by
  obtain ⟨k, last, told, same⟩ := Entry.released?_eq_some_iff.1 released
  obtain ⟨rfl, answered⟩ := Entry.mk.inj told
  obtain ⟨x, live, ⟨others, -, heap⟩ | ⟨last, -, heap⟩⟩ :=
    Heap.release_eq_ok_iff.1 (release_of_answer answered)
  · refine ⟨x, (Heap.occupant?_congr _ same).symm.trans live, ?_⟩
    rw [heap, Heap.occupant?_put live, if_pos same.symm, if_pos others]
  · refine ⟨x, (Heap.occupant?_congr _ same).symm.trans live, ?_⟩
    rw [heap, Heap.occupant?_reclaim live, if_pos same.symm, last]
    rfl

/-- What one operation does to the holders of an instance that is live afterwards. -/
theorem perform_fate (wf : rt.heap.WellFormed)
    (live : (rt.perform op).runtime.heap.occupant? h = some y) : rt.Fate op h y := by
  by_cases shared : (rt.entry op).shared? = some h.tenancy
  · obtain ⟨x, before, permitted, after⟩ := occupant?_of_shared shared
    cases after.symm.trans live
    exact .shared before rfl permitted rfl shared (Entry.released?_ne_of_shared shared)
  by_cases released : (rt.entry op).released? = some h.tenancy
  · obtain ⟨x, before, after⟩ := occupant?_of_released released
    rw [after] at live
    split_ifs at live with others
    cases live
    have counted : 1 ≤ x.holders := by omega
    exact .released before rfl others (Nat.sub_add_cancel counted) shared released
  obtain ⟨x, before, type, holders⟩ | ⟨fresh, one⟩ := perform_keeps wf shared released y live
  · exact .kept before type holders shared released
  · exact .new fresh one shared released

/-- A release of a live instance succeeds, and tells whether it was the last. -/
theorem outcome_release (live : rt.heap.occupant? h = some x) :
    (rt.perform (.release h)).outcome = .ok (.reclaimed (x.holders - 1 = 0)) := by
  rw [perform, release]
  rcases Nat.eq_zero_or_pos (x.holders - 1) with last | others
  · rw [Heap.release_of_last live last, decide_eq_true last]
    rfl
  · rw [Heap.release_of_others live others, decide_eq_false (Nat.ne_of_gt others)]
    rfl

theorem outcome_share_iff (live : rt.heap.occupant? h = some x) :
    (∃ r, (rt.perform (.share h)).outcome = .ok r) ↔ C.sharing x.type = .shared := by
  refine ⟨?_, fun permitted => ?_⟩
  · rintro ⟨r, answered⟩
    obtain ⟨n, share⟩ := share_of_answer answered
    obtain ⟨z, there, permitted, -⟩ := Heap.share_eq_ok_iff.1 share
    cases there.symm.trans live
    exact permitted
  · rw [perform, share, Heap.share_of_shared live permitted]
    exact ⟨.handle h, rfl⟩

/-! ## Runs -/

variable {ops : List Operation}

theorem wellFormed_after (wf : rt.heap.WellFormed) (ops : List Operation) :
    (rt.after ops).heap.WellFormed :=
  (rt.after_evolves ops).wellFormed wf

/-- What has been issued stays issued. -/
theorem issued_after (wf : rt.heap.WellFormed) (issued : rt.heap.Issued h.tenancy)
    (ops : List Operation) : (rt.after ops).heap.Issued h.tenancy :=
  ((rt.after_evolves ops).issued_iff wf h.tenancy).2 (Or.inl issued)

/-- A handle has no entries in the journal before its tenancy is issued. By induction on the
operations, from the last one on. -/
theorem uncounted (wf : rt.heap.WellFormed) (fresh : ¬(rt.after ops).heap.Issued h.tenancy) :
    (rt.journal ops).shares h.tenancy = 0 ∧ (rt.journal ops).releases h.tenancy = 0 := by
  induction ops using List.reverseRecOn with
  | nil => exact ⟨rfl, rfl⟩
  | append_singleton ops op ih =>
    have wf' := wellFormed_after wf ops
    have fresh' : ¬(rt.after ops).heap.Issued h.tenancy := by
      intro issued
      rw [after_append] at fresh
      exact fresh (issued_after wf' issued [op])
    have unshared : ((rt.after ops).entry op).shared? ≠ some h.tenancy := by
      intro shared
      obtain ⟨x, live, -⟩ := occupant?_of_shared shared
      exact fresh' (wf'.issued_of_live live)
    have unreleased : ((rt.after ops).entry op).released? ≠ some h.tenancy := by
      intro released
      obtain ⟨x, live, -⟩ := occupant?_of_released released
      exact fresh' (wf'.issued_of_live live)
    rw [journal_concat, Journal.shares_concat, Journal.releases_concat, if_neg unshared,
      if_neg unreleased]
    exact ih fresh'

/-- The journal of a run and the holders of a live instance. -/
structure Tally (j : Journal) (h : Handle) (x : Occupant C) : Prop where
  pos : 0 < x.holders
  balance : x.holders + j.releases h.tenancy = 1 + j.shares h.tenancy
  exclusive : C.sharing x.type = .exclusive → x.holders = 1

/-- One more operation : the tally starts with a new instance, and goes on with an old one. -/
theorem Fate.tally {j : Journal} (fate : rt.Fate op h y)
    (started : ¬rt.heap.Issued h.tenancy → j.shares h.tenancy = 0 ∧ j.releases h.tenancy = 0)
    (earlier : ∀ x, rt.heap.occupant? h = some x → Tally j h x ∧ x.holders < Heap.holderLimit) :
    Tally (j ++ [rt.entry op]) h y := by
  cases fate with
  | new fresh one unshared unreleased =>
    obtain ⟨shares, releases⟩ := started fresh
    refine ⟨?_, ?_, fun _ => one⟩
    · omega
    · rw [Journal.shares_concat, Journal.releases_concat, if_neg unshared, if_neg unreleased]
      omega
  | kept live type holders unshared unreleased =>
    obtain ⟨⟨pos, balance, exclusive⟩, -⟩ := earlier _ live
    rw [← holders] at pos balance exclusive
    refine ⟨pos, ?_, fun sole => exclusive (type ▸ sole)⟩
    rw [Journal.shares_concat, Journal.releases_concat, if_neg unshared, if_neg unreleased]
    exact balance
  | shared live type permitted holders shared unreleased =>
    obtain ⟨⟨pos, balance, -⟩, countable⟩ := earlier _ live
    rw [Nat.min_eq_left countable] at holders
    refine ⟨?_, ?_, fun sole => ?_⟩
    · omega
    · rw [Journal.shares_concat, Journal.releases_concat, if_pos shared, if_neg unreleased]
      omega
    · rw [type, permitted] at sole
      cases sole
  | released live type others holders unshared released =>
    obtain ⟨⟨pos, balance, exclusive⟩, -⟩ := earlier _ live
    refine ⟨others, ?_, fun sole => ?_⟩
    · rw [Journal.shares_concat, Journal.releases_concat, if_neg unshared, if_pos released]
      omega
    · rw [type] at sole
      have one := exclusive sole
      omega

theorem holders?_of_live (live : rt.heap.occupant? h = some x) :
    rt.holders? h = some x.holders := by
  rw [Runtime.holders?, Heap.holders?, live]
  rfl

/-- The journal of a run is right about the holders of a live instance. By induction on the
operations, from the last one on. -/
theorem tally (wf : rt.heap.WellFormed) (unissued : ¬rt.heap.Issued h.tenancy)
    (countable : ∀ first, first <+: ops → ∀ n ∈ (rt.after first).holders? h, n < Heap.holderLimit)
    (live : (rt.after ops).heap.occupant? h = some x) : Tally (rt.journal ops) h x := by
  induction ops using List.reverseRecOn generalizing x with
  | nil => exact absurd (wf.issued_of_live live) unissued
  | append_singleton ops op ih =>
    have wf' := wellFormed_after wf ops
    have sooner : ∀ first, first <+: ops →
        ∀ n ∈ (rt.after first).holders? h, n < Heap.holderLimit :=
      fun first pre => countable first (pre.trans (List.prefix_append ops [op]))
    rw [after_concat] at live
    rw [journal_concat]
    refine (perform_fate wf' live).tally (fun fresh => uncounted wf fresh) fun z before => ?_
    exact ⟨ih sooner before, sooner ops List.prefix_rfl _ (holders?_of_live before)⟩

/-- An instance keeps its type for life. By induction on the later operations, from the last one
on. -/
theorem type_after (wf : rt.heap.WellFormed) (early : rt.heap.occupant? h = some x)
    (late : (rt.after ops).heap.occupant? h = some y) : y.type = x.type := by
  induction ops using List.reverseRecOn generalizing y with
  | nil =>
    cases early.symm.trans late
    rfl
  | append_singleton ops op ih =>
    rw [after_concat] at late
    cases perform_fate (wellFormed_after wf ops) late with
    | new fresh => exact absurd (issued_after wf (wf.issued_of_live early) ops) fresh
    | kept live type => exact type.trans (ih live)
    | shared live type => exact type.trans (ih live)
    | released live type => exact type.trans (ih live)

/-- A tenancy is reclaimed once, and then it is gone. By induction on the operations, from the last
one on. -/
theorem reclaims_cases (wf : rt.heap.WellFormed) (ops : List Operation) (h : Handle) :
    (rt.journal ops).reclaims h.tenancy = 0 ∨
      (rt.journal ops).reclaims h.tenancy = 1 ∧ (rt.after ops).heap.occupant? h = none ∧
        (rt.after ops).heap.Issued h.tenancy := by
  induction ops using List.reverseRecOn with
  | nil => exact Or.inl rfl
  | append_singleton ops op ih =>
    have wf' := wellFormed_after wf ops
    rw [journal_concat, Journal.reclaims_concat, after_concat]
    by_cases reclaimed : ((rt.after ops).entry op).reclaimed? = some h.tenancy
    · obtain ⟨k, told, same⟩ := Entry.reclaimed?_eq_some_iff.1 reclaimed
      obtain ⟨rfl, answered⟩ := Entry.mk.inj told
      obtain ⟨stale, issued⟩ := stale_of_reclaimed wf' answered
      obtain ⟨x, live, -⟩ := Heap.release_eq_ok_iff.1 (release_of_answer answered)
      rw [Heap.occupant?_congr _ same] at stale live
      rw [same] at issued
      rw [if_pos reclaimed]
      obtain none | ⟨-, gone, -⟩ := ih
      · exact Or.inr ⟨by rw [none], stale, issued⟩
      · cases live.symm.trans gone
    · rw [if_neg reclaimed, Nat.add_zero]
      refine ih.imp_right fun ⟨one, gone, issued⟩ => ⟨one, ?_, ?_⟩
      · exact ((rt.after ops).perform_evolves op).stale wf' issued gone
      · exact issued_after wf' issued [op]

/-- In a run on an empty heap, as long as its holders can be counted, the journal is right about a
live instance : it has one holder more than there are shares less releases; the next release takes
it away if there are as many releases as shares, which happens once at most; it may be shared if it
is of a shared type, as it has been all its life; and if it is of an exclusive type, it has one
holder. -/
theorem holders_after (registry : Registry C) (config : Config) (ops : List Operation) (h : Handle)
    (countable : ∀ first, first <+: ops →
      ∀ n ∈ ((⟨registry, config, .empty⟩ : Runtime C).after first).holders? h,
        n < Heap.holderLimit) :
    let rt : Runtime C := ⟨registry, config, .empty⟩
    let j := rt.journal ops
    (∀ n, (rt.after ops).holders? h = some n →
        n + j.releases h.tenancy = 1 + j.shares h.tenancy ∧
          ((rt.after ops).perform (.release h)).outcome =
            .ok (.reclaimed (j.releases h.tenancy = j.shares h.tenancy)) ∧
          ∀ first x, first <+: ops → (rt.after first).heap.occupant? h = some x →
            ((∃ r, ((rt.after ops).perform (.share h)).outcome = .ok r) ↔
                C.sharing x.type = .shared) ∧
              (C.sharing x.type = .exclusive → n = 1)) ∧
      j.reclaims h.tenancy ≤ 1 := by
  intro rt j
  have wf : rt.heap.WellFormed := Heap.wellFormed_empty
  refine ⟨fun n counted => ?_, ?_⟩
  · obtain ⟨y, live, rfl⟩ := Option.map_eq_some_iff.1 counted
    obtain ⟨pos, balance, exclusive⟩ : Tally j h y :=
      tally wf (Heap.not_issued_empty _) countable live
    refine ⟨balance, ?_, fun first x pre early => ?_⟩
    · have last : y.holders - 1 = 0 ↔ j.releases h.tenancy = j.shares h.tenancy := by omega
      rw [outcome_release live, decide_eq_decide.2 last]
    · obtain ⟨rest, rfl⟩ := pre
      have type : y.type = x.type := by
        rw [after_append] at live
        exact type_after (wellFormed_after wf first) early live
      rw [← type]
      exact ⟨outcome_share_iff live, exclusive⟩
  · obtain none | ⟨one, -⟩ := reclaims_cases wf ops h
    · exact Nat.le_trans (Nat.le_of_eq none) (Nat.zero_le 1)
    · exact Nat.le_of_eq one

open Gallery in
/-- A counter is shared twice and released once, while a second one comes and goes : another release
will not be the last. -/
theorem holders_after_shared :
    let make : FunctionMeta catalog :=
      ⟨"make", [], .object "Counter", .empty, .setReturn (.object .counter) ⟨.wrap .i64 5⟩⟩
    let rt : Runtime catalog := ⟨(Registry.empty "counters").pushFunction make rfl, {}, .empty⟩
    let h : Handle := ⟨0, 0, .empty⟩
    let ops : List Operation :=
      [.call "make" [], .share h, .share h, .call "make" [], .release h, .release ⟨1, 0, .empty⟩]
    (∀ first, first <+: ops → ∀ n ∈ (rt.after first).holders? h, n < Heap.holderLimit) ∧
      (rt.journal ops).shares (0, 0) = 2 ∧ (rt.journal ops).releases (0, 0) = 1 ∧
      (rt.after ops).holders? h = some 2 ∧
      ((rt.after ops).perform (.release h)).outcome = .ok (.reclaimed false) := by
  intro make rt h ops
  have countable : ∀ first, first <+: ops →
      ∀ n ∈ (rt.after first).holders? h, n < Heap.holderLimit := by
    have each : ∀ first ∈ ops.inits, ∀ n ∈ (rt.after first).holders? h, n < Heap.holderLimit := by
      decide
    exact fun first pre => each first ((List.mem_inits ..).2 pre)
  have shares : (rt.journal ops).shares h.tenancy = 2 := by decide
  have releases : (rt.journal ops).releases h.tenancy = 1 := by decide
  have holders : (rt.after ops).holders? h = some 2 := by decide
  obtain ⟨-, release, -⟩ := (holders_after _ _ ops h countable).1 2 holders
  rw [shares, releases] at release
  exact ⟨countable, shares, releases, holders, release⟩

end Runtime

end NativeBridge
