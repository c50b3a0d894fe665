import NativeBridge.Gallery.Exhibit
import NativeBridge.Proofs.Runtime.Moves

/-!
# Handles that reach nothing

Seven operations of a runtime are about the instance behind one handle (`Operation.target?`). A
runtime `Refuses` a handle if each of them fails on it as a use after reclamation, whatever else is
asked, and nothing changes.

`Runtime.after_refuses` : in every run on an empty heap, a handle is refused once a release has
reclaimed its tenancy, and as long as its tenancy has not been issued. What matters is that a
reclaimed tenancy has been issued and is never issued again (`Heap.Evolves.stale`), however often
the slot is used.
-/

namespace NativeBridge

variable {C : Catalog}

namespace Runtime

/-- Every operation on the handle is a use after reclamation and changes nothing, and there is
nothing behind the handle to ask about. -/
structure Refuses (rt : Runtime C) (h : Handle) : Prop where
  perform : ∀ op : Operation, op.target? = some h →
    rt.perform op = rt.answer (.error (.useAfterFree h.index h.generation))
  state : rt.state h = .reclaimed
  holders : rt.holders? h = none

/-- A release in the run has taken the last holder of the tenancy away. -/
def Reclaimed (rt : Runtime C) (ops : List Operation) (t : Tenancy) : Prop :=
  ∃ first h rest, ops = first ++ .release h :: rest ∧ h.tenancy = t ∧
    ((rt.after first).perform (.release h)).outcome = .ok (.reclaimed true)

variable {rt : Runtime C} {h : Handle}

/-- A stale handle has no class, whatever identity it carries. -/
theorem classFor_of_stale (stale : rt.heap.occupant? h = none) :
    rt.classFor h = .error (.useAfterFree h.index h.generation) := by
  rw [classFor, stale]

/-- The lookup of the instance comes before everything else. -/
theorem refuses_of_stale (stale : rt.heap.occupant? h = none) : rt.Refuses h where
  perform op target := by
    have unknown := classFor_of_stale stale
    cases op with
    | getField k name =>
      cases target
      rw [Runtime.perform, getField, unknown]
      rfl
    | setField k name v =>
      cases target
      rw [Runtime.perform, setField, unknown]
      rfl
    | callMethod k name args =>
      cases target
      rw [Runtime.perform, callMethod, unknown]
      rfl
    | release k =>
      cases target
      rw [Runtime.perform, release, Heap.release_of_stale stale]
      rfl
    | share k =>
      cases target
      rw [Runtime.perform, share, Heap.share_of_stale stale]
      rfl
    | copy k =>
      cases target
      rw [Runtime.perform, copy, unknown]
      rfl
    | typeOf k =>
      cases target
      rw [Runtime.perform, typeOf, unknown]
      rfl
    | call | construct | constructWith | state | holders => cases target
  state := by rw [Runtime.state, Heap.state, stale]; rfl
  holders := by rw [holders?, Heap.holders?, stale]; rfl

theorem release_of_answer {last : Bool}
    (answer : (rt.perform (.release h)).outcome = .ok (.reclaimed last)) :
    rt.heap.release h = .ok (last, (rt.perform (.release h)).runtime.heap) := by
  simp only [Runtime.perform, release] at answer ⊢
  cases hr : rt.heap.release h with
  | error e =>
    rw [hr] at answer
    cases answer
  | ok p =>
    rw [hr] at answer
    cases answer
    rfl

/-- A release that takes the last holder away leaves an issued tenancy without an instance. -/
theorem stale_of_reclaimed (wf : rt.heap.WellFormed)
    (reclaimed : (rt.perform (.release h)).outcome = .ok (.reclaimed true)) :
    (rt.perform (.release h)).runtime.heap.occupant? h = none ∧
      (rt.perform (.release h)).runtime.heap.Issued h.tenancy := by
  obtain ⟨x, live, ⟨-, e, -⟩ | ⟨-, -, heap⟩⟩ :=
    Heap.release_eq_ok_iff.1 (release_of_answer reclaimed)
  · cases e
  · rw [heap, Heap.occupant?_reclaim live, wf.issued_reclaim live]
    exact ⟨if_pos rfl, wf.issued_of_live live⟩

variable (registry : Registry C) (config : Config)

/-- In a run on an empty heap, a handle is refused once its tenancy has been reclaimed, and as long
as its tenancy has not been issued. -/
theorem after_refuses (ops : List Operation) (k : Handle)
    (gone : (⟨registry, config, .empty⟩ : Runtime C).Reclaimed ops k.tenancy ∨
      k.tenancy ∉ ((⟨registry, config, .empty⟩ : Runtime C).issuedIn ops).map Handle.tenancy) :
    ((⟨registry, config, .empty⟩ : Runtime C).after ops).Refuses k := by
  refine refuses_of_stale ?_
  rcases gone with ⟨first, h, rest, rfl, same, reclaimed⟩ | unissued
  · -- from the release on, the tenancy stays issued and empty
    have wf := ((⟨registry, config, .empty⟩ : Runtime C).after_evolves first).wellFormed
      Heap.wellFormed_empty
    obtain ⟨stale, issued⟩ := stale_of_reclaimed wf reclaimed
    rw [after_append, after, Heap.occupant?_congr _ same.symm]
    refine (after_evolves _ rest).stale ?_ issued stale
    exact (perform_evolves _ (.release h)).wellFormed wf
  · have evolves := (⟨registry, config, .empty⟩ : Runtime C).after_evolves ops
    cases live : ((⟨registry, config, .empty⟩ : Runtime C).after ops).heap.occupant? k with
    | none => rfl
    | some x =>
      have issued := (evolves.wellFormed Heap.wellFormed_empty).issued_of_live live
      rcases (evolves.issued_iff Heap.wellFormed_empty _).1 issued with before | during
      · exact absurd before (Heap.not_issued_empty _)
      · exact absurd during unissued

open Gallery in
/-- A token is made, released, and its slot used again. Its handle and one from the future are
refused, with whatever identity. -/
theorem after_refuses_reuse :
    let make : FunctionMeta catalog :=
      ⟨"make", [], .object "Token", .empty, .setReturn (.object .token) ⟨.wrap .i64 7⟩⟩
    let rt : Runtime catalog := ⟨(Registry.empty "tokens").pushFunction make rfl, {}, .empty⟩
    let ops : List Operation := [.call "make" [], .release ⟨0, 0, .empty⟩, .call "make" []]
    rt.Reclaimed ops (0, 0) ∧ (0, 2) ∉ (rt.issuedIn ops).map Handle.tenancy ∧
      (rt.after ops).Refuses ⟨0, 0, ⟨5⟩⟩ ∧ (rt.after ops).Refuses ⟨0, 2, ⟨5⟩⟩ := by
  intro make rt ops
  have reclaimed : rt.Reclaimed ops (0, 0) :=
    ⟨[.call "make" []], ⟨0, 0, .empty⟩, [.call "make" []], rfl, rfl, rfl⟩
  have unissued : (0, 2) ∉ (rt.issuedIn ops).map Handle.tenancy := by decide
  exact ⟨reclaimed, unissued, after_refuses _ _ ops _ (Or.inl reclaimed),
    after_refuses _ _ ops _ (Or.inr unissued)⟩

end Runtime

end NativeBridge
