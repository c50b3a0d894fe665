import NativeBridge.Proofs.Runtime.Moves

/-!
# What the host has seen of a run

The journal of a run lists the operations with their outcomes. It is all that the host knows, and
enough to know what it holds : the handles that it has been handed for new instances
(`Journal.handedOut`), and, by tenancy, the holders that it has added (`Journal.shares`), taken away
(`Journal.releases`), and the instances that went with the last of them (`Journal.reclaims`).
-/

namespace NativeBridge

variable {C : Catalog}

namespace Response

def handle? : Response → Option Handle
  | handle h => some h
  | _ => none

/-- The object of a returned value. -/
def object? : Response → Option Handle
  | value v => v.object?
  | _ => none

end Response

/-- An operation and how it ended. -/
structure Entry where
  operation : Operation
  outcome : Outcome HostError Response

namespace Entry

/-- The handle of a new instance that the host has been handed. -/
def handedOut? : Entry → Option Handle
  | ⟨.call .., o⟩ | ⟨.callMethod .., o⟩ | ⟨.getField .., o⟩ => o.value?.bind Response.object?
  | ⟨.construct .., o⟩ | ⟨.constructWith .., o⟩ | ⟨.copy _, o⟩ => o.value?.bind Response.handle?
  | _ => none

/-- The tenancy that has got a holder more. -/
def shared? : Entry → Option Tenancy
  | ⟨.share h, .ok _⟩ => some h.tenancy
  | _ => none

/-- The tenancy that has lost a holder. -/
def released? : Entry → Option Tenancy
  | ⟨.release h, .ok (.reclaimed _)⟩ => some h.tenancy
  | _ => none

/-- The tenancy that has lost its last holder. -/
def reclaimed? : Entry → Option Tenancy
  | ⟨.release h, .ok (.reclaimed true)⟩ => some h.tenancy
  | _ => none

variable {e : Entry} {t : Tenancy}

/-- Shares are counted where they succeed. -/
theorem shared?_eq_some_iff :
    e.shared? = some t ↔ ∃ h r, e = ⟨.share h, .ok r⟩ ∧ h.tenancy = t := by
  obtain ⟨op, o⟩ := e
  cases op <;> cases o <;> simp [shared?]

/-- Releases are counted where they succeed, whether or not they are the last. -/
theorem released?_eq_some_iff :
    e.released? = some t ↔ ∃ h last, e = ⟨.release h, .ok (.reclaimed last)⟩ ∧ h.tenancy = t := by
  unfold released?
  split
  · simp
  next other =>
    simp only [reduceCtorEq, false_iff]
    rintro ⟨h, last, rfl, -⟩
    exact other h last rfl

/-- No entry is of a share and of a release. -/
theorem released?_ne_of_shared (shared : e.shared? = some t) : e.released? ≠ some t := by
  obtain ⟨h, r, rfl, -⟩ := shared?_eq_some_iff.1 shared
  nofun

theorem reclaimed?_eq_some_iff :
    e.reclaimed? = some t ↔ ∃ h, e = ⟨.release h, .ok (.reclaimed true)⟩ ∧ h.tenancy = t := by
  unfold reclaimed?
  split
  · simp
  next other =>
    simp only [reduceCtorEq, false_iff]
    rintro ⟨h, rfl, -⟩
    exact other h rfl

theorem released?_of_reclaimed (reclaimed : e.reclaimed? = some t) : e.released? = some t := by
  obtain ⟨h, rfl, same⟩ := reclaimed?_eq_some_iff.1 reclaimed
  exact congrArg some same

end Entry

/-- Operations and how they ended, in order. -/
abbrev Journal := List Entry

namespace Journal

/-- The handles of new instances that the host has been handed, in order. -/
def handedOut (j : Journal) : List Handle := j.filterMap Entry.handedOut?

/-- Number of instances that have been reclaimed. -/
def reclaimed (j : Journal) : Nat := j.countP fun e => e.reclaimed?.isSome

/-- How often the host has added a holder to the tenancy. -/
def shares (j : Journal) (t : Tenancy) : Nat := j.countP fun e => e.shared? = some t

/-- How often the host has taken a holder of the tenancy away. -/
def releases (j : Journal) (t : Tenancy) : Nat := j.countP fun e => e.released? = some t

/-- How often the host has been told that the tenancy was reclaimed. -/
def reclaims (j : Journal) (t : Tenancy) : Nat := j.countP fun e => e.reclaimed? = some t

theorem handedOut_cons (e : Entry) (j : Journal) :
    handedOut (e :: j) = e.handedOut?.toList ++ j.handedOut := by
  cases handed : e.handedOut? <;> simp [handedOut, handed]

theorem reclaimed_cons (e : Entry) (j : Journal) :
    reclaimed (e :: j) = e.reclaimed?.toList.length + j.reclaimed := by
  cases gone : e.reclaimed? <;> simp [reclaimed, gone, Nat.add_comm]

variable (j : Journal) (e : Entry) (t : Tenancy)

theorem shares_concat :
    shares (j ++ [e]) t = j.shares t + if e.shared? = some t then 1 else 0 := by
  simp [shares, List.countP_append]

theorem releases_concat :
    releases (j ++ [e]) t = j.releases t + if e.released? = some t then 1 else 0 := by
  simp [releases, List.countP_append]

theorem reclaims_concat :
    reclaims (j ++ [e]) t = j.reclaims t + if e.reclaimed? = some t then 1 else 0 := by
  simp [reclaims, List.countP_append]

end Journal

namespace Runtime

/-- What the journal says of an operation. -/
def entry (rt : Runtime C) (op : Operation) : Entry := ⟨op, (rt.perform op).outcome⟩

/-- The journal of a run. -/
def journal (rt : Runtime C) : List Operation → Journal
  | [] => []
  | op :: ops => rt.entry op :: (rt.perform op).runtime.journal ops

/-- The journal of a longer run goes on with that of the rest, from where the first part ends. -/
theorem journal_append (rt : Runtime C) (first second : List Operation) :
    rt.journal (first ++ second) = rt.journal first ++ (rt.after first).journal second := by
  induction first generalizing rt with
  | nil => rfl
  | cons op ops ih =>
    simp only [List.cons_append, journal]
    rw [ih, after]

theorem journal_concat (rt : Runtime C) (ops : List Operation) (op : Operation) :
    rt.journal (ops ++ [op]) = rt.journal ops ++ [(rt.after ops).entry op] := by
  rw [journal_append]
  rfl

end Runtime

end NativeBridge
