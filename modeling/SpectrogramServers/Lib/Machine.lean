import Mathlib.Data.List.Basic
import Mathlib.Logic.Function.Basic

/-!
# Labelled machines and their runs

A concurrent program whose critical sections are atomic is a *labelled
machine*: a state, and for every label the state that taking it leads to.  The
label names the party that moves and everything the environment chooses for it
(which thread is scheduled, whether a wait wakes up spuriously, which bytes a
device delivers), so a list of labels *is* an interleaving, and "for every
interleaving" is a quantifier over lists of labels.

* `Machine.run` — the state a list of labels leads to, `none` where one of them
  was not enabled.
* `Machine.Throughout P` — `P` holds in every state the run visits.
* `Machine.Along cond` — every step of the run is taken in a state in which
  `cond` holds of the state and the label.
* `Machine.collect f` — what `f` extracts from the steps of the run, in order:
  the messages sent, the bytes delivered, the rows appended.

Two rules carry the developments built on top.  `throughout_of_along` is the
guarded invariant rule: an invariant that every *guarded* step preserves holds
throughout every guarded run.  `throughout_iff_along` adds the converse: if a step
that violates the guard always leads to a state that violates the property, then
a run on which the property holds throughout is a guarded run, and the guard is
exactly what the property costs.  Where that is so only on the runs of another
guard, `throughout_iff_along_of_along` says it of those runs.
-/

namespace SpectrogramServers

universe u v

/-- A step behind a guard is taken only where the guard holds. -/
theorem guarded_eq_some {α : Type u} {p : Prop} [Decidable p] {a b : α}
    (h : (if p then some a else none) = some b) : p ∧ a = b := by
  rw [Option.ite_none_right_eq_some] at h
  exact ⟨h.1, Option.some.inj h.2⟩

/-- A labelled machine: the initial states, and a partial step function.
`step s l = none` says that the step `l` is not enabled in `s`. -/
structure Machine (σ : Type u) (ι : Type v) where
  init : σ → Prop
  step : σ → ι → Option σ

namespace Machine

variable {σ : Type u} {ι : Type v} (M : Machine σ ι)

/-- The state reached by taking the labels one after the other. -/
def run : σ → List ι → Option σ
  | s, [] => some s
  | s, l :: ls => (M.step s l).bind fun t => run t ls

@[simp] theorem run_nil (s : σ) : M.run s [] = some s := rfl

theorem run_cons (s : σ) (l : ι) (ls : List ι) :
    M.run s (l :: ls) = (M.step s l).bind fun t => M.run t ls := rfl

theorem run_append (s : σ) (ls ms : List ι) :
    M.run s (ls ++ ms) = (M.run s ls).bind fun t => M.run t ms := by
  induction ls generalizing s with
  | nil => rfl
  | cons l ls ih =>
      rw [List.cons_append, run_cons, run_cons]
      cases M.step s l with
      | none => rfl
      | some t => exact ih t

/-- `P` holds in every state the run visits, its first state included. -/
def Throughout (P : σ → Prop) : σ → List ι → Prop
  | s, [] => P s
  | s, l :: ls => P s ∧ ∀ t, M.step s l = some t → Throughout P t ls

/-- Every step of the run is taken in a state that meets `cond` for its label. -/
def Along (cond : σ → ι → Prop) : σ → List ι → Prop
  | _, [] => True
  | s, l :: ls => ∀ t, M.step s l = some t → cond s l ∧ Along cond t ls

@[simp] theorem along_nil (cond : σ → ι → Prop) (s : σ) : M.Along cond s [] := trivial

/-- A step that is known to be taken is peeled off a guarded run. -/
theorem along_cons_of_step {cond : σ → ι → Prop} {s t : σ} {l : ι} {ls : List ι}
    (hstep : M.step s l = some t) :
    M.Along cond s (l :: ls) ↔ cond s l ∧ M.Along cond t ls := by
  constructor
  · intro h
    exact h t hstep
  · rintro h t' ht'
    obtain rfl : t = t' := Option.some.inj (hstep.symm.trans ht')
    exact h

theorem Throughout.head {P : σ → Prop} {s : σ} {ls : List ι}
    (h : M.Throughout P s ls) : P s := by
  cases ls with
  | nil => exact h
  | cons l ls => exact h.1

/-- A property that holds throughout a run holds in the state it ends in. -/
theorem Throughout.last {P : σ → Prop} {s t : σ} {ls : List ι}
    (h : M.Throughout P s ls) (hrun : M.run s ls = some t) : P t := by
  induction ls generalizing s with
  | nil =>
      obtain rfl : s = t := Option.some.inj hrun
      exact h
  | cons l ls ih =>
      obtain ⟨u, hstep, hrest⟩ := Option.bind_eq_some_iff.mp hrun
      exact ih (h.2 u hstep) hrest

theorem Throughout.mono {P Q : σ → Prop} (sub : ∀ s, P s → Q s) {s : σ}
    {ls : List ι} (h : M.Throughout P s ls) : M.Throughout Q s ls := by
  induction ls generalizing s with
  | nil => exact sub s h
  | cons l ls ih => exact ⟨sub s h.1, fun t ht => ih (h.2 t ht)⟩

/-- **The guarded invariant rule.**  What every guarded step preserves holds
throughout every guarded run. -/
theorem throughout_of_along {cond : σ → ι → Prop} (Inv : σ → Prop)
    (hstep : ∀ s l t, Inv s → cond s l → M.step s l = some t → Inv t)
    {s : σ} {ls : List ι} (hs : Inv s) (h : M.Along cond s ls) :
    M.Throughout Inv s ls := by
  induction ls generalizing s with
  | nil => exact hs
  | cons l ls ih =>
      refine ⟨hs, fun t ht => ?_⟩
      obtain ⟨hcond, hrest⟩ := h t ht
      exact ih (hstep s l t hs hcond ht) hrest

/-- The same for an invariant that every step preserves. -/
theorem throughout_of_step (Inv : σ → Prop)
    (hstep : ∀ s l t, Inv s → M.step s l = some t → Inv t) {s : σ} (hs : Inv s)
    (ls : List ι) : M.Throughout Inv s ls := by
  induction ls generalizing s with
  | nil => exact hs
  | cons l ls ih => exact ⟨hs, fun t ht => ih (hstep s l t hs ht)⟩

/-- What every step preserves, a run preserves. -/
theorem inv_of_run (Inv : σ → Prop)
    (hstep : ∀ s l t, Inv s → M.step s l = some t → Inv t) {s t : σ} {ls : List ι}
    (hs : Inv s) (hrun : M.run s ls = some t) : Inv t :=
  (M.throughout_of_step Inv hstep hs ls).last M hrun

/-- What a step invariant and the guard give at each single step holds along
the whole guarded run. -/
theorem along_of_along {cond Q : σ → ι → Prop} (Inv : σ → Prop)
    (hstep : ∀ s l t, Inv s → cond s l → M.step s l = some t → Inv t ∧ Q s l)
    {s : σ} {ls : List ι} (hs : Inv s) (h : M.Along cond s ls) :
    M.Along Q s ls := by
  induction ls generalizing s with
  | nil => trivial
  | cons l ls ih =>
      intro t ht
      obtain ⟨hcond, hrest⟩ := h t ht
      obtain ⟨hinv, hQ⟩ := hstep s l t hs hcond ht
      exact ⟨hQ, ih hinv hrest⟩

theorem along_and {cond cond' : σ → ι → Prop} {s : σ} {ls : List ι} :
    M.Along (fun s l => cond s l ∧ cond' s l) s ls ↔ M.Along cond s ls ∧ M.Along cond' s ls := by
  induction ls generalizing s with
  | nil => exact ⟨fun _ => ⟨trivial, trivial⟩, fun _ => trivial⟩
  | cons l ls ih =>
      constructor
      · intro h
        exact ⟨fun t ht => ⟨(h t ht).1.1, (ih.mp (h t ht).2).1⟩,
          fun t ht => ⟨(h t ht).1.2, (ih.mp (h t ht).2).2⟩⟩
      · rintro ⟨h, h'⟩ t ht
        exact ⟨⟨(h t ht).1, (h' t ht).1⟩, ih.mpr ⟨(h t ht).2, (h' t ht).2⟩⟩

/-- A run in two parts. -/
theorem along_append {cond : σ → ι → Prop} {s : σ} {ls ms : List ι} :
    M.Along cond s (ls ++ ms) ↔
      M.Along cond s ls ∧ ∀ t, M.run s ls = some t → M.Along cond t ms := by
  induction ls generalizing s with
  | nil =>
      refine ⟨fun h => ⟨trivial, fun t hrun => ?_⟩, fun h => h.2 s rfl⟩
      obtain rfl : s = t := Option.some.inj hrun
      exact h
  | cons l ls ih =>
      constructor
      · intro h
        refine ⟨fun t ht => ⟨(h t ht).1, (ih.mp (h t ht).2).1⟩, fun t hrun => ?_⟩
        obtain ⟨u, hu, hrest⟩ := Option.bind_eq_some_iff.mp hrun
        exact (ih.mp (h u hu).2).2 t hrest
      · rintro ⟨h, later⟩ t ht
        refine ⟨(h t ht).1, ih.mpr ⟨(h t ht).2, fun u hrun => later u ?_⟩⟩
        rw [M.run_cons, ht]
        exact hrun

/-- The condition holds wherever the labels are cut and the next step is taken. -/
theorem along_iff_of_split {cond : σ → ι → Prop} {s : σ} {ls : List ι} :
    M.Along cond s ls ↔ ∀ before l after t u, ls = before ++ l :: after →
      M.run s before = some t → M.step t l = some u → cond t l := by
  constructor
  · rintro h before l after t u rfl run taken
    exact ((M.along_append.mp h).2 t run u taken).1
  · intro h
    induction ls generalizing s with
    | nil => trivial
    | cons l ls ih =>
        intro t taken
        refine ⟨h [] l ls s t rfl rfl taken, ih fun before m after u v same run next => ?_⟩
        refine h (l :: before) m after u v (congrArg _ same) ?_ next
        rw [M.run_cons, taken]
        exact run

/-- Conditions that agree on every step that is taken agree along every run. -/
theorem along_congr {cond cond' : σ → ι → Prop}
    (h : ∀ s l t, M.step s l = some t → (cond s l ↔ cond' s l)) {s : σ} {ls : List ι} :
    M.Along cond s ls ↔ M.Along cond' s ls := by
  induction ls generalizing s with
  | nil => exact Iff.rfl
  | cons l ls ih =>
      refine forall_congr' fun t => forall_congr' fun ht => ?_
      rw [h s l t ht, ih]

/-- A condition on the labels alone. -/
theorem along_of_mem {cond : σ → ι → Prop} {ls : List ι} (h : ∀ l ∈ ls, ∀ s, cond s l) (s : σ) :
    M.Along cond s ls := by
  induction ls generalizing s with
  | nil => trivial
  | cons l ls ih =>
      intro t _
      exact ⟨h l List.mem_cons_self s, ih (fun m mem => h m (List.mem_cons_of_mem l mem)) t⟩

theorem along_of_forall {cond : σ → ι → Prop} (h : ∀ s l, cond s l) (s : σ) (ls : List ι) :
    M.Along cond s ls :=
  M.along_of_mem (fun l _ s => h s l) s

/-- Conditions that agree in the states of an invariant agree along every guarded run
that starts in one. -/
theorem along_congr_of_along {guard cond cond' : σ → ι → Prop} (Inv : σ → Prop)
    (hinv : ∀ s l t, Inv s → guard s l → M.step s l = some t → Inv t)
    (h : ∀ s l t, Inv s → guard s l → M.step s l = some t → (cond s l ↔ cond' s l))
    {s : σ} {ls : List ι} (hs : Inv s) (hguard : M.Along guard s ls) :
    M.Along cond s ls ↔ M.Along cond' s ls := by
  induction ls generalizing s with
  | nil => exact Iff.rfl
  | cons l ls ih =>
      refine forall_congr' fun t => forall_congr' fun ht => ?_
      obtain ⟨hg, hguards⟩ := hguard t ht
      rw [h s l t hs hg ht, ih (hinv s l t hs hg ht) hguards]

/-- **The exactness rule within a guard.**  On the runs whose steps meet `guard`, a
property holds throughout exactly when all steps meet `cond` as well.  The invariant
has to survive only those steps that lead from a good state to a good state. -/
theorem throughout_iff_along_of_along {guard cond : σ → ι → Prop} (Inv : σ → Prop)
    {P : σ → Prop}
    (hinv : ∀ s l t, Inv s → guard s l → P s → M.step s l = some t → P t → Inv t)
    (hgood : ∀ s l t, Inv s → guard s l → P s → M.step s l = some t → (P t ↔ cond s l))
    {s : σ} {ls : List ι} (hs : Inv s) (hP : P s) (hguard : M.Along guard s ls) :
    M.Throughout P s ls ↔ M.Along cond s ls := by
  induction ls generalizing s with
  | nil => simp [Throughout, Along, hP]
  | cons l ls ih =>
      constructor
      · intro h t ht
        obtain ⟨hg, hguards⟩ := hguard t ht
        have hrest : M.Throughout P t ls := h.2 t ht
        have hPt : P t := hrest.head
        exact ⟨(hgood s l t hs hg hP ht).mp hPt,
          (ih (hinv s l t hs hg hP ht hPt) hPt hguards).mp hrest⟩
      · intro h
        refine ⟨hP, fun t ht => ?_⟩
        obtain ⟨hg, hguards⟩ := hguard t ht
        obtain ⟨hcond, hrest⟩ := h t ht
        have hPt : P t := (hgood s l t hs hg hP ht).mpr hcond
        exact (ih (hinv s l t hs hg hP ht hPt) hPt hguards).mpr hrest

/-- **The exactness rule** for all runs. -/
theorem throughout_iff_along {cond : σ → ι → Prop} (Inv : σ → Prop) {P : σ → Prop}
    (hinv : ∀ s l t, Inv s → P s → M.step s l = some t → P t → Inv t)
    (hgood : ∀ s l t, Inv s → P s → M.step s l = some t → (P t ↔ cond s l))
    {s : σ} {ls : List ι} (hs : Inv s) (hP : P s) :
    M.Throughout P s ls ↔ M.Along cond s ls :=
  M.throughout_iff_along_of_along Inv (fun s l t hs _ => hinv s l t hs)
    (fun s l t hs _ => hgood s l t hs) hs hP (M.along_of_forall (fun _ _ => trivial) s ls)

/-- **The component rule.**  When every step of `M` is, in the part of the state that
belongs to a component, a run of that component, so is every run. -/
theorem run_component {σ' ι' : Type*} {M' : Machine σ' ι'} (part : σ → σ')
    (labels : ι → List ι')
    (hstep : ∀ s l t, M.step s l = some t → M'.run (part s) (labels l) = some (part t))
    {s t : σ} {ls : List ι} (hrun : M.run s ls = some t) :
    M'.run (part s) (ls.flatMap labels) = some (part t) := by
  induction ls generalizing s with
  | nil =>
      obtain rfl : s = t := Option.some.inj hrun
      rfl
  | cons l ls ih =>
      obtain ⟨u, hu, hrest⟩ := Option.bind_eq_some_iff.mp hrun
      rw [List.flatMap_cons, M'.run_append, hstep s l u hu, Option.bind_some, ih hrest]

/-! ## Histories and conservation -/

section Collect

variable {α : Type*}

/-- What `f` extracts from the steps of the run, one after the other. -/
def collect (f : σ → ι → List α) : σ → List ι → List α
  | _, [] => []
  | s, l :: ls =>
      match M.step s l with
      | none => []
      | some t => f s l ++ collect f t ls

theorem collect_cons_of_step {f : σ → ι → List α} {s t : σ} {l : ι} {ls : List ι}
    (hstep : M.step s l = some t) :
    M.collect f s (l :: ls) = f s l ++ M.collect f t ls := by
  simp [collect, hstep]

/-- What does not depend on the states is extracted from the events. -/
theorem collect_eq_flatMap {f : ι → List α} {s t : σ} {ls : List ι} (run : M.run s ls = some t) :
    M.collect (fun _ => f) s ls = ls.flatMap f := by
  induction ls generalizing s with
  | nil => rfl
  | cons l ls ih =>
      rw [run_cons] at run
      obtain ⟨u, step, rest⟩ := Option.bind_eq_some_iff.mp run
      rw [M.collect_cons_of_step step, ih rest, List.flatMap_cons]

/-- **Conservation.**  If every guarded step moves items from what arrives to
what is taken through `contents`, first in first out, then so does the run:
nothing is lost, duplicated or reordered. -/
theorem conservation {cond : σ → ι → Prop} (Inv : σ → Prop) {contents : σ → List α}
    {arrived taken : σ → ι → List α}
    (hstep : ∀ s l t, Inv s → cond s l → M.step s l = some t →
      Inv t ∧ contents s ++ arrived s l = taken s l ++ contents t)
    {s t : σ} {ls : List ι} (hs : Inv s) (hcond : M.Along cond s ls)
    (hrun : M.run s ls = some t) :
    contents s ++ M.collect arrived s ls = M.collect taken s ls ++ contents t := by
  induction ls generalizing s with
  | nil =>
      obtain rfl : s = t := Option.some.inj hrun
      simp [collect]
  | cons l ls ih =>
      obtain ⟨u, hu, hrest⟩ := Option.bind_eq_some_iff.mp hrun
      obtain ⟨hc, hrestCond⟩ := hcond u hu
      obtain ⟨hinv, hmove⟩ := hstep s l u hs hc hu
      rw [M.collect_cons_of_step hu, M.collect_cons_of_step hu, ← List.append_assoc,
        hmove, List.append_assoc, ih hinv hrestCond hrest, List.append_assoc]

/-- What every guarded step extracts has a property, so has all that the run extracts. -/
theorem forall_mem_collect {cond : σ → ι → Prop} (Inv : σ → Prop) {f : σ → ι → List α}
    {P : α → Prop}
    (hstep : ∀ s l t, Inv s → cond s l → M.step s l = some t → Inv t ∧ ∀ a ∈ f s l, P a)
    {s : σ} {ls : List ι} (hs : Inv s) (h : M.Along cond s ls) :
    ∀ a ∈ M.collect f s ls, P a := by
  induction ls generalizing s with
  | nil => exact fun a mem => absurd mem List.not_mem_nil
  | cons l ls ih =>
      intro a mem
      cases taken : M.step s l with
      | none => simp [collect, taken] at mem
      | some t =>
          obtain ⟨hcond, hrest⟩ := h t taken
          obtain ⟨hinv, extracted⟩ := hstep s l t hs hcond taken
          rw [M.collect_cons_of_step taken, List.mem_append] at mem
          exact mem.elim (extracted a) (ih hinv hrest a)

/-- Extracting in two stages. -/
theorem collect_flatMap {β : Type*} (f : σ → ι → List α) (g : α → List β) (s : σ)
    (ls : List ι) :
    M.collect (fun s l => (f s l).flatMap g) s ls = (M.collect f s ls).flatMap g := by
  induction ls generalizing s with
  | nil => rfl
  | cons l ls ih =>
      cases taken : M.step s l with
      | none => simp [collect, taken]
      | some t =>
          rw [M.collect_cons_of_step taken, M.collect_cons_of_step taken, List.flatMap_append, ih]

end Collect

/-! ## Evaluation -/

instance decidableAlong (cond : σ → ι → Prop) [∀ s l, Decidable (cond s l)] :
    ∀ (s : σ) (ls : List ι), Decidable (M.Along cond s ls)
  | _, [] => isTrue trivial
  | s, l :: ls =>
      match hstep : M.step s l with
      | none => isTrue fun t ht => by rw [hstep] at ht; cases ht
      | some t =>
          have := decidableAlong cond t ls
          decidable_of_iff _ (M.along_cons_of_step hstep).symm

end Machine

end SpectrogramServers
