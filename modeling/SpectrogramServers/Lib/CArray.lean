import Mathlib.Algebra.BigOperators.Fin
import Mathlib.Data.List.Basic
import Mathlib.Logic.Function.Basic

/-!
# Bounds-checked C arrays and counted loops

Code that fills arrays in nested loops is modelled in the `Option` monad: every
read, write and block copy checks its indices against the extent of the array,
and a program that runs out of bounds is `none`.  So a theorem that a program
*succeeds* says, among other things, that no index it used was out of bounds.

* `CArray α n` — `n` cells of type `α`; `get?`, `set?`, `move?` are the checked
  operations, with one lemma each saying what can be read afterwards.
* `CArray.slice` — a range of cells as a list.
* `forUp` — the loop `for (i = lo; i < lo + count; i++)`.
* `CArray.Holds`, `CArray.HoldsPairs` — the first cells of an array are the first
  values of a sequence, or of a sequence of pairs stored one after the other.
* `Succeeds m Q` — the program `m` succeeds and its result satisfies `Q`.  The
  rules `Succeeds.bind`, `CArray.succeeds_get?`, `CArray.succeeds_set?` and the
  loop rule `succeeds_forUp`, with its instances for a running sum
  (`forUp_sum`) and for filling an array (`CArray.succeeds_fill`), are all
  that proofs about programs use.
-/

namespace SpectrogramServers

universe u v w

/-! ## Programs that succeed -/

/-- The program succeeds, with a result that satisfies `Q`. -/
def Succeeds {α : Type u} (m : Option α) (Q : α → Prop) : Prop :=
  ∃ a, m = some a ∧ Q a

namespace Succeeds

variable {α : Type u} {β : Type v}

theorem pure {Q : α → Prop} {a : α} (h : Q a) : Succeeds (some a) Q := ⟨a, rfl, h⟩

theorem mono {m : Option α} {P Q : α → Prop} (h : Succeeds m P) (sub : ∀ a, P a → Q a) :
    Succeeds m Q := by
  obtain ⟨a, hm, ha⟩ := h
  exact ⟨a, hm, sub a ha⟩

/-- The rule for sequencing. -/
theorem bind {m : Option α} {f : α → Option β} {P : α → Prop} {Q : β → Prop}
    (h : Succeeds m P) (hf : ∀ a, P a → Succeeds (f a) Q) : Succeeds (m.bind f) Q := by
  obtain ⟨a, rfl, ha⟩ := h
  exact hf a ha

end Succeeds

/-- A step whose result is already known is sequenced by rewriting. -/
theorem succeeds_bind_of_eq {α : Type u} {β : Type v} {m : Option α} {a : α}
    {f : α → Option β} {Q : β → Prop} (hm : m = some a) (h : Succeeds (f a) Q) :
    Succeeds (m.bind f) Q := by
  rw [hm]
  exact h

/-! ## Counted loops -/

/-- `for (i = lo; i < lo + count; i++)`, with `s` the variables the body
changes. -/
def forUp {σ : Type u} (body : ℕ → σ → Option σ) : ℕ → ℕ → σ → Option σ
  | _, 0, s => some s
  | lo, count + 1, s => (body lo s).bind (forUp body (lo + 1) count)

/-- **The loop rule.**  An invariant that the body takes from `i` to `i + 1`
holds after the loop at the upper bound. -/
theorem succeeds_forUp {σ : Type u} {body : ℕ → σ → Option σ} (Inv : ℕ → σ → Prop)
    {lo count : ℕ} {s : σ} (init : Inv lo s)
    (step : ∀ i s, lo ≤ i → i < lo + count → Inv i s →
      Succeeds (body i s) (Inv (i + 1))) :
    Succeeds (forUp body lo count s) (Inv (lo + count)) := by
  induction count generalizing lo s with
  | zero => exact .pure init
  | succ count ih =>
      refine (step lo s (Nat.le_refl lo) (by omega) init).bind fun t ht => ?_
      have rest := ih ht fun i u hlo hhi hu => step i u (by omega) (by omega) hu
      rwa [Nat.add_right_comm, Nat.add_assoc] at rest

/-- A loop from 0. -/
theorem succeeds_forUp_zero {σ : Type u} {body : ℕ → σ → Option σ} (Inv : ℕ → σ → Prop)
    {count : ℕ} {s : σ} (init : Inv 0 s)
    (step : ∀ i s, i < count → Inv i s → Succeeds (body i s) (Inv (i + 1))) :
    Succeeds (forUp body 0 count s) (Inv count) := by
  have loop := succeeds_forUp Inv init fun i s _ hi hs =>
    step i s (by simpa using hi) hs
  rwa [Nat.zero_add] at loop

/-- A loop that starts at `lo` is the loop from 0 with `lo` added. -/
theorem forUp_eq_forUp_zero {σ : Type u} (body : ℕ → σ → Option σ) (lo count : ℕ) (s : σ) :
    forUp body lo count s = forUp (fun i => body (lo + i)) 0 count s := by
  have shifted : ∀ k, forUp body (lo + k) count s =
      forUp (fun i => body (lo + i)) k count s := by
    induction count generalizing s with
    | zero => intro k; rfl
    | succ count ih =>
        intro k
        unfold forUp
        congr 1
        funext t
        exact ih t (k + 1)
  exact shifted 0

/-- What the body keeps, a loop that succeeds has kept. -/
theorem forUp_preserves {σ : Type u} {body : ℕ → σ → Option σ} (P : σ → Prop)
    (step : ∀ i s t, body i s = some t → P s → P t) {lo count : ℕ} {s t : σ}
    (run : forUp body lo count s = some t) (h : P s) : P t := by
  induction count generalizing lo s with
  | zero =>
      obtain rfl : s = t := Option.some.inj run
      exact h
  | succ count ih =>
      obtain ⟨u, first, rest⟩ := Option.bind_eq_some_iff.mp run
      exact ih rest (step lo s u first h)

/-- A loop whose body adds `f i` computes the sum of the `f i`. -/
theorem forUp_sum {M : Type u} [AddCommMonoid M] {count : ℕ} {body : ℕ → M → Option M}
    (f : Fin count → M) (step : ∀ (i : Fin count) s, body i s = some (s + f i)) (s : M) :
    forUp body 0 count s = some (s + ∑ i, f i) := by
  have loop : Succeeds (forUp body 0 count s) fun t =>
      t = s + ∑ i ∈ Finset.range count, if h : i < count then f ⟨i, h⟩ else 0 := by
    refine succeeds_forUp_zero (fun i (t : M) =>
      t = s + ∑ j ∈ Finset.range i, if h : j < count then f ⟨j, h⟩ else 0)
      (by simp) fun i t hi ht => ⟨_, step ⟨i, hi⟩ t, ?_⟩
    rw [ht, Finset.sum_range_succ, dif_pos hi, add_assoc]
  obtain ⟨total, run, rfl⟩ := loop
  rw [run, Finset.sum_range]
  simp

/-! ## Arrays -/

/-- A C array of `n` cells. -/
abbrev CArray (α : Type u) (n : ℕ) := Fin n → α

namespace CArray

variable {α : Type u} {m n : ℕ}

/-- `a[i]`, checked. -/
def get? (a : CArray α n) (i : ℕ) : Option α :=
  if h : i < n then some (a ⟨i, h⟩) else none

/-- `a[i] = x`, checked. -/
def set? (a : CArray α n) (i : ℕ) (x : α) : Option (CArray α n) :=
  if h : i < n then some (Function.update a ⟨i, h⟩ x) else none

/-- `memmove(&dst[d], &src[s], len)` in cells, with both ranges checked. -/
def move? (dst : CArray α n) (d : ℕ) (src : CArray α m) (s len : ℕ) :
    Option (CArray α n) :=
  if s + len ≤ m ∧ d + len ≤ n then
    some fun i =>
      if d ≤ i ∧ i < d + len then (src.get? (s + (i - d))).getD (dst i) else dst i
  else none

/-- The cells `a[i], …, a[i + len - 1]` that exist. -/
def slice (a : CArray α n) (i : ℕ) : ℕ → List α
  | 0 => []
  | len + 1 => a.slice i len ++ (a.get? (i + len)).toList

theorem get?_of_lt (a : CArray α n) {i : ℕ} (h : i < n) : a.get? i = some (a ⟨i, h⟩) :=
  dif_pos h

theorem get?_fin (a : CArray α n) (i : Fin n) : a.get? i = some (a i) :=
  a.get?_of_lt i.isLt

theorem get?_eq_none (a : CArray α n) {i : ℕ} (h : n ≤ i) : a.get? i = none :=
  dif_neg (Nat.not_lt.mpr h)

/-- Reading inside the bounds succeeds. -/
theorem succeeds_get? (a : CArray α n) {i : ℕ} (h : i < n) :
    Succeeds (a.get? i) fun x => a.get? i = some x :=
  ⟨a ⟨i, h⟩, a.get?_of_lt h, a.get?_of_lt h⟩

/-- Writing inside the bounds succeeds and changes the one cell. -/
theorem succeeds_set? (a : CArray α n) {i : ℕ} (x : α) (h : i < n) :
    Succeeds (a.set? i x) fun b =>
      ∀ j, b.get? j = if j = i then some x else a.get? j := by
  refine ⟨_, dif_pos h, fun j => ?_⟩
  by_cases inside : j < n
  · rw [get?_of_lt _ inside, get?_of_lt a inside]
    by_cases same : j = i
    · subst same
      simp
    · have other : (⟨j, inside⟩ : Fin n) ≠ ⟨i, h⟩ := fun eq => same (congrArg Fin.val eq)
      rw [Function.update_of_ne other, if_neg same]
  · have different : j ≠ i := fun eq => inside (eq ▸ h)
    rw [get?_eq_none _ (Nat.not_lt.mp inside), get?_eq_none a (Nat.not_lt.mp inside),
      if_neg different]

/-- The same as what is in the cell and what is in the others. -/
theorem succeeds_set?_cell (a : CArray α n) {i : ℕ} (x : α) (h : i < n) :
    Succeeds (a.set? i x) fun b =>
      b.get? i = some x ∧ ∀ j, j ≠ i → b.get? j = a.get? j := by
  refine (a.succeeds_set? x h).mono fun b hb => ⟨?_, fun j other => ?_⟩
  · rw [hb, if_pos rfl]
  · rw [hb, if_neg other]

/-- A block copy inside the bounds succeeds; the source is read before it is
overwritten. -/
theorem succeeds_move? (dst : CArray α n) (src : CArray α m) (d s len : ℕ)
    (source : s + len ≤ m) (target : d + len ≤ n) :
    Succeeds (dst.move? d src s len) fun b =>
      ∀ j, b.get? j =
        if d ≤ j ∧ j < d + len then src.get? (s + (j - d)) else dst.get? j := by
  refine ⟨_, if_pos ⟨source, target⟩, fun j => ?_⟩
  by_cases copied : d ≤ j ∧ j < d + len
  · have inside : j < n := by omega
    have sourceInside : s + (j - d) < m := by omega
    rw [get?_of_lt _ inside, if_pos copied, get?_of_lt src sourceInside]
    simp [copied]
  · rw [if_neg copied]
    by_cases inside : j < n
    · rw [get?_of_lt _ inside, get?_of_lt dst inside]
      simp [copied]
    · rw [get?_eq_none _ (Nat.not_lt.mp inside), get?_eq_none dst (Nat.not_lt.mp inside)]

/-! ## Arrays that hold a sequence -/

/-- The first `len` cells are `f 0, …, f (len - 1)`. -/
def Holds (a : CArray α n) (len : ℕ) (f : ℕ → α) : Prop :=
  ∀ i, i < len → a.get? i = some (f i)

/-- The first `2 * len` cells are the pairs `w 0, …, w (len - 1)`, the two parts of
a pair next to each other. -/
def HoldsPairs (a : CArray α n) (len : ℕ) (w : ℕ → α × α) : Prop :=
  ∀ k, k < len → a.get? (2 * k) = some (w k).1 ∧ a.get? (2 * k + 1) = some (w k).2

/-- The array that holds a sequence of pairs. -/
def ofPairs (w : ℕ → α × α) : CArray α n := fun i =>
  if (i : ℕ) % 2 = 0 then (w (i / 2)).1 else (w (i / 2)).2

theorem holdsPairs_ofPairs (w : ℕ → α × α) {len : ℕ} (h : 2 * len ≤ n) :
    (ofPairs w : CArray α n).HoldsPairs len w := by
  intro k hk
  have first : 2 * k / 2 = k := by omega
  have second : (2 * k + 1) / 2 = k := by omega
  have odd : (2 * k + 1) % 2 ≠ 0 := by omega
  rw [get?_of_lt _ (by omega), get?_of_lt _ (by omega), ofPairs, ofPairs]
  dsimp only
  rw [if_pos (Nat.mul_mod_right 2 k), if_neg odd, first, second]
  exact ⟨rfl, rfl⟩

/-- Every array is the beginning of some sequence of pairs. -/
theorem exists_holdsPairs [Inhabited α] (a : CArray α n) (len : ℕ) (h : 2 * len ≤ n) :
    ∃ w, a.HoldsPairs len w := by
  refine ⟨fun k => ((a.get? (2 * k)).getD default, (a.get? (2 * k + 1)).getD default), ?_⟩
  intro k hk
  have even := a.get?_of_lt (by omega : 2 * k < n)
  have odd := a.get?_of_lt (by omega : 2 * k + 1 < n)
  simp [even, odd]

theorem Holds.cell {a : CArray α n} {len : ℕ} {f : ℕ → α} (h : a.Holds len f) (i : Fin n)
    (inside : (i : ℕ) < len) : a i = f i :=
  Option.some.inj ((a.get?_fin i).symm.trans (h i inside))

/-- The next cell of a sequence is written. -/
theorem Holds.set {a b : CArray α n} {i : ℕ} {f : ℕ → α} (h : a.Holds i f)
    (written : ∀ j, b.get? j = if j = i then some (f i) else a.get? j) :
    b.Holds (i + 1) f := by
  intro j hj
  rw [written]
  rcases eq_or_ne j i with rfl | different
  · exact if_pos rfl
  · rw [if_neg different]
    exact h j (by omega)

/-- **Filling an array.**  If iteration `i` finds its own cell untouched, leaves
`f i` in it and changes no other cell, the loop leaves the sequence `f`. -/
theorem succeeds_fill {body : ℕ → CArray α n → Option (CArray α n)} (f : ℕ → α)
    {count : ℕ} (a : CArray α n)
    (step : ∀ i b, i < count → b.get? i = a.get? i → Succeeds (body i b) fun c =>
      c.get? i = some (f i) ∧ ∀ j, j ≠ i → c.get? j = b.get? j) :
    Succeeds (forUp body 0 count a) fun b => b.Holds count f := by
  have loop : Succeeds (forUp body 0 count a) fun b =>
      ∀ j, b.get? j = if j < count then some (f j) else a.get? j := by
    refine succeeds_forUp_zero
      (fun i (b : CArray α n) => ∀ j, b.get? j = if j < i then some (f j) else a.get? j)
      (by simp) ?_
    intro i b hi hb
    -- iteration `i` finds the cell as the loop found it
    have untouched : b.get? i = a.get? i := by rw [hb i, if_neg (lt_irrefl i)]
    refine (step i b hi untouched).mono ?_
    rintro c ⟨written, others⟩ j
    rcases eq_or_ne j i with rfl | different
    · rw [written, if_pos (Nat.lt_succ_self j)]
    · rw [others j different, hb j]
      have same : j < i + 1 ↔ j < i := by omega
      rw [if_congr same rfl rfl]
  refine loop.mono fun b hb i hi => ?_
  rw [hb i, if_pos hi]

/-- The loop that fills an array of pairs. -/
theorem succeeds_fillPairs {body : ℕ → CArray α n → Option (CArray α n)} (w : ℕ → α × α)
    {count : ℕ} (a : CArray α n)
    (step : ∀ k b, k < count → Succeeds (body k b) fun c =>
      c.get? (2 * k) = some (w k).1 ∧ c.get? (2 * k + 1) = some (w k).2 ∧
        ∀ j, j < 2 * k → c.get? j = b.get? j) :
    Succeeds (forUp body 0 count a) fun b => b.HoldsPairs count w := by
  refine succeeds_forUp_zero (fun i (b : CArray α n) => b.HoldsPairs i w)
    (fun k hk => absurd hk (Nat.not_lt_zero k)) ?_
  intro i b hi hb
  refine (step i b hi).mono ?_
  rintro c ⟨first, second, earlier⟩ k hk
  rcases eq_or_ne k i with rfl | different
  · exact ⟨first, second⟩
  · have before : k < i := by omega
    rw [earlier (2 * k) (by omega), earlier (2 * k + 1) (by omega)]
    exact hb k before

/-! ## Slices -/

@[simp] theorem slice_zero (a : CArray α n) (i : ℕ) : a.slice i 0 = [] := rfl

theorem slice_succ (a : CArray α n) (i len : ℕ) :
    a.slice i (len + 1) = a.slice i len ++ (a.get? (i + len)).toList := rfl

theorem slice_append (a : CArray α n) (i k l : ℕ) :
    a.slice i (k + l) = a.slice i k ++ a.slice (i + k) l := by
  induction l with
  | zero => simp
  | succ l ih => rw [← Nat.add_assoc, slice_succ, ih, slice_succ, List.append_assoc,
      Nat.add_assoc]

theorem mem_slice_iff {a : CArray α n} {i len : ℕ} {x : α} :
    x ∈ a.slice i len ↔ ∃ k, k < len ∧ a.get? (i + k) = some x := by
  induction len with
  | zero => simp
  | succ len ih =>
      rw [slice_succ, List.mem_append, ih, Option.mem_toList]
      constructor
      · rintro (⟨k, hk, cell⟩ | last)
        · exact ⟨k, Nat.lt_succ_of_lt hk, cell⟩
        · exact ⟨len, Nat.lt_succ_self len, last⟩
      · rintro ⟨k, hk, cell⟩
        rcases Nat.lt_succ_iff_lt_or_eq.mp hk with before | rfl
        · exact Or.inl ⟨k, before, cell⟩
        · exact Or.inr cell

/-- A slice depends on its cells only. -/
theorem slice_congr {a : CArray α n} {b : CArray α m} {i j len : ℕ}
    (cells : ∀ k, k < len → a.get? (i + k) = b.get? (j + k)) :
    a.slice i len = b.slice j len := by
  induction len with
  | zero => rfl
  | succ len ih =>
      rw [slice_succ, slice_succ, ih fun k hk => cells k (by omega),
        cells len (Nat.lt_succ_self len)]

theorem length_slice (a : CArray α n) {i len : ℕ} (h : i + len ≤ n) :
    (a.slice i len).length = len := by
  induction len with
  | zero => rfl
  | succ len ih =>
      rw [slice_succ, List.length_append, ih (by omega), a.get?_of_lt (by omega)]
      rfl

theorem getElem?_slice (a : CArray α n) {i len k : ℕ} (h : i + len ≤ n) (hk : k < len) :
    (a.slice i len)[k]? = a.get? (i + k) := by
  induction len with
  | zero => exact absurd hk (Nat.not_lt_zero k)
  | succ len ih =>
      have length : (a.slice i len).length = len := a.length_slice (by omega)
      rw [slice_succ, a.get?_of_lt (i := i + len) (by omega), Option.toList_some]
      rcases Nat.lt_or_ge k len with before | behind
      · rw [List.getElem?_append_left (by omega), ih (by omega) before]
      · obtain rfl : k = len := by omega
        rw [List.getElem?_append_right length.le, length, Nat.sub_self, a.get?_of_lt (by omega)]
        rfl

end CArray

end SpectrogramServers
