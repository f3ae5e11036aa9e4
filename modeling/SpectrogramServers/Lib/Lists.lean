import Mathlib.Data.List.Nodup
import Mathlib.Data.List.Range
import Mathlib.Data.List.TakeWhile

/-!
# Lists

Facts about lists that the developments above need in more than one place and that are in
no library in this form.  They are of four kinds.

* **Lists without repetitions** that grow at the end and lose entries by position: a table
  of connections or of waiting requests.  Erasing a position is then erasing a value
  (`eraseIdx_eq_filter`), and an entry keeps its place when others are appended.
* **Lists computed from their positions**, `firsts f n` for the first `n` values of a
  sequence.  They are prefixes of each other and split where a sum does (`firsts_add`).
* **What stands before an entry**, `l.takeWhile (· ≠ c)`: the clients in front of one in a
  queue.  Removing another one never adds to it.
* **Entries seen through a function** that need not be injective: which entry a search by
  value meets, and when removing the first match removes the right one
  (`map_eq_cons_erase_iff`, `idxOf_map_eq_iff`).
-/

namespace SpectrogramServers

universe u v

variable {α : Type u}

/-- A new value goes to the end of a list without repetitions. -/
theorem nodup_append_singleton {l : List α} {a : α} (nodup : l.Nodup) (new : a ∉ l) :
    (l ++ [a]).Nodup := by
  rw [← List.concat_eq_append]
  exact .concat new nodup

/-- An entry that exists stays where it is when others are appended. -/
theorem getElem?_append_of_some {l : List α} {i : ℕ} {a : α} (h : l[i]? = some a)
    (m : List α) : (l ++ m)[i]? = some a := by
  rw [List.getElem?_append_left (List.getElem?_eq_some_iff.mp h).1, h]

/-- The values under a key, when a pair is appended. -/
theorem map_snd_filter_append {κ : Type v} [DecidableEq κ] (l : List (κ × α)) (k : κ) (a : α)
    (key : κ) :
    ((l ++ [(k, a)]).filter fun entry => entry.1 = key).map Prod.snd =
      if key = k then (l.filter fun entry => entry.1 = key).map Prod.snd ++ [a]
      else (l.filter fun entry => entry.1 = key).map Prod.snd := by
  rw [List.filter_append, List.map_append]
  by_cases same : key = k
  · subst same
    simp
  · have other : ¬ k = key := fun eq => same eq.symm
    simp [same, other]

/-- One more entry is looked at. -/
theorem filterMap_take_succ {β : Type v} (f : α → Option β) {l : List α} {n : ℕ} {a : α}
    (next : l[n]? = some a) :
    (l.take (n + 1)).filterMap f = (l.take n).filterMap f ++ (f a).toList := by
  rw [List.take_add_one, next, Option.toList_some, List.filterMap_append, List.filterMap_cons,
    List.filterMap_nil]
  cases f a with
  | none => rfl
  | some b => rfl

/-- In a list without repetitions, erasing a position removes its value. -/
theorem eraseIdx_eq_filter [DecidableEq α] {l : List α} (distinct : l.Nodup) {i : ℕ} {a : α}
    (at_i : l[i]? = some a) : l.eraseIdx i = l.filter fun b => b ≠ a := by
  induction l generalizing i with
  | nil => cases at_i
  | cons b l ih =>
      obtain ⟨fresh, distinct⟩ := List.nodup_cons.mp distinct
      cases i with
      | zero =>
          obtain rfl : b = a := Option.some.inj at_i
          have others : ∀ c ∈ l, decide (c ≠ b) = true := fun c member =>
            decide_eq_true fun same => fresh (same ▸ member)
          rw [List.eraseIdx_cons_zero, List.filter_cons_of_neg (by simp),
            List.filter_eq_self.mpr others]
      | succ i =>
          have other : b ≠ a := fun same =>
            fresh (same ▸ List.mem_of_getElem? (show l[i]? = some a from at_i))
          rw [List.eraseIdx_cons_succ, List.filter_cons_of_pos (by simpa using other),
            ih distinct at_i]

/-- A list with two entries in place of one. -/
theorem getElem?_mended {l : List α} {n i : ℕ} (a b : α) (inside : i < l.length)
    (hole : i ≠ n) :
    (l.take n ++ [a, b] ++ l.drop (n + 1))[if i < n then i else i + 1]? = l[i]? := by
  rcases lt_or_gt_of_ne hole with before | behind
  · have front : i < (l.take n).length := by rw [List.length_take]; omega
    rw [if_pos before, List.append_assoc, List.getElem?_append_left front,
      List.getElem?_take_of_lt before]
  · have front : (l.take n ++ [a, b]).length = n + 2 := by
      rw [List.length_append, List.length_take_of_le (by omega)]
      rfl
    rw [if_neg (Nat.lt_asymm behind), List.getElem?_append_right (by omega), front,
      List.getElem?_drop]
    congr 1
    omega

theorem map_range_succ (f : ℕ → α) (n : ℕ) :
    (List.range (n + 1)).map f = f 0 :: (List.range n).map fun k => f (k + 1) := by
  rw [List.range_succ_eq_map, List.map_cons, List.map_map]
  rfl

/-- The first `n` values of a sequence. -/
def firsts (f : ℕ → α) (n : ℕ) : List α := (List.range n).map f

/-- There are `n` of them. -/
@[simp] theorem length_firsts (f : ℕ → α) (n : ℕ) : (firsts f n).length = n := by
  rw [firsts, List.length_map, List.length_range]

theorem length_flatMap_firsts {β : Type v} (l : List β) (f : β → ℕ → α) (n : ℕ) :
    (l.flatMap fun b => firsts (f b) n).length = l.length * n := by
  induction l with
  | nil => rw [List.flatMap_nil, List.length_nil, List.length_nil, Nat.zero_mul]
  | cons b l ih =>
      rw [List.flatMap_cons, List.length_append, length_firsts, ih, List.length_cons,
        Nat.succ_mul, Nat.add_comm]

theorem firsts_succ (f : ℕ → α) (n : ℕ) :
    firsts f (n + 1) = f 0 :: firsts (fun k => f (k + 1)) n := map_range_succ f n

/-- The first `m + n` values are the first `m`, and then the first `n` of the rest. -/
theorem firsts_add (f : ℕ → α) (m n : ℕ) :
    firsts f (m + n) = firsts f m ++ firsts (fun k => f (m + k)) n := by
  rw [firsts, List.range_add, List.map_append, List.map_map]
  rfl

/-- Fewer values are a beginning of more. -/
theorem firsts_isPrefix_of_le (f : ℕ → α) {m n : ℕ} (le : m ≤ n) : firsts f m <+: firsts f n := by
  obtain ⟨k, rfl⟩ := Nat.exists_eq_add_of_le le
  rw [firsts_add]
  exact List.prefix_append _ _

/-! ## The entries before the first one of a kind -/

section TakeWhile

variable [DecidableEq α]

/-- What comes after an entry does not matter for what stands before it. -/
theorem takeWhile_append_of_mem {l : List α} {c : α} (mem : c ∈ l) (m : List α) :
    (l ++ m).takeWhile (· ≠ c) = l.takeWhile (· ≠ c) := by
  induction l with
  | nil => cases mem
  | cons d l ih =>
      by_cases same : d = c
      · subst same
        simp
      · have later : c ∈ l := (List.mem_cons.mp mem).resolve_left (Ne.symm same)
        rw [List.cons_append, List.takeWhile_cons_of_pos (by simpa using same),
          List.takeWhile_cons_of_pos (by simpa using same), ih later]

theorem takeWhile_of_not_mem {l : List α} {c : α} (notMem : c ∉ l) :
    l.takeWhile (· ≠ c) = l :=
  List.takeWhile_eq_self_iff.mpr fun _ mem =>
    decide_eq_true fun same => notMem (same ▸ mem)

/-- Before a new last entry stands the whole list. -/
theorem takeWhile_append_self {l : List α} {c : α} (notMem : c ∉ l) :
    (l ++ [c]).takeWhile (· ≠ c) = l.takeWhile (· ≠ c) := by
  have others : ∀ d ∈ l, decide (d ≠ c) = true := fun d mem =>
    decide_eq_true fun same => notMem (same ▸ mem)
  rw [List.takeWhile_append_of_pos others, takeWhile_of_not_mem notMem]
  simp

/-- Erasing another value adds nothing before `d`. -/
theorem length_takeWhile_erase_le (l : List α) {c d : α} (other : c ≠ d) :
    ((l.erase c).takeWhile (· ≠ d)).length ≤ (l.takeWhile (· ≠ d)).length := by
  induction l with
  | nil => exact Nat.le_refl _
  | cons x l ih =>
      by_cases head : x = c
      · subst head
        rw [List.erase_cons_head, List.takeWhile_cons_of_pos (by simpa using other),
          List.length_cons]
        exact Nat.le_succ _
      · rw [List.erase_cons_tail (by simpa using head)]
        by_cases stop : x = d
        · subst stop
          simp
        · rw [List.takeWhile_cons_of_pos (by simpa using stop),
            List.takeWhile_cons_of_pos (by simpa using stop), List.length_cons,
            List.length_cons]
          exact Nat.succ_le_succ ih

variable {β : Type v} (f : α → β)

/-- Removing the first value of `f` is removing that of `c` exactly when all values up to
that of `c` are equal. -/
theorem map_eq_cons_erase_iff {l : List α} {c : α} (mem : c ∈ l) :
    l.map f = f c :: (l.erase c).map f ↔ ∀ d ∈ l.takeWhile (· ≠ c), f d = f c := by
  induction l with
  | nil => cases mem
  | cons x xs ih =>
      by_cases same : x = c
      · subst same
        simp
      · have later : c ∈ xs := (List.mem_cons.mp mem).resolve_left (Ne.symm same)
        have erased : (x :: xs).erase c = x :: xs.erase c :=
          List.erase_cons_tail (by simpa using same)
        rw [erased, List.map_cons, List.map_cons, List.cons.injEq,
          List.takeWhile_cons_of_pos (by simpa using same), List.forall_mem_cons]
        -- the heads agree on both sides; what is left is the statement for `xs`
        refine and_congr_right fun equal => ?_
        rw [equal]
        exact ih later

/-- Erasing an entry is seen in the values of `f`, since there is one less. -/
theorem map_eq_map_erase_iff {l : List α} {c : α} : l.map f = (l.erase c).map f ↔ c ∉ l := by
  constructor
  · intro same mem
    have lengths := congrArg List.length same
    have positive := List.length_pos_of_mem mem
    rw [List.length_map, List.length_map, List.length_erase_of_mem mem] at lengths
    omega
  · intro notMem
    rw [List.erase_of_not_mem notMem]

/-- The value of `c` is met first at the place of `c` if no entry before has it. -/
theorem idxOf_map_eq_iff [DecidableEq β] {l : List α} {c : α} (mem : c ∈ l) :
    (l.map f).idxOf (f c) = (l.takeWhile (· ≠ c)).length ↔
      ∀ d ∈ l.takeWhile (· ≠ c), f d ≠ f c := by
  induction l with
  | nil => cases mem
  | cons d l ih =>
      by_cases same : d = c
      · subst same
        simp
      · have later : c ∈ l := (List.mem_cons.mp mem).resolve_left (Ne.symm same)
        rw [List.map_cons, List.takeWhile_cons_of_pos (by simpa using same), List.length_cons,
          List.forall_mem_cons]
        by_cases equal : f d = f c
        · rw [equal, List.idxOf_cons_self]
          exact iff_of_false (Nat.succ_ne_zero _).symm fun other => other.1 rfl
        · rw [List.idxOf_cons_ne _ equal, Nat.succ_inj, ih later]
          exact ⟨fun others => ⟨equal, others⟩, fun all => all.2⟩

end TakeWhile

theorem pairwise_append_singleton {R : α → α → Prop} {l : List α} {a : α} :
    (l ++ [a]).Pairwise R ↔ l.Pairwise R ∧ ∀ b ∈ l, R b a := by
  rw [List.pairwise_append]
  constructor
  · rintro ⟨old, -, new⟩
    exact ⟨old, fun b mem => new b mem a (List.mem_singleton_self a)⟩
  · rintro ⟨old, new⟩
    refine ⟨old, List.pairwise_singleton R a, fun b mem c last => ?_⟩
    rw [List.mem_singleton.mp last]
    exact new b mem

end SpectrogramServers
