import Mathlib.Order.Basic
import Mathlib.Tactic.Ring

/-!
# Windowed stages on streams

A stage of a signal pipeline turns a stream into a stream.  One that computes its output
`t` from a window of its input that starts at `D * t` commutes with shifts: starting `D *
m` samples later on the input is starting `m` samples later on the output
(`equivariant_of_window`).  Filters, decimators, differences of neighbours and everything
that works value by value are of this kind.

## Composition

Such stages compose, and their rates multiply (`Equivariant.comp`).  So a pipeline is
equivariant because its stages are, with nothing to be said about how far back its windows
reach in all.

## Blocks

This is all that *block-partition invariance* rests on (`Equivariant.block`): a pipeline
that takes `D` samples to one may be restarted at the block boundaries, as long as every
block starts with the samples its first windows reach back to.  Output `i` of block `b` is
then output `M * b + i` of the stream in one piece, and no block knows of another.

Streams are functions on the natural numbers.  A stream that has to begin with something,
the zeros of a cleared buffer or the samples of a warm-up, is a `delay` or is given by its
values.
-/

namespace SpectrogramServers

universe u v w

variable {α : Type u} {β : Type v} {γ : Type w}

/-- The stream from sample `m` on. -/
def shift (m : ℕ) (s : ℕ → α) : ℕ → α := fun i => s (m + i)

/-- The stream `m` samples later.  What comes before its sample `m` repeats the
first sample. -/
def delay (m : ℕ) (s : ℕ → α) : ℕ → α := fun i => s (i - m)

/-- `F` takes `D` samples to one and does not depend on where it is started. -/
def Equivariant (D : ℕ) (F : (ℕ → α) → ℕ → β) : Prop :=
  ∀ (m : ℕ) (s : ℕ → α), F (shift (D * m) s) = shift m (F s)

/-- A stage that looks at its input through a window is equivariant. -/
theorem equivariant_of_window {D : ℕ} {F : (ℕ → α) → ℕ → β} (g : (ℕ → α) → β)
    (window : ∀ s t, F s t = g (shift (D * t) s)) : Equivariant D F := by
  intro m s
  funext t
  unfold shift at window ⊢
  rw [window, window]
  congr 1
  funext i
  rw [Nat.mul_add, Nat.add_assoc]

namespace Equivariant

variable {D E : ℕ} {F : (ℕ → α) → ℕ → β} {G : (ℕ → β) → ℕ → γ}

/-- Rates multiply along a pipeline. -/
theorem comp (hG : Equivariant E G) (hF : Equivariant D F) :
    Equivariant (D * E) fun s => G (F s) := by
  intro m s
  calc G (F (shift (D * E * m) s))
      = G (F (shift (D * (E * m)) s)) := by rw [Nat.mul_assoc]
    _ = G (shift (E * m) (F s)) := by rw [hF]
    _ = shift m (G (F s)) := by rw [hG]

/-- **Block-partition invariance.**  With `D * M` samples to a block, output `i`
of block `b` is output `M * b + i` of the whole stream. -/
theorem block (hF : Equivariant D F) (M b i : ℕ) (s : ℕ → α) :
    F (shift (D * M * b) s) i = F s (M * b + i) := by
  rw [Nat.mul_assoc, hF]
  rfl

end Equivariant

end SpectrogramServers
