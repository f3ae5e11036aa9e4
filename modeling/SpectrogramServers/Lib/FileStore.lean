import Mathlib.Logic.Function.Basic

/-!
# A directory and the programs that change it

A directory maps names to contents, `none` where there is no file.  The programs that
work on it are not modelled, only what they document.

* **A program that succeeds** has done with the names it was given what its manual says:
  `rm` has removed the file, `mv` has moved it, and a converter has left what it makes of
  its source.  It cannot have succeeded without a source that it can read.
* **A program that fails** may have done anything with these names, from nothing to
  half of its work, and what it has `left` there is a parameter.
* **No program touches a name that it was not given**, and this is the only thing that a
  caller who ignores the exit status can rely on.

Every program has two lemmas, for the names it is given and for all others.
-/

namespace SpectrogramServers

universe u v

/-- A directory. -/
abbrev Files (ν : Type u) (α : Type v) := ν → Option α

namespace Files

variable {ν : Type u} {α : Type v} [DecidableEq ν]

/-- A file is created, replaced or, with `none`, removed. -/
def put (files : Files ν α) (name : ν) (content : Option α) : Files ν α :=
  Function.update files name content

/-- `rm name`. -/
def rm (files : Files ν α) (name : ν) (succeeds : Bool) (left : Option α) : Files ν α :=
  files.put name (if succeeds then none else left)

/-- `mv source target`; if it fails, `left` is what is then under the two names. -/
def mv (files : Files ν α) (source target : ν) (succeeds : Bool)
    (left : Option α × Option α) : Files ν α :=
  match if succeeds then files source else none with
  | some content => (files.put target (some content)).put source none
  | none => (files.put target left.2).put source left.1

/-- A program that reads `source` and leaves its result as `target`; there are contents
that it cannot read. -/
def convert (f : α → Option α) (files : Files ν α) (source target : ν) (succeeds : Bool)
    (left : Option α) : Files ν α :=
  files.put target ((if succeeds then (files source).bind f else none).or left)

@[simp] theorem put_self (files : Files ν α) (name : ν) (content : Option α) :
    files.put name content name = content := Function.update_self _ _ _

@[simp] theorem put_of_ne (files : Files ν α) {name other : ν} (content : Option α)
    (h : other ≠ name) : files.put name content other = files other :=
  Function.update_of_ne h _ _

theorem rm_of_ne (files : Files ν α) {name other : ν} (succeeds : Bool) (left : Option α)
    (h : other ≠ name) : files.rm name succeeds left other = files other :=
  put_of_ne _ _ h

/-- What `mv` leaves under the new name, of a file that is there. -/
theorem mv_target {files : Files ν α} {source target : ν} {content : α}
    (there : files source = some content) (apart : target ≠ source) (succeeds : Bool)
    (left : Option α × Option α) :
    files.mv source target succeeds left target =
      if succeeds then some content else left.2 := by
  unfold mv
  cases succeeds with
  | true =>
      rw [if_pos rfl, if_pos rfl, there]
      exact (put_of_ne _ _ apart).trans (put_self _ _ _)
  | false => exact (put_of_ne _ _ apart).trans (put_self _ _ _)

theorem mv_of_ne (files : Files ν α) {source target other : ν} (succeeds : Bool)
    (left : Option α × Option α) (notSource : other ≠ source) (notTarget : other ≠ target) :
    files.mv source target succeeds left other = files other := by
  unfold mv
  cases if succeeds then files source else none with
  | some content => exact (put_of_ne _ _ notSource).trans (put_of_ne _ _ notTarget)
  | none => exact (put_of_ne _ _ notSource).trans (put_of_ne _ _ notTarget)

theorem convert_target (f : α → Option α) (files : Files ν α) (source target : ν)
    (succeeds : Bool) (left : Option α) :
    files.convert f source target succeeds left target =
      (if succeeds then (files source).bind f else none).or left :=
  put_self _ _ _

theorem convert_of_ne (f : α → Option α) (files : Files ν α) {source target other : ν}
    (succeeds : Bool) (left : Option α) (h : other ≠ target) :
    files.convert f source target succeeds left other = files other :=
  put_of_ne _ _ h

end Files

end SpectrogramServers
