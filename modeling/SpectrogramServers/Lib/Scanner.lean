import Mathlib.Data.List.Basic

/-!
# Backtracking scanners

A scanner gives the ways in which a regular expression can match the beginning of a text,
in the order in which a backtracking matcher tries them: what was captured, and the rest
of the text.  A greedy option comes before the empty one, and `fullMatch` takes the first
way that leaves nothing, as a pattern that ends in `$` does.

This is the meaning of the expressions that date parsers are written in: sequences,
options, alternatives, classes of characters and counted digits, with groups that capture.
It is a list of all ways and not one function from texts to matches, since whether a later
part of the pattern matches decides which way an earlier part is taken.

## Following a match

`Finds` says what the first way is.  There is one rule for each combinator, so a text that
is meant to be matched without backtracking is followed by the rules alone, from the left
to the right, and at the end nothing is left (`fullMatch_of_finds`).  Where an option is
not taken, the rule asks that its scanner has no way at all, which for digits means that
there are too few (`digits_eq_nil`).
-/

namespace SpectrogramServers

universe u v

/-- The ways to match the beginning of a text. -/
def Scanner (α : Type u) : Type u := List Char → List (α × List Char)

namespace Scanner

variable {α : Type u} {β : Type v}

/-- The empty pattern, with a value for it. -/
def pure (a : α) : Scanner α := fun text => [(a, text)]

/-- One pattern after the other; what follows may depend on what was captured. -/
def bind (s : Scanner α) (f : α → Scanner β) : Scanner β := fun text =>
  (s text).flatMap fun way => f way.1 way.2

/-- `s|t`. -/
def orElse (s t : Scanner α) : Scanner α := fun text => s text ++ t text

/-- `s?`, greedy: the way that takes `s` comes first. -/
def optional (s : Scanner α) : Scanner (Option α) :=
  orElse (s.bind fun a => pure (some a)) (pure none)

/-- `[chars]`. -/
def oneOf (chars : List Char) : Scanner Char
  | [] => []
  | c :: text => if c ∈ chars then [(c, text)] else []

/-- `\d{n}`, with its value. -/
def digits (n : ℕ) : Scanner ℕ := fun text =>
  if n ≤ text.length ∧ (text.take n).all Char.isDigit then
    [(Nat.ofDigitChars 10 (text.take n) 0, text.drop n)]
  else []

/-- `\d+`, greedy: the longest way comes first, and at least one digit is taken. -/
def someDigits : Scanner Unit := fun text =>
  (List.range (text.takeWhile Char.isDigit).length).reverse.map fun n => ((), text.drop (n + 1))

/-- The match of the whole text. -/
def fullMatch (s : Scanner α) (text : List Char) : Option α :=
  ((s text).find? fun way => way.2.isEmpty).map Prod.fst

/-- The first way to match the beginning of `text` captures `a` and leaves `rest`. -/
def Finds (s : Scanner α) (text : List Char) (a : α) (rest : List Char) : Prop :=
  (s text).head? = some (a, rest)

/-- **A first way that leaves nothing is the match.** -/
theorem fullMatch_of_finds {s : Scanner α} {text : List Char} {a : α}
    (found : Finds s text a []) : fullMatch s text = some a := by
  obtain ⟨ways, first⟩ := List.head?_eq_some_iff.mp found
  rw [fullMatch, first]
  rfl

theorem finds_pure (a : α) (text : List Char) : Finds (pure a) text a text := rfl

/-- The rule of a sequence. -/
theorem finds_bind {s : Scanner α} {f : α → Scanner β} {text middle rest : List Char} {a : α}
    {b : β} (first : Finds s text a middle) (second : Finds (f a) middle b rest) :
    Finds (s.bind f) text b rest := by
  obtain ⟨ways, first⟩ := List.head?_eq_some_iff.mp first
  rw [Finds, bind, first, List.flatMap_cons, List.head?_append, second]
  rfl

theorem finds_orElse_left {s : Scanner α} {text rest : List Char} {a : α}
    (found : Finds s text a rest) (t : Scanner α) : Finds (s.orElse t) text a rest := by
  rw [Finds, orElse, List.head?_append, found]
  rfl

/-- The rule of an alternative whose first half cannot match. -/
theorem finds_orElse_right {s t : Scanner α} {text rest : List Char} {a : α}
    (fails : s text = []) (found : Finds t text a rest) : Finds (s.orElse t) text a rest := by
  rw [Finds, orElse, fails, List.nil_append]
  exact found

/-- The rule of an option that is taken. -/
theorem finds_optional {s : Scanner α} {text rest : List Char} {a : α}
    (found : Finds s text a rest) : Finds s.optional text (some a) rest :=
  finds_orElse_left (finds_bind found (finds_pure (some a) rest)) _

/-- The rule of an option that cannot be taken. -/
theorem finds_optional_none {s : Scanner α} {text : List Char} (fails : s text = []) :
    Finds s.optional text none text := by
  refine finds_orElse_right ?_ (finds_pure none text)
  rw [bind, fails, List.flatMap_nil]

/-- The rule of a class of characters. -/
theorem finds_oneOf {chars : List Char} {c : Char} (among : c ∈ chars) (text : List Char) :
    Finds (oneOf chars) (c :: text) c text := by
  rw [Finds, oneOf, if_pos among]
  rfl

theorem oneOf_eq_nil {chars : List Char} {c : Char} (outside : c ∉ chars) (text : List Char) :
    oneOf chars (c :: text) = [] := by
  rw [oneOf, if_neg outside]

/-- Digits are read to the last. -/
theorem finds_digits {ds : List Char} {n : ℕ} (length : ds.length = n)
    (all : ∀ c ∈ ds, c.isDigit = true) (text : List Char) :
    Finds (digits n) (ds ++ text) (Nat.ofDigitChars 10 ds 0) text := by
  subst length
  have long : ds.length ≤ (ds ++ text).length := by
    rw [List.length_append]
    omega
  rw [Finds, digits, List.take_left, List.drop_left, if_pos ⟨long, List.all_eq_true.mpr all⟩]
  rfl

/-- More digits than there are cannot be read. -/
theorem digits_eq_nil {ds : List Char} {c : Char} {n : ℕ} (few : ds.length < n)
    (other : c.isDigit = false) (text : List Char) : digits n (ds ++ c :: text) = [] := by
  obtain ⟨more, rfl⟩ : ∃ more, n = ds.length + (more + 1) := ⟨n - ds.length - 1, by omega⟩
  rw [digits, if_neg]
  rintro ⟨-, all⟩
  rw [List.take_length_add_append, List.take_succ_cons, List.all_append, List.all_cons, other,
    Bool.false_and, Bool.and_false] at all
  cases all

end Scanner

end SpectrogramServers
