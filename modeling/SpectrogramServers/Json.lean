import Mathlib.Data.List.Basic

/-!
# The JSON values the two servers send

Both servers build every message in an `nlohmann::json` variable, with nothing but
`clear()` and `j["key"] = value`, and send its `dump()`.  The same variable serves one
message after the other, so what the operations do to what is already there matters.

* A default constructed variable is `null`.  The first assignment through `operator[]`
  turns it into an object.
* `clear()` empties an object but leaves `null` alone.
* Objects are kept as `std::map` does, one entry per key and sorted by key, so an
  assignment to a key that exists replaces the value.

The values are the scalars that occur: truth values, numbers that are never negative, and
strings.  `dump()` is not modelled: the receiver decodes the text with a parser of the
same format, and what it finds under a key is `get?`.

The lemma that the handlers rest on is `set_clear`: after a `clear()` the history of the
variable is irrelevant, whether it was `null` or an object.
-/

namespace SpectrogramServers

/-- The scalars that occur as field values. -/
inductive JsonValue where
  | bool (b : Bool)
  | number (n : ℕ)
  | string (s : String)
  deriving DecidableEq, Repr

/-- The value of a variable: `null`, or an object with its fields sorted by key. -/
inductive Json where
  | null
  | object (fields : List (String × JsonValue))
  deriving DecidableEq, Repr

namespace Json

/-- Insertion into a `std::map`: an existing key is overwritten in place, and a new one
goes where the order of the keys wants it. -/
def insertField (key : String) (value : JsonValue) :
    List (String × JsonValue) → List (String × JsonValue)
  | [] => [(key, value)]
  | (k, v) :: fields =>
      if key = k then (key, value) :: fields
      else if key < k then (key, value) :: (k, v) :: fields
      else (k, v) :: insertField key value fields

/-- `j.clear()`. -/
def clear : Json → Json
  | null => null
  | object _ => object []

/-- `j[key] = value`. -/
def set (j : Json) (key : String) (value : JsonValue) : Json :=
  match j with
  | null => object [(key, value)]
  | object fields => object (insertField key value fields)

/-- The value under a key, for whoever decodes the message. -/
def get? : Json → String → Option JsonValue
  | null, _ => none
  | object fields, key => (fields.find? fun field => field.1 = key).map Prod.snd

/-- Clearing first makes the history of the variable irrelevant. -/
@[simp] theorem set_clear (j : Json) (key : String) (value : JsonValue) :
    j.clear.set key value = object [(key, value)] := by
  cases j <;> rfl

end Json

end SpectrogramServers
