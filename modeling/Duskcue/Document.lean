import Duskcue.Table

/-! JSON documents as a column holds them: an object of distinct keys, read by
key, written by key and merged. `ν` stands for the numbers with a fraction, so that
the arithmetic they come from is left open. -/
namespace Duskcue

inductive Json (ν : Type)
  | null
  | bool (value : Bool)
  | integer (value : Int)
  | fraction (value : ν)
  | text (value : String)
  | list (items : List (Json ν))
  | object (fields : List (String × Json ν))

namespace Json

variable {ν : Type}

/-- `Value::get`. -/
def get (value : Json ν) (key : String) : Option (Json ν) :=
  match value with
  | object fields => fields.lookup key
  | _ => none

/-- `Value::as_str`. -/
def asStr : Json ν → Option String
  | text value => some value
  | _ => none

/-- `Value::as_bool`. -/
def asBool : Json ν → Option Bool
  | bool value => some value
  | _ => none

/-- `Value::as_i64`. -/
def asI64 : Json ν → Option Int
  | integer value => if -2 ^ 63 ≤ value ∧ value < 2 ^ 63 then some value else none
  | _ => none

/-- An integer of a narrower type, as `serde` reads one. -/
def asI32 : Json ν → Option Int
  | integer value => if -2 ^ 31 ≤ value ∧ value < 2 ^ 31 then some value else none
  | _ => none

/-- Equal to `'true'::jsonb`. -/
def isTrue : Json ν → Bool
  | bool value => value
  | _ => false

/-- The text of the value, as `->>` gives it, is `0`. -/
def readsZero : Json ν → Bool
  | integer value => value = 0
  | text value => value = "0"
  | _ => false

def isNull : Json ν → Bool
  | null => true
  | _ => false

end Json

/-- A `JSONB` column that holds an object. -/
abbrev Document (ν : Type) := Table String (Json ν)

namespace Document

variable {ν : Type}

/-- `left || right`. -/
def merge (left right : Document ν) : Document ν := ⟨right.rows ∪ left.rows⟩

theorem find_merge (left right : Document ν) (key : String) :
    (merge left right).find key = (right.find key <|> left.find key) := by
  unfold merge Table.find
  by_cases held : key ∈ right.rows
  · obtain ⟨value, there⟩ := Option.isSome_iff_exists.mp (AList.lookup_isSome.mpr held)
    rw [AList.lookup_union_left held, there]
    rfl
  · rw [AList.lookup_union_right held, AList.lookup_eq_none.mpr held]
    rfl

end Document
end Duskcue
