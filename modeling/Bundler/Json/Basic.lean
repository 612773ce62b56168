/-!
# JSON values

Fields keep the order in which they stand.
-/

namespace Bundler

inductive Json where
  | null
  | bool (value : Bool)
  /-- A number as it is shown, and whether it has a point or an exponent. -/
  | number (digits : String) (isReal : Bool)
  | text (value : String)
  | list (items : List Json)
  | object (fields : List (String × Json))
deriving Inhabited

namespace Json

def ofNat (n : Nat) : Json := .number (toString n) false

/-- A list of texts. -/
def texts (items : List String) : Json := .list (items.map .text)

end Json

/-- Pairs with a value put under a key: in place of the one that is there, or at the end. -/
def upsert [DecidableEq κ] (key : κ) (value : α) : List (κ × α) → List (κ × α)
  | [] => [(key, value)]
  | (k, v) :: rest => if k = key then (k, value) :: rest else (k, v) :: upsert key value rest

end Bundler
