/-!
Dictionaries that keep the order in which their keys first came. Putting a value under a key that
is there replaces the value in its place.
-/

namespace SqlCluster

/-- A dictionary as its entries in order. -/
abbrev Dict (α : Type) := List (String × α)

namespace Dict

variable {α : Type}

/-- The value under a key. -/
def get? (d : Dict α) (key : String) : Option α := List.lookup key d

/-- The dictionary with a value under a key. -/
def put : Dict α → String → α → Dict α
  | [], key, v => [(key, v)]
  | (k, w) :: d, key, v => if k = key then (k, v) :: d else (k, w) :: put d key v

/-- The dictionary that a sequence of entries leads to. -/
def ofEntries (entries : List (String × α)) : Dict α :=
  entries.foldl (fun d (k, v) => put d k v) []

/-- The keys in order. -/
def keys (d : Dict α) : List String := d.map Prod.fst

end Dict

end SqlCluster
