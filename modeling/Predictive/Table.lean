/-!
# Tables in order of insertion

A table is a list of keys with values. Main statements: a look-up finds the value that was put last
(`get?_put_self`, `get?_put_of_ne`), and putting a value under a known key keeps the keys and their
order (`keys_put_of_mem`, `keys_put_of_not_mem`).
-/

namespace Predictive.Table

variable {κ α : Type} [DecidableEq κ]

/-- The value of the first entry with a key. -/
def get? (key : κ) : List (κ × α) → Option α
  | [] => none
  | entry :: rest => if entry.1 = key then some entry.2 else get? key rest

/-- The table with a value put under a key: a new key comes last, and a known key keeps its
place. -/
def put (key : κ) (value : α) : List (κ × α) → List (κ × α)
  | [] => [(key, value)]
  | entry :: rest =>
    if entry.1 = key then (key, value) :: rest else entry :: put key value rest

theorem get?_put_self (key : κ) (value : α) (table : List (κ × α)) :
    get? key (put key value table) = some value := by
  fun_induction put key value table <;> simp_all [get?]

theorem get?_put_of_ne {key other : κ} (h : other ≠ key) (value : α) (table : List (κ × α)) :
    get? other (put key value table) = get? other table := by
  fun_induction put key value table <;> simp_all [get?, Ne.symm h]

theorem mem_keys_of_get?_eq_some {key : κ} {value : α} {table : List (κ × α)}
    (h : get? key table = some value) : key ∈ table.map Prod.fst := by
  fun_induction get? key table <;> simp_all

theorem keys_put_of_mem {key : κ} {table : List (κ × α)} (h : key ∈ table.map Prod.fst)
    (value : α) : (put key value table).map Prod.fst = table.map Prod.fst := by
  fun_induction put key value table <;> grind

theorem keys_put_of_not_mem {key : κ} {table : List (κ × α)} (h : key ∉ table.map Prod.fst)
    (value : α) : (put key value table).map Prod.fst = table.map Prod.fst ++ [key] := by
  fun_induction put key value table <;> grind

end Predictive.Table
