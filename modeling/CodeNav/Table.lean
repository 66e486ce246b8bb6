/-! Tables that remember the order in which keys first came in. Writing a key again keeps its
place, erasing it and writing it later puts it at the end. Each key stands at most once. -/
namespace CodeNav

variable {κ ν : Type} [DecidableEq κ]

structure Table (κ ν : Type) where
  entries : List (κ × ν)
  nodup : (entries.map Prod.fst).Nodup

namespace Table

def empty : Table κ ν := ⟨[], List.nodup_nil⟩

instance : EmptyCollection (Table κ ν) := ⟨empty⟩

instance : Inhabited (Table κ ν) := ⟨empty⟩

def keys (table : Table κ ν) : List κ := table.entries.map Prod.fst

def values (table : Table κ ν) : List ν := table.entries.map Prod.snd

def size (table : Table κ ν) : Nat := table.entries.length

def get? (table : Table κ ν) (key : κ) : Option ν :=
  (table.entries.find? fun entry => entry.1 = key).map Prod.snd

def contains (table : Table κ ν) (key : κ) : Bool := table.entries.any fun entry => entry.1 = key

theorem contains_iff {table : Table κ ν} {key : κ} :
    table.contains key = true ↔ key ∈ table.keys := by
  simp [contains, keys]

def put (key : κ) (value : ν) : List (κ × ν) → List (κ × ν)
  | [] => [(key, value)]
  | entry :: rest => if entry.1 = key then (key, value) :: rest else entry :: put key value rest

theorem keys_put (key : κ) (value : ν) (entries : List (κ × ν)) :
    (put key value entries).map Prod.fst =
      if key ∈ entries.map Prod.fst then entries.map Prod.fst
      else entries.map Prod.fst ++ [key] := by
  induction entries with
  | nil => simp [put]
  | cons entry rest ih =>
    by_cases same : entry.1 = key
    · simp [put, same]
    · have other : key ≠ entry.1 := fun h => same h.symm
      simp only [put, same, if_false, List.map_cons, ih, List.mem_cons, other, false_or]
      split <;> simp

def insert (table : Table κ ν) (key : κ) (value : ν) : Table κ ν where
  entries := put key value table.entries
  nodup := by
    rw [keys_put]
    split
    · exact table.nodup
    · next absent =>
      refine List.nodup_append.2 ⟨table.nodup, by simp, ?_⟩
      rintro a present b here rfl
      exact absent (List.mem_singleton.1 here ▸ present)

def erase (table : Table κ ν) (key : κ) : Table κ ν where
  entries := table.entries.filter fun entry => entry.1 ≠ key
  nodup := table.nodup.sublist (List.filter_sublist.map _)

def alter (table : Table κ ν) (key : κ) (change : Option ν → ν) : Table κ ν :=
  table.insert key (change (table.get? key))

def ofList (entries : List (κ × ν)) : Table κ ν :=
  entries.foldl (fun table entry => table.insert entry.1 entry.2) empty

@[simp] theorem get?_empty (key : κ) : (empty : Table κ ν).get? key = none := rfl

theorem find?_put (key : κ) (value : ν) (other : κ) (entries : List (κ × ν)) :
    ((put key value entries).find? fun entry => entry.1 = other).map Prod.snd =
      if key = other then some value
      else (entries.find? fun entry => entry.1 = other).map Prod.snd := by
  induction entries with
  | nil => by_cases same : key = other <;> simp [put, same]
  | cons entry rest ih =>
    by_cases here : entry.1 = key
    · by_cases same : key = other
      · simp [put, here, same]
      · simp [put, here, same]
    · have later : put key value (entry :: rest) = entry :: put key value rest := by
        simp [put, here]
      rw [later]
      by_cases found : entry.1 = other
      · have apart : key ≠ other := fun h => here (found.trans h.symm)
        simp [found, apart]
      · simp [found, ih]

@[simp] theorem get?_insert (table : Table κ ν) (key : κ) (value : ν) (other : κ) :
    (table.insert key value).get? other = if key = other then some value else table.get? other :=
  find?_put key value other table.entries

@[simp] theorem get?_erase (table : Table κ ν) (key other : κ) :
    (table.erase key).get? other = if key = other then none else table.get? other := by
  simp only [get?, erase, List.find?_filter]
  by_cases same : key = other
  · subst same
    simp
  · simp only [same, if_false]
    congr 2
    funext entry
    by_cases found : entry.1 = other
    · have apart : entry.1 ≠ key := fun h => same (h.symm.trans found)
      simp [found, Ne.symm same]
    · simp [found]

theorem mem_keys_iff {table : Table κ ν} {key : κ} :
    key ∈ table.keys ↔ (table.get? key).isSome = true := by
  simp [keys, get?]

end Table
end CodeNav
