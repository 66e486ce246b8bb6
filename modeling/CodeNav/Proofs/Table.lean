import CodeNav.Table
import Mathlib.Data.List.Nodup
import Mathlib.Data.List.Perm.Basic

/-! Tables as lists of entries: which entries stand in a table after writing and erasing, and that
a table without its order is known from its look-ups. -/
namespace CodeNav.Table

theorem ext_entries {κ ν : Type} {left right : Table κ ν}
    (same : left.entries = right.entries) : left = right := by
  cases left
  cases right
  cases same
  rfl

instance {κ ν : Type} [DecidableEq κ] [DecidableEq ν] : DecidableEq (Table κ ν) :=
  fun left right => decidable_of_iff (left.entries = right.entries)
    ⟨ext_entries, fun same => same ▸ rfl⟩

variable {κ ν : Type} [DecidableEq κ]

theorem get?_eq_some {table : Table κ ν} {key : κ} {value : ν} :
    table.get? key = some value ↔ (key, value) ∈ table.entries := by
  rw [get?, Option.map_eq_some_iff]
  constructor
  · rintro ⟨entry, found, rfl⟩
    have same : entry.1 = key := by simpa using List.find?_some found
    rw [← same]
    exact List.mem_of_find?_eq_some found
  · intro member
    cases found : table.entries.find? fun entry => entry.1 = key with
    | none =>
      have none_here := List.find?_eq_none.1 found _ member
      simp at none_here
    | some entry =>
      have same : entry.1 = key := by simpa using List.find?_some found
      have equal : entry = (key, value) :=
        List.inj_on_of_nodup_map table.nodup (List.mem_of_find?_eq_some found) member same
      exact ⟨entry, rfl, by rw [equal]⟩

theorem mem_keys {table : Table κ ν} {key : κ} :
    key ∈ table.keys ↔ ∃ value, table.get? key = some value := by
  rw [mem_keys_iff, Option.isSome_iff_exists]

theorem mem_values {table : Table κ ν} {value : ν} :
    value ∈ table.values ↔ ∃ key, table.get? key = some value := by
  rw [values, List.mem_map]
  constructor
  · rintro ⟨⟨key, value⟩, member, rfl⟩
    exact ⟨key, get?_eq_some.2 member⟩
  · rintro ⟨key, stored⟩
    exact ⟨(key, value), get?_eq_some.1 stored, rfl⟩

theorem get?_eq_none {table : Table κ ν} {key : κ} :
    table.get? key = none ↔ key ∉ table.keys := by
  rw [mem_keys_iff, Option.not_isSome_iff_eq_none]

@[simp] theorem get?_alter (table : Table κ ν) (key : κ) (change : Option ν → ν) (other : κ) :
    (table.alter key change).get? other =
      if key = other then some (change (table.get? key)) else table.get? other :=
  get?_insert table key _ other

@[simp] theorem mem_keys_insert {table : Table κ ν} {key other : κ} {value : ν} :
    other ∈ (table.insert key value).keys ↔ key = other ∨ other ∈ table.keys := by
  rw [mem_keys_iff, mem_keys_iff, get?_insert]
  by_cases same : key = other <;> simp [same]

theorem contains_eq (table : Table κ ν) (key : κ) :
    table.contains key = (table.get? key).isSome := by
  rw [Bool.eq_iff_iff, contains_iff, mem_keys_iff]

/-- A key that is only written where it is missing keeps its first value. -/
theorem get?_insert_missing (table : Table κ ν) (key : κ) (value : ν) (other : κ) :
    (if table.contains key then table else table.insert key value).get? other =
      (table.get? other).or (if key = other then some value else none) := by
  rw [contains_eq]
  by_cases same : key = other
  · rw [same, if_pos rfl]
    cases stored : table.get? other with
    | none => simp
    | some known => simp [stored]
  · rw [if_neg same, Option.or_none]
    split
    · rfl
    · simp [same]

/-- To take out a list that has become empty reads like keeping it. -/
theorem getD_prune {α : Type} (table : Table κ (List α)) (key : κ) (kept : List α) (other : κ) :
    ((if kept.isEmpty then table.erase key else table.insert key kept).get? other).getD [] =
      if key = other then kept else (table.get? other).getD [] := by
  by_cases same : key = other
  · split
    · next gone => simp [same, List.isEmpty_iff.1 gone]
    · simp [same]
  · split <;> simp [same]

theorem put_of_not_mem {key : κ} (value : ν) {entries : List (κ × ν)}
    (absent : key ∉ entries.map Prod.fst) : put key value entries = entries ++ [(key, value)] := by
  induction entries with
  | nil => rfl
  | cons entry rest ih =>
    rw [List.map_cons, List.mem_cons, not_or] at absent
    rw [put, if_neg (Ne.symm absent.1), ih absent.2, List.cons_append]

theorem entries_insert {table : Table κ ν} {key : κ} (value : ν) (absent : key ∉ table.keys) :
    (table.insert key value).entries = table.entries ++ [(key, value)] :=
  put_of_not_mem value absent

theorem entries_foldl_insert {table : Table κ ν} {added : List (κ × ν)}
    (distinct : (added.map Prod.fst).Nodup)
    (absent : ∀ entry ∈ added, entry.1 ∉ table.keys) :
    (added.foldl (fun table entry => table.insert entry.1 entry.2) table).entries =
      table.entries ++ added := by
  induction added generalizing table with
  | nil => simp
  | cons entry rest ih =>
    rw [List.map_cons, List.nodup_cons] at distinct
    have here := entries_insert entry.2 (absent entry List.mem_cons_self)
    have apart : ∀ other ∈ rest, other.1 ∉ (table.insert entry.1 entry.2).keys := by
      intro other member
      rw [keys, here, List.map_append, List.mem_append, not_or]
      refine ⟨absent other (List.mem_cons_of_mem _ member), ?_⟩
      intro same
      rw [List.map_cons, List.map_nil, List.mem_singleton] at same
      exact distinct.1 (same ▸ List.mem_map_of_mem member)
    rw [List.foldl_cons, ih distinct.2 apart, here, List.append_assoc]
    rfl

theorem get?_foldl_insert {table : Table κ ν} {added : List (κ × ν)}
    (distinct : (added.map Prod.fst).Nodup) (key : κ) :
    (added.foldl (fun table entry => table.insert entry.1 entry.2) table).get? key =
      ((added.find? fun entry => entry.1 = key).map Prod.snd).or (table.get? key) := by
  induction added generalizing table with
  | nil => rfl
  | cons entry rest ih =>
    rw [List.map_cons, List.nodup_cons] at distinct
    rw [List.foldl_cons, ih distinct.2, get?_insert, List.find?_cons]
    by_cases same : entry.1 = key
    · have absent : rest.find? (fun other => decide (other.1 = key)) = none := by
        rw [List.find?_eq_none]
        intro other member
        rw [decide_eq_true_eq]
        intro again
        exact distinct.1 (same.trans again.symm ▸ List.mem_map_of_mem member)
      simp [same, absent]
    · simp [same]

theorem erase_of_not_mem {table : Table κ ν} {key : κ} (absent : key ∉ table.keys) :
    table.erase key = table := by
  apply ext_entries
  apply List.filter_eq_self.2
  intro entry member
  have other : entry.1 ≠ key := fun same => absent (same ▸ List.mem_map_of_mem member)
  simpa using other

theorem entries_foldl_erase (table : Table κ ν) (dropped : List κ) :
    (dropped.foldl erase table).entries = table.entries.filter fun entry => entry.1 ∉ dropped := by
  induction dropped generalizing table with
  | nil => simp
  | cons key rest ih =>
    rw [List.foldl_cons, ih, erase, List.filter_filter]
    congr 1
    funext entry
    simp [Bool.and_comm]

theorem flatMap_entries {α : Type} (table : Table κ (List α)) (key : κ) :
    (table.entries.flatMap fun entry => if entry.1 = key then entry.2 else []) =
      (table.get? key).getD [] := by
  obtain ⟨entries, distinct⟩ := table
  rw [get?]
  dsimp only
  induction entries with
  | nil => rfl
  | cons entry rest ih =>
    rw [List.map_cons, List.nodup_cons] at distinct
    by_cases same : entry.1 = key
    · have others : ∀ other ∈ rest, (if other.1 = key then other.2 else []) = [] := by
        intro other member
        rw [if_neg]
        intro again
        exact distinct.1 (same.trans again.symm ▸ List.mem_map_of_mem member)
      simp only [List.flatMap_cons, List.flatMap_eq_nil_iff.2 others, same, if_true,
        List.append_nil]
      simp [same]
    · simp only [List.flatMap_cons, same, if_false, List.nil_append, ih distinct.2]
      simp [same]

theorem entries_perm {left right : Table κ ν} (same : ∀ key, left.get? key = right.get? key) :
    left.entries.Perm right.entries := by
  rw [List.perm_ext_iff_of_nodup (List.Nodup.of_map _ left.nodup) (List.Nodup.of_map _ right.nodup)]
  intro entry
  rw [← get?_eq_some, ← get?_eq_some, same]

theorem get?_eq_of_perm {left right : Table κ ν} (perm : left.entries.Perm right.entries)
    (key : κ) : left.get? key = right.get? key := by
  ext value
  rw [get?_eq_some, get?_eq_some, perm.mem_iff]

/-- A table in which the entries are sorted by their keys is known from its look-ups. -/
theorem mergeSort_entries_eq {le : κ × ν → κ × ν → Bool} {left right : Table κ ν}
    (trans : ∀ a b c, le a b = true → le b c = true → le a c = true)
    (total : ∀ a b, (le a b || le b a) = true)
    (antisymm : ∀ a b, le a b = true → le b a = true → a.1 = b.1)
    (same : ∀ key, left.get? key = right.get? key) :
    left.entries.mergeSort le = right.entries.mergeSort le := by
  have perm := entries_perm same
  have sorted_perm : (left.entries.mergeSort le).Perm (right.entries.mergeSort le) :=
    (List.mergeSort_perm _ le).trans (perm.trans (List.mergeSort_perm _ le).symm)
  refine List.Perm.eq_of_pairwise ?_ (List.pairwise_mergeSort trans total _)
    (List.pairwise_mergeSort trans total _) sorted_perm
  intro a b first second before behind
  have inside := List.mem_mergeSort.1 first
  have also_inside := perm.mem_iff.2 (List.mem_mergeSort.1 second)
  exact List.inj_on_of_nodup_map left.nodup inside also_inside (antisymm a b before behind)

end CodeNav.Table
