import CodeNav.Proofs.Index.Contents

/-! What the findings of one more file add to the totals of an index, if the file and its symbols
are new: its names, its definitions and its references count in full. -/
namespace CodeNav

namespace Table

variable {κ ν : Type} [DecidableEq κ] {size : ν → Nat}

theorem total_insert (size : ν → Nat) (table : Table κ ν) (key : κ) (value : ν) :
    total ((table.insert key value).values.map size) + ((table.get? key).map size).getD 0 =
      total (table.values.map size) + size value := by
  obtain ⟨entries, distinct⟩ := table
  simp only [insert, values, get?]
  clear distinct
  induction entries with
  | nil => simp [put, total]
  | cons entry rest ih =>
    by_cases same : entry.1 = key
    · simp only [put, same, if_true, List.map_cons, total, List.foldr_cons, List.find?_cons,
        decide_true, Option.map_some, Option.getD_some]
      omega
    · simp only [put, same, if_false, List.map_cons, total, List.foldr_cons, List.find?_cons,
        decide_false] at ih ⊢
      omega

theorem total_alter {change : Option ν → ν} {added : Nat}
    (grows : ∀ known : Option ν, size (change known) = (known.map size).getD 0 + added)
    (table : Table κ ν) (key : κ) :
    total ((table.alter key change).values.map size) = total (table.values.map size) + added := by
  have replaced := table.total_insert size key (change (table.get? key))
  rw [grows] at replaced
  rw [alter]
  omega

theorem get?_of_size {table : Table κ ν} (none_there : table.size = 0) (key : κ) :
    table.get? key = none := by
  rw [get?, List.length_eq_zero_iff.1 none_there]
  rfl

end Table

namespace Index

theorem total_tally (counts : Table String Nat) (label : String) :
    total (tally counts label).values = total counts.values + 1 := by
  have counted (known : Option Nat) : id (known.getD 0 + 1) = (known.map id).getD 0 + 1 := by simp
  have added := Table.total_alter counted counts label
  simp only [List.map_id] at added
  exact added

def referenceCount (index : Index) : Nat := total (index.references.values.map List.length)

theorem referenceCount_addReferences (index : Index) (identity : Identity)
    (added : List Reference) :
    (index.addReferences identity added).referenceCount = index.referenceCount + added.length := by
  apply Table.total_alter
  intro known
  cases known <;> simp

theorem referenceCount_foldl_addReferences (index : Index)
    (added : List (Identity × List Reference)) :
    (added.foldl (fun index entry => index.addReferences entry.1 entry.2) index).referenceCount =
      index.referenceCount + total (added.map fun entry => entry.2.length) := by
  induction added generalizing index with
  | nil => rfl
  | cons entry rest ih =>
    rw [List.foldl_cons, ih, referenceCount_addReferences, Nat.add_assoc]
    rfl

theorem total_referring (entries : List (Identity × List Reference)) :
    total ((entries.filter fun entry => !entry.2.isEmpty).map fun entry => entry.2.length) =
      total (entries.map fun entry => entry.2.length) := by
  induction entries with
  | nil => rfl
  | cons entry rest ih =>
    cases written : entry.2 with
    | nil => simpa [written, total] using ih
    | cons first others => simpa [written, total] using ih

theorem referenceCount_absorb (index : Index) (found : Findings) :
    (index.absorb found).referenceCount = index.referenceCount + found.referenceCount := by
  have same : (found.definitions.entries.foldl
      (fun index entry => index.addDefinition entry.1 entry.2) index).references =
        index.references := foldl_keeps references_addDefinition _ _
  have added := referenceCount_foldl_addReferences (found.definitions.entries.foldl
    (fun index entry => index.addDefinition entry.1 entry.2) index)
    (found.references.entries.filter fun entry => !entry.2.isEmpty)
  rw [total_referring] at added
  simp only [referenceCount, Findings.referenceCount, Table.values, List.map_map, same] at added ⊢
  exact added

theorem merge_of_unknown {index : Index} {found : Findings}
    (unknown : index.entry? found.file = none) : index.merge found = index.absorb found := by
  rw [merge_eq, evict_unknown]
  rw [Path.normalize_normalize]
  exact unknown

theorem files_merge_of_unknown {index : Index} {found : Findings}
    (unknown : index.entry? found.file = none) :
    (index.merge found).files.entries =
      index.files.entries ++ [(Path.normalize found.file, entryOf found)] := by
  rw [merge_of_unknown unknown, files_absorb]
  exact Table.entries_insert _ (Table.get?_eq_none.1 unknown)

/-- The findings are those of different files that are not in the index, and they define different
symbols that it does not define. -/
structure New (index : Index) (all : List Findings) : Prop where
  distinct : (all.map fun found => Path.normalize found.file).Nodup
  disjoint : Disjoint all
  unknown : ∀ found ∈ all, index.entry? found.file = none
  fresh : ∀ found ∈ all, ∀ identity ∈ found.definitions.keys, index.definition identity = none

theorem New.of_totals {index : Index} (bare : index.totals = empty.totals) {all : List Findings}
    (distinct : (all.map fun found => Path.normalize found.file).Nodup)
    (disjoint : Disjoint all) : New index all where
  distinct := distinct
  disjoint := disjoint
  unknown _ _ := Table.get?_of_size (congrArg Totals.files bare) _
  fresh _ _ _ _ := Table.get?_of_size (congrArg Totals.definitions bare) _

theorem New.merge {index : Index} {found : Findings} {rest : List Findings}
    (new : New index (found :: rest)) : New (index.merge found) rest := by
  have unknown := new.unknown found List.mem_cons_self
  obtain ⟨apart, distinct⟩ := List.nodup_cons.1 new.distinct
  obtain ⟨unshared, disjoint⟩ := List.pairwise_cons.1 new.disjoint
  refine ⟨distinct, disjoint, ?_, ?_⟩
  · intro other member
    have elsewhere : Path.normalize found.file ≠ Path.normalize other.file :=
      fun same => apart (List.mem_map.2 ⟨other, member, same.symm⟩)
    rw [entry?_merge, if_neg elsewhere]
    exact new.unknown other (List.mem_cons_of_mem _ member)
  · intro other member identity defines
    have absent : found.definitions.get? identity = none :=
      Table.get?_eq_none.2 fun here => unshared other member identity here defines
    rw [merge_of_unknown unknown, definition_absorb, absent, Option.none_or]
    exact new.fresh other (List.mem_cons_of_mem _ member) identity defines

end Index
end CodeNav
