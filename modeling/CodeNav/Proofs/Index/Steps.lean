import CodeNav.Index.Read
import CodeNav.Proofs.Findings
import CodeNav.Proofs.Fold
import Mathlib.Data.List.Basic

/-! What merging and evicting do to each table of an index. Definitions, references and files are
followed entry by entry; of the names only what stands under a key counts, not in which order. -/
namespace CodeNav.Index

def bucket (index : Index) (key : String) : List Identity := (index.names.get? key).getD []

def entryOf (found : Findings) : FileEntry :=
  ⟨found.lang, found.occurrences, found.imports, found.definitions.keys,
    (found.references.entries.filter fun entry => !entry.2.isEmpty).map Prod.fst⟩

def absorb (index : Index) (found : Findings) : Index :=
  let referring := found.references.entries.filter fun entry => !entry.2.isEmpty
  let defining := found.definitions.entries.foldl
    (fun index entry => index.addDefinition entry.1 entry.2) index
  let referred := referring.foldl (fun index entry => index.addReferences entry.1 entry.2) defining
  { referred with files := referred.files.insert (Path.normalize found.file) (entryOf found) }

theorem merge_eq (index : Index) (found : Findings) :
    index.merge found = (index.evict (Path.normalize found.file)).absorb found := rfl

theorem evict_unknown {index : Index} {path : String}
    (unknown : index.files.get? (Path.normalize path) = none) : index.evict path = index := by
  rw [evict]
  dsimp only
  rw [unknown]

def without (index : Index) (file : String) (entry : FileEntry) : Index :=
  entry.referred.foldl (dropReferences file) (entry.defined.foldl dropDefinition index)

theorem evict_known {index : Index} {path : String} {entry : FileEntry}
    (known : index.files.get? (Path.normalize path) = some entry) :
    index.evict path =
      { index.without (Path.normalize path) entry with
        files := (index.without (Path.normalize path) entry).files.erase
          (Path.normalize path) } := by
  rw [evict]
  dsimp only
  rw [known]
  rfl

theorem definitions_dropDefinition (index : Index) (identity : Identity) :
    (index.dropDefinition identity).definitions = index.definitions.erase identity := by
  rw [dropDefinition]
  split
  · next absent => exact (Table.erase_of_not_mem (Table.get?_eq_none.1 absent)).symm
  · rfl

theorem definitions_foldl_dropDefinition (index : Index) (dropped : List Identity) :
    (dropped.foldl dropDefinition index).definitions =
      dropped.foldl Table.erase index.definitions :=
  (List.foldl_hom definitions fun index identity =>
    (definitions_dropDefinition index identity).symm).symm

@[simp] theorem definitions_dropReferences (file : String) (index : Index) (identity : Identity) :
    (dropReferences file index identity).definitions = index.definitions := rfl

@[simp] theorem definitions_addReferences (index : Index) (entry : Identity × List Reference) :
    (index.addReferences entry.1 entry.2).definitions = index.definitions := rfl

theorem definitions_without (index : Index) (file : String) (entry : FileEntry) :
    (index.without file entry).definitions.entries =
      index.definitions.entries.filter fun stored => stored.1 ∉ entry.defined := by
  rw [without, foldl_keeps (definitions_dropReferences file), definitions_foldl_dropDefinition,
    Table.entries_foldl_erase]

theorem definitions_foldl_addDefinition (index : Index) (added : List (Identity × Definition)) :
    (added.foldl (fun index entry => index.addDefinition entry.1 entry.2) index).definitions =
      added.foldl (fun table entry => table.insert entry.1 entry.2) index.definitions :=
  (List.foldl_hom definitions fun _ _ => rfl).symm

theorem definitions_absorb (index : Index) (found : Findings) :
    (index.absorb found).definitions = found.definitions.entries.foldl
      (fun table entry => table.insert entry.1 entry.2) index.definitions := by
  rw [absorb]
  dsimp only
  rw [foldl_keeps definitions_addReferences, definitions_foldl_addDefinition]

theorem definition_absorb (index : Index) (found : Findings) (identity : Identity) :
    (index.absorb found).definition identity =
      (found.definitions.get? identity).or (index.definition identity) := by
  rw [Index.definition, definitions_absorb, Table.get?_foldl_insert found.definitions.nodup]
  rfl

theorem definitions_absorb_of_fresh {index : Index} {found : Findings}
    (fresh : ∀ identity ∈ found.definitions.keys, index.definition identity = none) :
    (index.absorb found).definitions.entries =
      index.definitions.entries ++ found.definitions.entries := by
  rw [definitions_absorb, Table.entries_foldl_insert found.definitions.nodup]
  intro entry member
  exact Table.get?_eq_none.1 (fresh entry.1 (List.mem_map_of_mem member))

@[simp] theorem files_dropDefinition (index : Index) (identity : Identity) :
    (index.dropDefinition identity).files = index.files := by
  rw [dropDefinition]
  split <;> rfl

@[simp] theorem files_dropReferences (file : String) (index : Index) (identity : Identity) :
    (dropReferences file index identity).files = index.files := rfl

@[simp] theorem files_addDefinition (index : Index) (entry : Identity × Definition) :
    (index.addDefinition entry.1 entry.2).files = index.files := rfl

@[simp] theorem files_addReferences (index : Index) (entry : Identity × List Reference) :
    (index.addReferences entry.1 entry.2).files = index.files := rfl

theorem files_without (index : Index) (file : String) (entry : FileEntry) :
    (index.without file entry).files = index.files := by
  rw [without, foldl_keeps (files_dropReferences file), foldl_keeps files_dropDefinition]

theorem files_evict (index : Index) (path : String) :
    (index.evict path).files = index.files.erase (Path.normalize path) := by
  cases known : index.files.get? (Path.normalize path) with
  | none => rw [evict_unknown known, Table.erase_of_not_mem (Table.get?_eq_none.1 known)]
  | some entry => rw [evict_known known, files_without]

theorem files_absorb (index : Index) (found : Findings) :
    (index.absorb found).files =
      index.files.insert (Path.normalize found.file) (entryOf found) := by
  rw [absorb]
  dsimp only
  rw [foldl_keeps files_addReferences, foldl_keeps files_addDefinition]

theorem entry?_merge (index : Index) (found : Findings) (path : String) :
    Index.entry? (index.merge found) path =
      if Path.normalize found.file = Path.normalize path then some (entryOf found)
      else index.entry? path := by
  rw [Index.entry?, merge_eq, files_absorb, files_evict, Path.normalize_normalize,
    Table.get?_insert, Table.get?_erase]
  split <;> rfl

@[simp] theorem references_dropDefinition (index : Index) (identity : Identity) :
    (index.dropDefinition identity).references = index.references := by
  rw [dropDefinition]
  split <;> rfl

@[simp] theorem references_addDefinition (index : Index) (entry : Identity × Definition) :
    (index.addDefinition entry.1 entry.2).references = index.references := rfl

theorem referencesTo_dropReferences (file : String) (index : Index) (identity other : Identity) :
    (dropReferences file index identity).referencesTo other =
      if identity = other then (index.referencesTo other).filter (·.file ≠ file)
      else index.referencesTo other := by
  rw [referencesTo, referencesTo, dropReferences]
  dsimp only
  rw [Table.getD_prune]
  split
  · next same => rw [same]
  · rfl

theorem referencesTo_foldl_dropReferences (file : String) (index : Index)
    (dropped : List Identity) (identity : Identity) :
    (dropped.foldl (dropReferences file) index).referencesTo identity =
      if identity ∈ dropped then (index.referencesTo identity).filter (·.file ≠ file)
      else index.referencesTo identity :=
  foldl_changes (fun index => index.referencesTo identity) (List.filter (·.file ≠ file)) identity
    (fun index first => referencesTo_dropReferences file index first identity)
    (fun references => by simp [List.filter_filter]) dropped index

theorem referencesTo_without (index : Index) (file : String) (entry : FileEntry)
    (identity : Identity) :
    (index.without file entry).referencesTo identity =
      if identity ∈ entry.referred then (index.referencesTo identity).filter (·.file ≠ file)
      else index.referencesTo identity := by
  have same : (entry.defined.foldl dropDefinition index).references = index.references :=
    foldl_keeps references_dropDefinition _ _
  rw [without, referencesTo_foldl_dropReferences]
  simp only [referencesTo, same]

theorem referencesTo_addReferences (index : Index) (entry : Identity × List Reference)
    (identity : Identity) :
    (index.addReferences entry.1 entry.2).referencesTo identity =
      index.referencesTo identity ++ if entry.1 = identity then entry.2 else [] := by
  rw [referencesTo, referencesTo, addReferences, Table.get?_alter]
  by_cases same : entry.1 = identity
  · rw [if_pos same, if_pos same, same]
    rfl
  · rw [if_neg same, if_neg same, List.append_nil]

theorem referencesTo_foldl_addReferences (index : Index)
    (added : List (Identity × List Reference)) (identity : Identity) :
    (added.foldl (fun index entry => index.addReferences entry.1 entry.2) index).referencesTo
        identity =
      index.referencesTo identity ++
        added.flatMap fun entry => if entry.1 = identity then entry.2 else [] := by
  induction added generalizing index with
  | nil => simp
  | cons entry rest ih =>
    rw [List.foldl_cons, ih, referencesTo_addReferences, List.append_assoc, List.flatMap_cons]

theorem flatMap_referring (entries : List (Identity × List Reference)) (identity : Identity) :
    ((entries.filter fun entry => !entry.2.isEmpty).flatMap
        fun entry => if entry.1 = identity then entry.2 else []) =
      entries.flatMap fun entry => if entry.1 = identity then entry.2 else [] := by
  induction entries with
  | nil => rfl
  | cons entry rest ih =>
    cases written : entry.2 with
    | nil => simp [written, ih]
    | cons first others => simp [written, ih]

theorem referencesTo_absorb (index : Index) (found : Findings) (identity : Identity) :
    (index.absorb found).referencesTo identity =
      index.referencesTo identity ++ found.referencesTo identity := by
  have same : (found.definitions.entries.foldl
      (fun index entry => index.addDefinition entry.1 entry.2) index).references =
        index.references := foldl_keeps references_addDefinition _ _
  have added := referencesTo_foldl_addReferences (found.definitions.entries.foldl
    (fun index entry => index.addDefinition entry.1 entry.2) index)
    (found.references.entries.filter fun entry => !entry.2.isEmpty) identity
  rw [flatMap_referring, Table.flatMap_entries] at added
  simp only [referencesTo, same] at added ⊢
  exact added

def Cited (index : Index) : Prop := ∀ identity, index.references.get? identity ≠ some []

theorem Cited.dropReferences {index : Index} (cited : index.Cited) (file : String)
    (identity : Identity) : (dropReferences file index identity).Cited := by
  intro other
  rw [Index.dropReferences]
  dsimp only
  split
  · rw [Table.get?_erase]
    split
    · intro same
      cases same
    · exact cited other
  · next some_left =>
    rw [Table.get?_insert]
    split
    · intro same
      exact some_left (List.isEmpty_iff.2 (Option.some.inj same))
    · exact cited other

theorem Cited.addReferences {index : Index} (cited : index.Cited) (identity : Identity)
    {added : List Reference} (written : added ≠ []) :
    (index.addReferences identity added).Cited := by
  intro other
  rw [Index.addReferences, Table.get?_alter]
  split
  · intro same
    exact written (List.append_eq_nil_iff.1 (Option.some.inj same)).2
  · exact cited other

theorem Cited.without {index : Index} (cited : index.Cited) (file : String)
    (entry : FileEntry) : (index.without file entry).Cited := by
  have start : (entry.defined.foldl dropDefinition index).Cited := by
    intro identity
    rw [foldl_keeps references_dropDefinition]
    exact cited identity
  exact List.foldlRecOn entry.referred _ start fun _ kept identity _ =>
    kept.dropReferences file identity

theorem Cited.absorb {index : Index} (cited : index.Cited) (found : Findings) :
    (index.absorb found).Cited := by
  have start : (found.definitions.entries.foldl
      (fun index entry => index.addDefinition entry.1 entry.2) index).Cited := by
    intro identity
    rw [foldl_keeps references_addDefinition]
    exact cited identity
  refine List.foldlRecOn (found.references.entries.filter fun entry => !entry.2.isEmpty) _ start
    fun _ kept entry member => kept.addReferences entry.1 ?_
  simpa using (List.mem_filter.1 member).2

end CodeNav.Index
