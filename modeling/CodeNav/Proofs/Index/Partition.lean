import CodeNav.Proofs.Index.FileDefinitions
import CodeNav.Proofs.Index.Lookup

/-! The files share the stored definitions out among them. After a clean history a file lists the
definitions that bear its path, each once and by place, and each stored definition is listed for
just one of the files that are in. -/
namespace CodeNav.Index

def Precedes (a b : Identity × Definition) : Prop :=
  a.2.range.start < b.2.range.start ∨ a.2.range.start = b.2.range.start ∧ a.1 < b.1

structure Enumerates (index : Index) (path : String) (pairs : List (Identity × Definition)) :
    Prop where
  listed : index.fileDefinitions path = .ok pairs
  mem_iff : ∀ identity definition, (identity, definition) ∈ pairs ↔
    index.definition identity = some definition ∧ definition.file = Path.normalize path
  distinct : (pairs.map Prod.fst).Nodup
  ordered : pairs.Pairwise Precedes
  named : ∀ lang name, index.localDefinitions lang path name =
    .ok ((pairs.filter fun pair => pair.2.lang = lang ∧ pair.2.name = name).map Prod.fst)

variable {index : Index} {all : List Findings} {found other : Findings} {path : String}
  {identity : Identity} {definition : Definition}

theorem precedes_of_placedBefore {a b : Identity × Definition} (before : placedBefore a b = true)
    (apart : a.1 ≠ b.1) : Precedes a b := by
  rcases placedBefore_iff.1 before with earlier | ⟨same, least⟩
  · exact .inl earlier
  · exact .inr ⟨same, lt_of_le_of_ne least apart⟩

theorem nodup_placed (found : Findings) : (found.placed.map Prod.fst).Nodup :=
  ((List.mergeSort_perm _ _).map _).nodup_iff.2 found.definitions.nodup

theorem pairwise_precedes_placed (found : Findings) : found.placed.Pairwise Precedes :=
  (pairwise_placedBefore _).imp₂ (fun _ _ => precedes_of_placedBefore)
    (List.pairwise_map.1 (nodup_placed found))

theorem Lists.eq_of_file (lists : index.Lists all) (member : found ∈ all) (inside : other ∈ all)
    (same : Path.normalize found.file = Path.normalize other.file) : found = other :=
  List.inj_on_of_nodup_map lists.distinct member inside same

theorem Lists.mem_fileNames (lists : index.Lists all) {file : String} :
    file ∈ index.fileNames ↔ ∃ found ∈ all, Path.normalize found.file = file := by
  rw [fileNames, mem_sortTexts, Table.keys, lists.files, List.map_map, List.mem_map]
  simp only [Function.comp_apply]

theorem Stores.definition_in_file (stores : index.Stores all) (shows : index.Shows all)
    {file : String} :
    index.definition identity = some definition ∧ definition.file = file ↔
      ∃ found ∈ all, Path.normalize found.file = file ∧
        found.definitions.get? identity = some definition := by
  have bears (found : Findings) (member : found ∈ all)
      (stored : found.definitions.get? identity = some definition) :
      definition.file = Path.normalize found.file := by
    have coherent := shows.coherent found member
    rw [coherent.file]
    exact (coherent.definitions identity definition stored).2
  rw [stores.definition_eq_some]
  constructor
  · rintro ⟨⟨found, member, stored⟩, rfl⟩
    exact ⟨found, member, (bears found member stored).symm, stored⟩
  · rintro ⟨found, member, rfl, stored⟩
    exact ⟨⟨found, member, stored⟩, bears found member stored⟩

theorem Stores.enumerates (stores : index.Stores all) (shows : index.Shows all) (path : String) :
    ∃ pairs, index.Enumerates path pairs := by
  rcases stores.fileDefinitions shows.toLists path with ⟨found, member, file, listed⟩ |
    ⟨absent, listed⟩
  · refine ⟨found.placed, listed, ?_, nodup_placed found, pairwise_precedes_placed found,
      localDefinitions_of_ok listed⟩
    intro identity definition
    rw [Findings.mem_placed, stores.definition_in_file shows]
    constructor
    · intro stored
      exact ⟨found, member, file, stored⟩
    · rintro ⟨other, inside, also, stored⟩
      rwa [shows.eq_of_file member inside (file.trans also.symm)]
  · refine ⟨[], listed, ?_, List.nodup_nil, .nil, localDefinitions_of_ok listed⟩
    intro identity definition
    rw [stores.definition_in_file shows]
    constructor
    · exact nofun
    · rintro ⟨found, member, file, _⟩
      exact absurd file (absent found member)

/-- Every file's definitions can be listed: those that bear its path, each once and by place. Each
stored definition is listed for just one of the files that are in. -/
theorem fileDefinitions_partition {history : List Change} (recorded : Recorded history)
    (clean : Clean history) :
    (∀ path, ∃ pairs, (run history).Enumerates path pairs) ∧
      ∀ identity definition, (run history).definition identity = some definition →
        ∃! file, file ∈ (run history).fileNames ∧ ∃ pairs,
          (run history).fileDefinitions file = .ok pairs ∧ (identity, definition) ∈ pairs := by
  have shows := shows_run recorded
  have stores := stores_run clean
  have enumerates := stores.enumerates shows
  refine ⟨enumerates, ?_⟩
  intro identity definition stored
  obtain ⟨found, member, file, _⟩ :=
    (stores.definition_in_file shows).1 ⟨stored, rfl⟩
  have canonical : Path.normalize definition.file = definition.file := by
    rw [← file, Path.normalize_normalize]
  obtain ⟨pairs, here⟩ := enumerates definition.file
  refine ⟨definition.file, ⟨shows.mem_fileNames.2 ⟨found, member, file⟩, pairs, here.listed,
    (here.mem_iff _ _).2 ⟨stored, canonical.symm⟩⟩, ?_⟩
  rintro other ⟨known, others, listed, inside⟩
  -- The list of the other file has only definitions that bear its path.
  obtain ⟨again, _, spelled⟩ := shows.mem_fileNames.1 known
  obtain ⟨same_others, there⟩ := enumerates other
  rw [there.listed] at listed
  cases listed
  rw [((there.mem_iff _ _).1 inside).2, ← spelled, Path.normalize_normalize]

def sharedNameIn : List (Identity × Definition) :=
  [("py::a.py::A.f", ⟨"py", "a.py", .single ⟨2, 1⟩, "f", "func"⟩),
    ("py::a.py::f", ⟨"py", "a.py", .single ⟨3, 1⟩, "f", "func"⟩)]

theorem fileDefinitions_partition_sharedName :
    Recorded sharedName ∧ Clean sharedName ∧
      (run sharedName).Enumerates "./a.py" sharedNameIn ∧
      ∃! file, file ∈ (run sharedName).fileNames ∧ ∃ pairs,
        (run sharedName).fileDefinitions file = .ok pairs ∧
          ("py::a.py::f", ⟨"py", "a.py", .single ⟨3, 1⟩, "f", "func"⟩) ∈ pairs := by
  obtain ⟨enumerates, unique⟩ := fileDefinitions_partition recorded_sharedName clean_sharedName
  obtain ⟨pairs, here⟩ := enumerates "./a.py"
  have known : (run sharedName).fileDefinitions "./a.py" = .ok sharedNameIn := by
    simp only [fileDefinitions_eq, mergeSort_eq_insertionSort placedBefore_trans
      placedBefore_total]
    decide
  obtain rfl := Except.ok.inj (here.listed.symm.trans known)
  exact ⟨recorded_sharedName, clean_sharedName, here, unique _ _ rfl⟩

end CodeNav.Index
