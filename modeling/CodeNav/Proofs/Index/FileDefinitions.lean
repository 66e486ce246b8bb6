import CodeNav.Proofs.Index.Contents

/-! The definitions of one file. An index that holds a file's findings lists their definitions by
place and never fails on them; it holds them right after they were merged, and after every clean
history in which they are in. -/
namespace CodeNav

namespace Findings

def placed (found : Findings) : List (Identity × Definition) :=
  found.definitions.entries.mergeSort Index.placedBefore

def named (found : Findings) (lang name : String) : List Identity :=
  (found.placed.filter fun pair => pair.2.lang = lang ∧ pair.2.name = name).map Prod.fst

theorem mem_placed {found : Findings} {pair : Identity × Definition} :
    pair ∈ found.placed ↔ found.definitions.get? pair.1 = some pair.2 := by
  rw [placed, List.mem_mergeSort, Table.get?_eq_some]

theorem mem_named {found : Findings} {lang name : String} {identity : Identity} :
    identity ∈ found.named lang name ↔ ∃ definition,
      found.definitions.get? identity = some definition ∧ definition.lang = lang ∧
        definition.name = name := by
  rw [named, List.mem_map]
  constructor
  · rintro ⟨⟨known, definition⟩, member, rfl⟩
    obtain ⟨inside, fits⟩ := List.mem_filter.1 member
    rw [mem_placed] at inside
    exact ⟨definition, inside, by simpa using fits⟩
  · rintro ⟨definition, stored, lang_same, name_same⟩
    refine ⟨(identity, definition), List.mem_filter.2 ⟨mem_placed.2 stored, ?_⟩, rfl⟩
    simp [lang_same, name_same]

end Findings

namespace Index

structure Holds (index : Index) (found : Findings) : Prop where
  entry : index.files.get? (Path.normalize found.file) = some (entryOf found)
  definition : ∀ identity definition, found.definitions.get? identity = some definition →
    index.definition identity = some definition

theorem Stores.holds {index : Index} {all : List Findings} (stores : index.Stores all)
    (lists : index.Lists all) {found : Findings} (member : found ∈ all) : index.Holds found :=
  ⟨lists.entry_of_mem member,
    fun _ _ stored => stores.definition_eq_some.2 ⟨found, member, stored⟩⟩

theorem holds_merge (index : Index) (found : Findings) : (index.merge found).Holds found := by
  rw [merge_eq]
  constructor
  · simp [files_absorb]
  · intro identity definition stored
    rw [Index.definition, definitions_absorb, Table.get?_foldl_insert found.definitions.nodup]
    rw [Table.get?] at stored
    rw [stored]
    rfl

def definedBy (index : Index) (path : String) : List Identity :=
  ((index.entry? path).map FileEntry.defined).getD []

theorem fileDefinitions_eq {index : Index} (path : String) :
    index.fileDefinitions path = (index.definedBy path).mapM index.ownedDefinition >>=
      fun pairs => .ok (pairs.mergeSort placedBefore) := rfl

theorem localDefinitions_eq {index : Index} (lang path name : String) :
    index.localDefinitions lang path name = index.fileDefinitions path >>= fun pairs =>
      .ok ((pairs.filter fun pair => pair.2.lang = lang ∧ pair.2.name = name).map Prod.fst) := rfl

theorem mem_of_fileDefinitions {index : Index} {path : String}
    {pairs : List (Identity × Definition)} (listed : index.fileDefinitions path = .ok pairs)
    {pair : Identity × Definition} (member : pair ∈ pairs) : pair.1 ∈ index.definedBy path := by
  rw [fileDefinitions_eq, bind_eq_ok] at listed
  obtain ⟨owned, fetched, same⟩ := listed
  cases same
  obtain ⟨identity, inside, stored⟩ := exists_of_mem_mapM fetched (List.mem_mergeSort.1 member)
  rw [ownedDefinition] at stored
  split at stored
  · cases stored
    exact inside
  · cases stored

theorem mem_of_localDefinitions {index : Index} {lang path name : String}
    {identities : List Identity} (listed : index.localDefinitions lang path name = .ok identities)
    {identity : Identity} (member : identity ∈ identities) : identity ∈ index.definedBy path := by
  rw [localDefinitions_eq, bind_eq_ok] at listed
  obtain ⟨pairs, in_file, same⟩ := listed
  cases same
  obtain ⟨pair, inside, rfl⟩ := List.mem_map.1 member
  exact mem_of_fileDefinitions in_file (List.mem_filter.1 inside).1

theorem mapM_ownedDefinition {index : Index} {pairs : List (Identity × Definition)}
    (stored : ∀ pair ∈ pairs, index.definition pair.1 = some pair.2) :
    (pairs.map Prod.fst).mapM index.ownedDefinition = .ok pairs := by
  induction pairs with
  | nil => rfl
  | cons pair rest ih =>
    have here : index.ownedDefinition pair.1 = .ok pair := by
      rw [ownedDefinition, stored pair List.mem_cons_self]
    rw [List.map_cons, List.mapM_cons, here,
      ih fun other member => stored other (List.mem_cons_of_mem _ member)]
    rfl

theorem localDefinitions_of_ok {index : Index} {path : String}
    {pairs : List (Identity × Definition)} (listed : index.fileDefinitions path = .ok pairs)
    (lang name : String) : index.localDefinitions lang path name =
      .ok ((pairs.filter fun pair => pair.2.lang = lang ∧ pair.2.name = name).map Prod.fst) := by
  rw [localDefinitions, listed]
  rfl

theorem fileDefinitions_unknown {index : Index} {path : String}
    (unknown : index.files.get? (Path.normalize path) = none) :
    index.fileDefinitions path = .ok [] := by
  rw [fileDefinitions, entry?, unknown]
  change Except.ok (List.mergeSort [] placedBefore) = _
  rw [List.mergeSort_nil]

namespace Holds

variable {index : Index} {found : Findings}

theorem fileDefinitions (holds : index.Holds found) {path : String}
    (here : Path.normalize path = Path.normalize found.file) :
    index.fileDefinitions path = .ok found.placed := by
  have stored : ∀ pair ∈ found.definitions.entries, index.definition pair.1 = some pair.2 :=
    fun pair member => holds.definition pair.1 pair.2 (Table.get?_eq_some.2 member)
  have owned := mapM_ownedDefinition stored
  rw [Index.fileDefinitions, entry?, here, holds.entry]
  change ((found.definitions.entries.map Prod.fst).mapM index.ownedDefinition >>= _) = _
  rw [owned]
  rfl

theorem localDefinitions (holds : index.Holds found) {path : String}
    (here : Path.normalize path = Path.normalize found.file) (lang name : String) :
    index.localDefinitions lang path name = .ok (found.named lang name) :=
  localDefinitions_of_ok (holds.fileDefinitions here) lang name

end Holds

/-- After a clean history the definitions of every file can be listed: those of its findings if
it is in, and none otherwise. -/
theorem Stores.fileDefinitions {index : Index} {all : List Findings} (stores : index.Stores all)
    (lists : index.Lists all) (path : String) :
    (∃ found ∈ all, Path.normalize found.file = Path.normalize path ∧
      index.fileDefinitions path = .ok found.placed) ∨
    (∀ found ∈ all, Path.normalize found.file ≠ Path.normalize path) ∧
      index.fileDefinitions path = .ok [] := by
  cases known : index.files.get? (Path.normalize path) with
  | none =>
    refine .inr ⟨?_, fileDefinitions_unknown known⟩
    intro found member same
    rw [← same, lists.entry_of_mem member] at known
    cases known
  | some entry =>
    obtain ⟨found, member, same, _⟩ := lists.mem_of_entry known
    exact .inl ⟨found, member, same, (stores.holds lists member).fileDefinitions same.symm⟩

end Index
end CodeNav
