import CodeNav.Proofs.Index.HistoryIndependence

/-! Names whose definitions are gone. An identity stands under the key of its definition, and
stays there when a definition with another key takes the place of that one. This happens only
where two files share the identity. After any history these are the only traces of files that
have been taken out. -/
namespace CodeNav

def Findings.keyOf (found : Findings) (identity : Identity) : Option String :=
  (found.definitions.get? identity).map Definition.key

namespace Index

def Owns (index : Index) (path : String) (identity : Identity) : Prop :=
  ∃ entry, index.files.get? (Path.normalize path) = some entry ∧ identity ∈ entry.defined

/-- A definition with the key was replaced by one with another key, and none with the key was
merged since. -/
def Displaced (history : List Change) (identity : Identity) (key : String) : Prop :=
  ∃ before found after, history = before ++ .merge found :: after ∧
    ((run before).evict found.file).keyOf identity = some key ∧
    (∃ other, found.keyOf identity = some other ∧ other ≠ key) ∧
    ∀ later, Change.merge later ∈ after → later.keyOf identity ≠ some key

theorem definition_foldl_dropDefinition (index : Index) (dropped : List Identity)
    (identity : Identity) :
    (dropped.foldl dropDefinition index).definition identity =
      if identity ∈ dropped then none else index.definition identity :=
  foldl_changes (fun index => index.definition identity) (fun _ => none) identity
    (fun index first => definition_dropDefinition index first identity) (fun _ => rfl) dropped index

theorem mem_bucket_foldl_dropDefinition (index : Index) (dropped : List Identity)
    (identity : Identity) (key : String) :
    identity ∈ (dropped.foldl dropDefinition index).bucket key ↔
      identity ∈ index.bucket key ∧ ¬ (identity ∈ dropped ∧ index.keyOf identity = some key) := by
  -- A second removal would not know the key any more, so the key is seen along with the bucket.
  have steps (index : Index) (first : Identity) :
      ((identity ∈ (index.dropDefinition first).bucket key),
          (index.dropDefinition first).keyOf identity) =
        if first = identity then
          ((identity ∈ index.bucket key ∧ index.keyOf identity ≠ some key), none)
        else ((identity ∈ index.bucket key), index.keyOf identity) := by
    rw [mem_bucket_dropDefinition, keyOf_dropDefinition]
    by_cases same : first = identity
    · simp [same]
    · simp [same]
  have listed := congrArg Prod.fst (foldl_changes
    (fun index => (identity ∈ index.bucket key, index.keyOf identity))
    (fun seen => (seen.1 ∧ seen.2 ≠ some key, none)) identity steps (fun seen => by simp) dropped
    index)
  by_cases member : identity ∈ dropped
  · simpa [member] using listed
  · simpa [member] using listed

theorem definition_without (index : Index) (file : String) (entry : FileEntry)
    (identity : Identity) :
    (index.without file entry).definition identity =
      if identity ∈ entry.defined then none else index.definition identity := by
  rw [Index.definition, without, foldl_keeps (definitions_dropReferences file)]
  exact definition_foldl_dropDefinition index entry.defined identity

theorem mem_bucket_without (index : Index) (file : String) (entry : FileEntry)
    (identity : Identity) (key : String) :
    identity ∈ (index.without file entry).bucket key ↔
      identity ∈ index.bucket key ∧
        ¬ (identity ∈ entry.defined ∧ index.keyOf identity = some key) := by
  rw [bucket, without, foldl_keeps (names_dropReferences file)]
  exact mem_bucket_foldl_dropDefinition index entry.defined identity key

theorem definition_evict {index : Index} {path : String} {identity : Identity}
    {definition : Definition} :
    (index.evict path).definition identity = some definition ↔
      index.definition identity = some definition ∧ ¬ index.Owns path identity := by
  unfold Owns
  cases known : index.files.get? (Path.normalize path) with
  | none =>
    rw [evict_unknown known]
    simp
  | some entry =>
    have left := definition_without index (Path.normalize path) entry identity
    rw [evict_known known]
    change (index.without (Path.normalize path) entry).definition identity = _ ↔ _
    by_cases owned : identity ∈ entry.defined <;> simp [left, owned]

theorem keyOf_evict {index : Index} {path : String} {identity : Identity} {key : String} :
    (index.evict path).keyOf identity = some key ↔
      index.keyOf identity = some key ∧ ¬ index.Owns path identity := by
  simp only [keyOf_eq_some, definition_evict]
  constructor
  · rintro ⟨definition, ⟨stored, free⟩, keyed⟩
    exact ⟨⟨definition, stored, keyed⟩, free⟩
  · rintro ⟨⟨definition, stored, keyed⟩, free⟩
    exact ⟨definition, ⟨stored, free⟩, keyed⟩

theorem mem_bucket_evict {index : Index} {path : String} {identity : Identity} {key : String} :
    identity ∈ (index.evict path).bucket key ↔
      identity ∈ index.bucket key ∧
        ¬ (index.Owns path identity ∧ index.keyOf identity = some key) := by
  unfold Owns
  cases known : index.files.get? (Path.normalize path) with
  | none =>
    rw [evict_unknown known]
    simp
  | some entry =>
    have left := mem_bucket_without index (Path.normalize path) entry identity key
    rw [evict_known known]
    change identity ∈ (index.without (Path.normalize path) entry).bucket key ↔ _
    simp [left]

theorem keyOf_absorb (index : Index) (found : Findings) (identity : Identity) :
    (index.absorb found).keyOf identity =
      (found.keyOf identity).or (index.keyOf identity) := by
  unfold keyOf Findings.keyOf
  rw [definition_absorb]
  cases found.definitions.get? identity <;> rfl

theorem mem_bucket_foldl_addDefinition (index : Index) (added : List (Identity × Definition))
    (identity : Identity) (key : String) :
    identity ∈ (added.foldl (fun index entry => index.addDefinition entry.1 entry.2) index).bucket
        key ↔
      identity ∈ index.bucket key ∨ ∃ definition, (identity, definition) ∈ added ∧
        definition.key = key := by
  induction added generalizing index with
  | nil => simp
  | cons entry rest ih =>
    rw [List.foldl_cons, ih, mem_bucket_addDefinition]
    constructor
    · rintro ((known | ⟨same, keyed⟩) | ⟨definition, member, keyed⟩)
      · exact .inl known
      · exact .inr ⟨entry.2, by simp [same], keyed⟩
      · exact .inr ⟨definition, List.mem_cons_of_mem _ member, keyed⟩
    · rintro (known | ⟨definition, member, keyed⟩)
      · exact .inl (.inl known)
      · rcases List.mem_cons.1 member with same | later
        · subst same
          exact .inl (.inr ⟨rfl, keyed⟩)
        · exact .inr ⟨definition, later, keyed⟩

theorem mem_bucket_absorb {index : Index} {found : Findings} {identity : Identity}
    {key : String} :
    identity ∈ (index.absorb found).bucket key ↔
      identity ∈ index.bucket key ∨ found.keyOf identity = some key := by
  rw [bucket, absorb]
  dsimp only
  rw [foldl_keeps names_addReferences]
  have added := mem_bucket_foldl_addDefinition index found.definitions.entries identity key
  rw [bucket] at added
  rw [added]
  unfold Findings.keyOf
  simp only [Option.map_eq_some_iff, Table.get?_eq_some]

theorem evict_normalize (index : Index) (path : String) :
    index.evict (Path.normalize path) = index.evict path := by
  unfold evict
  simp only [Path.normalize_normalize]

theorem merge_eq_evict (index : Index) (found : Findings) :
    index.merge found = (index.evict found.file).absorb found := by
  rw [merge_eq, evict_normalize]

/-- The last change displaces an identity, or it was displaced before and is not put back. -/
theorem displaced_append_singleton {before : List Change} {change : Change} {identity : Identity}
    {key : String} :
    Displaced (before ++ [change]) identity key ↔
      (∃ found, change = .merge found ∧
        ((run before).evict found.file).keyOf identity = some key ∧
        ∃ other, found.keyOf identity = some other ∧ other ≠ key) ∨
      (Displaced before identity key ∧
        ∀ found, change = .merge found → found.keyOf identity ≠ some key) := by
  constructor
  · rintro ⟨first, found, after, split_at, replaced, other, kept⟩
    -- Either the last change displaces, or the one that does stands before it.
    rcases append_singleton_eq_append_cons.1 split_at with ⟨rfl, rfl, rfl⟩ | ⟨rest, rfl, rfl⟩
    · exact .inl ⟨found, rfl, replaced, other⟩
    · refine .inr ⟨⟨first, found, rest, rfl, replaced, other, ?_⟩, ?_⟩
      · intro later member
        exact kept later (List.mem_append_left _ member)
      · rintro latest rfl
        exact kept latest (by simp)
  · rintro (⟨found, rfl, replaced, other⟩ |
      ⟨⟨first, found, after, rfl, replaced, other, kept⟩, still⟩)
    · exact ⟨before, found, [], rfl, replaced, other, nofun⟩
    · refine ⟨first, found, after ++ [change], by simp, replaced, other, ?_⟩
      intro later member
      rcases List.mem_append.1 member with earlier | here
      · exact kept later earlier
      · exact still later (List.mem_singleton.1 here).symm

theorem keyOf_ne_of_displaced {history : List Change} {identity : Identity} {key : String}
    (displaced : Displaced history identity key) : (run history).keyOf identity ≠ some key := by
  induction history using List.reverseRecOn with
  | nil =>
    obtain ⟨first, found, after, split_at, _⟩ := displaced
    simp at split_at
  | append_singleton before change ih =>
    rw [displaced_append_singleton] at displaced
    rw [run_append_singleton]
    cases change with
    | evict path =>
      intro keyed
      rcases displaced with ⟨found, same, _⟩ | ⟨displaced, _⟩
      · cases same
      · exact ih displaced (keyOf_evict.1 keyed).1
    | merge found =>
      rw [apply, merge_eq_evict, keyOf_absorb]
      rcases displaced with ⟨_, same, _, other, written, apart⟩ | ⟨displaced, still⟩
      · cases same
        rw [written]
        simpa using apart
      · cases written : found.keyOf identity with
        | some other => simpa [written] using still found rfl
        | none =>
          intro keyed
          exact ih displaced (keyOf_evict.1 keyed).1

/-- Under a key stand the identities whose definitions have it, and those that were displaced. -/
theorem mem_bucket_run (history : List Change) (identity : Identity) (key : String) :
    identity ∈ (run history).bucket key ↔
      (run history).keyOf identity = some key ∨ Displaced history identity key := by
  induction history using List.reverseRecOn with
  | nil =>
    constructor
    · intro member
      cases member
    · rintro (keyed | ⟨first, found, after, split_at, _⟩)
      · cases keyed
      · simp at split_at
  | append_singleton before change ih =>
    -- Evicting takes an identity only from under the key that its definition has now.
    have apart : Displaced before identity key → (run before).keyOf identity ≠ some key :=
      keyOf_ne_of_displaced
    have kept (path : String) : identity ∈ ((run before).evict path).bucket key ↔
        ((run before).evict path).keyOf identity = some key ∨ Displaced before identity key := by
      rw [mem_bucket_evict, keyOf_evict, ih]
      tauto
    rw [displaced_append_singleton, run_append_singleton]
    cases change with
    | evict path =>
      rw [apply, kept]
      simp
    | merge found =>
      rw [apply, merge_eq_evict, mem_bucket_absorb, keyOf_absorb, kept]
      cases written : found.keyOf identity with
      | none => simp [written]
      | some other => by_cases same : other = key <;> simp [written, same]

/-- Every definition that stands is owned by a file that is in. -/
theorem exists_owner {history : List Change} {identity : Identity} {definition : Definition}
    (stored : (run history).definition identity = some definition) :
    ∃ found ∈ live history, identity ∈ found.definitions.keys := by
  induction history using List.reverseRecOn with
  | nil => cases stored
  | append_singleton before change ih =>
    have lists := lists_run before
    -- A file that is taken out takes along what it owns.
    have kept {path : String}
        (left : ((run before).evict path).definition identity = some definition) :
        ∃ found ∈ (live before).filter (elsewhere (Path.normalize path)),
          identity ∈ found.definitions.keys := by
      obtain ⟨earlier, free⟩ := definition_evict.1 left
      obtain ⟨found, member, defines⟩ := ih earlier
      refine ⟨found, List.mem_filter.2 ⟨member, ?_⟩, defines⟩
      rw [elsewhere, decide_eq_true_eq]
      intro here
      exact free ⟨entryOf found, here ▸ lists.entry_of_mem member, defines⟩
    rw [run_append_singleton] at stored
    rw [live_append_singleton]
    cases change with
    | evict path => exact kept stored
    | merge found =>
      rw [apply, merge_eq_evict, definition_absorb, Option.or_eq_some_iff] at stored
      rcases stored with written | ⟨_, left⟩
      · exact ⟨found, by simp [liveAfter], Table.mem_keys.2 ⟨definition, written⟩⟩
      · obtain ⟨other, member, defines⟩ := kept left
        exact ⟨other, List.mem_append_left _ member, defines⟩

/-- Every answer is that of the empty index, but for look-ups of names. -/
structure Cleared (index : Index) : Prop extends AgreeOnFiles index empty where
  definition : ∀ identity, index.definition identity = none
  definitions : index.definitions.entries = []
  fileDefinitions : ∀ path, index.fileDefinitions path = .ok []
  localDefinitions : ∀ lang path name, index.localDefinitions lang path name = .ok []
  totals : index.totals = empty.totals

theorem cleared_run {history : List Change} (recorded : Recorded history)
    (emptied : live history = []) : (run history).Cleared := by
  have shows := shows_run recorded
  rw [emptied] at shows
  have files : (run history).files = .empty := Table.ext_entries shows.files
  have definition (identity : Identity) : (run history).definition identity = none := by
    rw [Option.eq_none_iff_forall_ne_some]
    intro definition stored
    obtain ⟨found, member, _⟩ := exists_owner stored
    rw [emptied] at member
    cases member
  have definitions : (run history).definitions.entries = [] := by
    rw [List.eq_nil_iff_forall_not_mem]
    intro entry member
    have stored := definition entry.1
    rw [Index.definition, Table.get?_eq_some.2 member] at stored
    cases stored
  have in_file (path : String) : (run history).fileDefinitions path = .ok [] := by
    apply fileDefinitions_unknown
    rw [files]
    rfl
  refine ⟨shows.agreeOnFiles shows_empty, definition, definitions, in_file, ?_, ?_⟩
  · intro lang path name
    exact localDefinitions_of_ok (in_file path) lang name
  · have no_definitions : (run history).definitions = .empty := Table.ext_entries definitions
    have references (identity : Identity) :
        ((run history).referencesTo identity).Perm (empty.referencesTo identity) := by
      rw [shows.references]
      exact .nil
    rw [totals, totals, files, no_definitions,
      total_references shows.cited shows_empty.cited references]
    rfl

theorem lookup_eq_nil {index : Index} {lang name : String} :
    index.lookup lang name = [] ↔
      ∀ identity, identity ∉ index.bucket (Identity.lookupKey lang name) := by
  rw [List.eq_nil_iff_forall_not_mem]
  simp only [lookup, mem_sortTexts, bucket]

theorem exists_key_of_displaced {history : List Change} {identity : Identity} {key : String}
    (displaced : Displaced history identity key) :
    ∃ lang name, key = Identity.lookupKey lang name := by
  obtain ⟨before, found, after, _, replaced, _⟩ := displaced
  obtain ⟨definition, _, rfl⟩ := keyOf_eq_some.1 replaced
  exact ⟨definition.lang, definition.name, rfl⟩

theorem not_displaced_of_clean {history : List Change} (clean : Clean history)
    (identity : Identity) (key : String) : ¬ Displaced history identity key := by
  intro displaced
  have kept := (mem_bucket_run history identity key).2 (.inr displaced)
  have keyed := ((stores_run clean).names.mem_bucket key identity).1 kept
  exact keyOf_ne_of_displaced displaced (keyOf_eq_some.2 keyed)

/-- When every file has been taken out again, every answer is that of the empty index, the
look-ups of names just if no definition took the place of one with another name for good. This
cannot happen where no two files define the same identity. -/
theorem run_emptied {history : List Change} (recorded : Recorded history)
    (emptied : live history = []) :
    (run history).Cleared ∧
      ((∀ lang name, (run history).lookup lang name = []) ↔
        ∀ identity key, ¬ Displaced history identity key) ∧
      (Clean history → ∀ lang name, (run history).lookup lang name = []) := by
  have cleared := cleared_run recorded emptied
  have left (identity : Identity) (key : String) :
      identity ∈ (run history).bucket key ↔ Displaced history identity key := by
    rw [mem_bucket_run, keyOf, cleared.definition]
    simp
  have exactly : (∀ lang name, (run history).lookup lang name = []) ↔
      ∀ identity key, ¬ Displaced history identity key := by
    simp only [lookup_eq_nil, left]
    constructor
    · intro none_left identity key displaced
      obtain ⟨lang, name, rfl⟩ := exists_key_of_displaced displaced
      exact none_left lang name identity displaced
    · intro none_left lang name identity
      exact none_left identity _
  exact ⟨cleared, exactly, fun clean => exactly.2 (not_displaced_of_clean clean)⟩

def qualifiedName : Findings :=
  .ofList "py" "a.py" [.definition "x::f" "func" (.single ⟨1, 1⟩) none]

def qualifiedPath : Findings :=
  .ofList "py" "a.py::x" [.definition "f" "func" (.single ⟨1, 1⟩) none]

def putBack : List Change :=
  [.merge qualifiedName, .merge qualifiedPath, .merge qualifiedName, .evict "a.py",
    .evict "a.py::x"]

theorem recorded_putBack : Recorded putBack := by
  simp [putBack, qualifiedName, qualifiedPath]

theorem run_emptied_putBack :
    Recorded putBack ∧ live putBack = [] ∧ (run putBack).Cleared ∧
      ((∀ lang name, (run putBack).lookup lang name = []) ↔
        ∀ identity key, ¬ Displaced putBack identity key) ∧
      (Clean putBack → ∀ lang name, (run putBack).lookup lang name = []) :=
  have emptied : live putBack = [] := rfl
  ⟨recorded_putBack, emptied, run_emptied recorded_putBack emptied⟩

def displacing : List Change :=
  [.merge qualifiedName, .merge qualifiedPath, .evict "a.py", .evict "a.py::x"]

theorem recorded_displacing : Recorded displacing := by
  simp [displacing, qualifiedName, qualifiedPath]

/-- The name of the definition that was displaced can still be looked up, and gives an identity
that nothing defines. -/
theorem lookup_displacing :
    Recorded displacing ∧ live displacing = [] ∧
      (run displacing).lookup "py" "x::f" = ["py::a.py::x::f"] ∧
      empty.lookup "py" "x::f" = [] ∧ (run displacing).definition "py::a.py::x::f" = none := by
  have kept : (run displacing).bucket "py:x::f" = ["py::a.py::x::f"] := by decide +kernel
  refine ⟨recorded_displacing, rfl, ?_, ?_, by decide +kernel⟩
  · exact (congrArg sortTexts kept).trans (List.mergeSort_singleton _)
  · exact List.mergeSort_nil

end Index
end CodeNav
