import CodeNav.Proofs.Index.Steps

/-! The names of an index: under each key stand the identities whose definitions have that key.
Writing a new definition and taking one out keep this, whatever else the index holds. -/
namespace CodeNav

def Definition.key (definition : Definition) : String :=
  Identity.lookupKey definition.lang definition.name

namespace Index

def keyOf (index : Index) (identity : Identity) : Option String :=
  (index.definition identity).map Definition.key

theorem keyOf_eq_some {index : Index} {identity : Identity} {key : String} :
    index.keyOf identity = some key ↔
      ∃ definition, index.definition identity = some definition ∧ definition.key = key :=
  Option.map_eq_some_iff

/-- Under each key stand, once each, the identities whose stored definitions have the key. -/
structure NamesExact (index : Index) : Prop where
  mem_bucket : ∀ key identity, identity ∈ index.bucket key ↔
    ∃ definition, index.definition identity = some definition ∧ definition.key = key
  nodup : ∀ key, (index.bucket key).Nodup

theorem namesExact_empty : empty.NamesExact := by
  constructor
  · intro key identity
    constructor
    · intro member
      cases member
    · rintro ⟨definition, stored, _⟩
      cases stored
  · intro key
    exact List.nodup_nil

theorem mem_addIdentity {identity other : Identity} {known : Option (List Identity)} :
    other ∈ addIdentity identity known ↔ other ∈ known.getD [] ∨ other = identity := by
  rw [addIdentity]
  split
  · next known_before =>
    constructor
    · exact .inl
    · rintro (member | rfl)
      · exact member
      · exact known_before
  · rw [List.mem_append, List.mem_singleton]

theorem nodup_addIdentity {identity : Identity} {known : Option (List Identity)}
    (distinct : (known.getD []).Nodup) : (addIdentity identity known).Nodup := by
  rw [addIdentity]
  split
  · exact distinct
  · next absent =>
    refine List.nodup_append.2 ⟨distinct, List.nodup_singleton _, ?_⟩
    rintro first member second here rfl
    exact absent (List.mem_singleton.1 here ▸ member)

theorem bucket_addDefinition (index : Index) (identity : Identity) (definition : Definition)
    (key : String) :
    (index.addDefinition identity definition).bucket key =
      if definition.key = key then addIdentity identity (index.names.get? key)
      else index.bucket key := by
  rw [bucket, addDefinition, Table.get?_alter]
  by_cases same : definition.key = key
  · subst same
    simp [Definition.key]
  · rw [Definition.key] at same
    rw [if_neg same, Definition.key, if_neg same]
    rfl

theorem mem_bucket_addDefinition {index : Index} {identity other : Identity}
    {definition : Definition} {key : String} :
    other ∈ (index.addDefinition identity definition).bucket key ↔
      other ∈ index.bucket key ∨ other = identity ∧ definition.key = key := by
  rw [bucket_addDefinition]
  by_cases keyed : definition.key = key
  · simp [keyed, mem_addIdentity, bucket]
  · simp [keyed]

theorem definition_addDefinition (index : Index) (identity : Identity) (definition : Definition)
    (other : Identity) :
    (index.addDefinition identity definition).definition other =
      if identity = other then some definition else index.definition other :=
  Table.get?_insert index.definitions identity definition other

theorem NamesExact.addDefinition {index : Index} (exact_names : index.NamesExact)
    {identity : Identity} (fresh : index.definition identity = none) (definition : Definition) :
    (index.addDefinition identity definition).NamesExact := by
  constructor
  · intro key other
    have known := exact_names.mem_bucket key other
    have before : (∃ stored, (index.addDefinition identity definition).definition other =
        some stored ∧ stored.key = key) ↔
        other ∈ index.bucket key ∨ other = identity ∧ definition.key = key := by
      rw [known, definition_addDefinition]
      by_cases same : identity = other
      · subst same
        simp [fresh]
      · simp [same, Ne.symm same]
    rw [before, mem_bucket_addDefinition]
  · intro key
    rw [bucket_addDefinition]
    split
    · exact nodup_addIdentity (exact_names.nodup key)
    · exact exact_names.nodup key

theorem getD_dropName (names : Table String (List Identity)) (key : String)
    (identity : Identity) (other : String) :
    ((dropName names key identity).get? other).getD [] =
      if key = other then ((names.get? other).getD []).filter (· ≠ identity)
      else (names.get? other).getD [] := by
  rw [dropName]
  split
  · next absent =>
    split
    · next same =>
      rw [← same, absent]
      rfl
    · rfl
  · next known stored =>
    dsimp only
    rw [Table.getD_prune]
    split
    · next same =>
      rw [← same, stored]
      rfl
    · rfl

theorem bucket_dropDefinition {index : Index} {identity : Identity} {definition : Definition}
    (stored : index.definition identity = some definition) (key : String) :
    (index.dropDefinition identity).bucket key =
      if definition.key = key then (index.bucket key).filter (· ≠ identity)
      else index.bucket key := by
  rw [Index.definition] at stored
  rw [bucket, dropDefinition, stored]
  exact getD_dropName index.names _ identity key

theorem dropDefinition_of_none {index : Index} {identity : Identity}
    (absent : index.definition identity = none) : index.dropDefinition identity = index := by
  rw [definition] at absent
  rw [dropDefinition, absent]

theorem definition_dropDefinition (index : Index) (identity other : Identity) :
    (index.dropDefinition identity).definition other =
      if identity = other then none else index.definition other := by
  rw [definition, definitions_dropDefinition, Table.get?_erase]
  rfl

theorem keyOf_dropDefinition (index : Index) (dropped identity : Identity) :
    (index.dropDefinition dropped).keyOf identity =
      if dropped = identity then none else index.keyOf identity := by
  unfold keyOf
  rw [definition_dropDefinition]
  split <;> rfl

/-- Taking out a definition takes its identity from the one key under which it stands. -/
theorem mem_bucket_dropDefinition (index : Index) (dropped identity : Identity) (key : String) :
    identity ∈ (index.dropDefinition dropped).bucket key ↔
      identity ∈ index.bucket key ∧ ¬ (dropped = identity ∧ index.keyOf identity = some key) := by
  cases stored : index.definition dropped with
  | none =>
    have keyless : ¬ (dropped = identity ∧ index.keyOf identity = some key) := by
      rintro ⟨rfl, keyed⟩
      simp [keyOf, stored] at keyed
    rw [dropDefinition_of_none stored]
    simp [keyless]
  | some definition =>
    rw [bucket_dropDefinition stored]
    by_cases same : dropped = identity
    · subst same
      by_cases keyed : definition.key = key <;> simp [keyOf, stored, keyed]
    · by_cases keyed : definition.key = key <;> simp [keyed, same, Ne.symm same]

theorem NamesExact.dropDefinition {index : Index} (exact_names : index.NamesExact)
    (identity : Identity) : (index.dropDefinition identity).NamesExact := by
  constructor
  · intro key other
    rw [mem_bucket_dropDefinition, exact_names.mem_bucket, ← keyOf_eq_some, ← keyOf_eq_some,
      keyOf_dropDefinition]
    by_cases same : identity = other
    · simp [same]
    · simp [same]
  · intro key
    cases stored : index.definition identity with
    | none =>
      rw [dropDefinition_of_none stored]
      exact exact_names.nodup key
    | some definition =>
      rw [bucket_dropDefinition stored]
      split
      · exact (exact_names.nodup key).filter _
      · exact exact_names.nodup key

@[simp] theorem names_dropReferences (file : String) (index : Index) (identity : Identity) :
    (dropReferences file index identity).names = index.names := rfl

@[simp] theorem names_addReferences (index : Index) (entry : Identity × List Reference) :
    (index.addReferences entry.1 entry.2).names = index.names := rfl

theorem NamesExact.congr {index other : Index} (exact_names : index.NamesExact)
    (names : other.names = index.names) (definitions : other.definitions = index.definitions) :
    other.NamesExact := by
  constructor
  · intro key identity
    rw [bucket, names, definition, definitions]
    exact exact_names.mem_bucket key identity
  · intro key
    rw [bucket, names]
    exact exact_names.nodup key

theorem NamesExact.without {index : Index} (exact_names : index.NamesExact) (file : String)
    (entry : FileEntry) : (index.without file entry).NamesExact := by
  have start : (entry.defined.foldl Index.dropDefinition index).NamesExact :=
    List.foldlRecOn _ _ exact_names fun _ kept identity _ => kept.dropDefinition identity
  refine start.congr ?_ ?_
  · rw [Index.without, foldl_keeps (names_dropReferences file)]
  · rw [Index.without, foldl_keeps (definitions_dropReferences file)]

theorem NamesExact.absorb {index : Index} (exact_names : index.NamesExact) {found : Findings}
    (fresh : ∀ identity ∈ found.definitions.keys, index.definition identity = none) :
    (index.absorb found).NamesExact := by
  have start : (found.definitions.entries.foldl
      (fun index entry => index.addDefinition entry.1 entry.2) index).NamesExact := by
    have distinct := found.definitions.nodup
    rw [Table.keys] at fresh
    generalize found.definitions.entries = added at distinct fresh ⊢
    induction added generalizing index with
    | nil => exact exact_names
    | cons entry rest ih =>
      rw [List.map_cons, List.nodup_cons] at distinct
      refine ih (exact_names.addDefinition (fresh entry.1 (by simp)) entry.2) distinct.2 ?_
      intro identity member
      have other : entry.1 ≠ identity := fun same => distinct.1 (same ▸ member)
      rw [definition_addDefinition, if_neg other]
      exact fresh identity (by simp [List.mem_map.1 member])
  refine start.congr ?_ ?_
  · rw [Index.absorb]
    dsimp only
    rw [foldl_keeps names_addReferences]
  · rw [Index.absorb]
    dsimp only
    rw [foldl_keeps definitions_addReferences]

end Index
end CodeNav
