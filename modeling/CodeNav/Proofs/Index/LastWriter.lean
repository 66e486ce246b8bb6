import CodeNav.Proofs.Index.Displaced

/-! What stands under an identity that several files may define: what the latest merge that defines
it wrote, unless a file that owned it has been taken out since. Taking out one file so takes along
the definition that another one wrote. The other file is still in, and then the question for its
definitions fails; this is the only way in which anything fails. -/
namespace CodeNav

namespace Table

variable {κ ν : Type} [DecidableEq κ]

def remove? (table : Table κ ν) (key : κ) : Option (Table κ ν) :=
  if table.contains key then some (table.erase key) else none

theorem remove?_of_get? {table : Table κ ν} {key : κ} {value : ν}
    (stored : table.get? key = some value) : table.remove? key = some (table.erase key) := by
  simp [remove?, contains_eq, stored]

end Table

namespace Index

def Change.path : Change → String
  | .merge found => found.file
  | .evict path => path

def Change.written? (identity : Identity) : Change → Option Definition
  | .merge found => found.definitions.get? identity
  | .evict _ => none

def Owned (live : List Findings) (path : String) (identity : Identity) : Prop :=
  ∃ found ∈ live, Path.normalize found.file = Path.normalize path ∧
    identity ∈ found.definitions.keys

/-- The latest merge that defines the identity wrote the definition, and since then no file was
taken out that owned the identity at that time. -/
def LastWritten (history : List Change) (identity : Identity) (definition : Definition) : Prop :=
  ∃ before found after, history = before ++ .merge found :: after ∧
    found.definitions.get? identity = some definition ∧
    (∀ later, .merge later ∈ after → identity ∉ later.definitions.keys) ∧
    ∀ between change rest, after = between ++ change :: rest →
      ¬ Owned (live (before ++ .merge found :: between)) change.path identity

/-- The file is in and its latest findings define the identity, but no definition of it stands. -/
def Lost (history : List Change) (path : String) (identity : Identity) : Prop :=
  Owned (live history) path identity ∧ (run history).definition identity = none

/-- The question fails just if some identity is lost, and the error names one that is. -/
structure FailsOver {α : Type} (answer : Except Dangling α) (lost : Identity → Prop) : Prop where
  fails : (∃ error, answer = .error error) ↔ ∃ identity, lost identity
  names : ∀ error, answer = .error error → lost error.identity

theorem lastWritten_append_singleton {before : List Change} {change : Change}
    {identity : Identity} {definition : Definition} :
    LastWritten (before ++ [change]) identity definition ↔
      change.written? identity = some definition ∨
        (change.written? identity = none ∧ LastWritten before identity definition ∧
          ¬ Owned (live before) change.path identity) := by
  constructor
  · rintro ⟨first, found, after, split_at, written, unwritten, untouched⟩
    rcases append_singleton_eq_append_cons.1 split_at with ⟨rfl, rfl, rfl⟩ | ⟨rest, rfl, rfl⟩
    · exact .inl written
    · refine .inr ⟨?_, ⟨first, found, rest, rfl, written, ?_, ?_⟩, ?_⟩
      · cases change with
        | merge latest => exact Table.get?_eq_none.2 (unwritten latest (by simp))
        | evict path => rfl
      · intro later member
        exact unwritten later (List.mem_append_left _ member)
      · rintro between other others rfl
        exact untouched between other (others ++ [change]) (by simp)
      · exact untouched rest change [] rfl
  · rintro (written | ⟨unwritten_here, ⟨first, found, after, rfl, written, unwritten, untouched⟩,
      unowned⟩)
    · cases change with
      | merge found =>
        refine ⟨before, found, [], rfl, written, nofun, ?_⟩
        intro between other rest split_at
        simp at split_at
      | evict path => cases written
    · refine ⟨first, found, after ++ [change], by simp, written, ?_, ?_⟩
      · intro later member
        rcases List.mem_append.1 member with earlier | here
        · exact unwritten later earlier
        · obtain rfl := List.mem_singleton.1 here
          exact Table.get?_eq_none.1 unwritten_here
      · intro between other rest split_at
        rcases append_singleton_eq_append_cons.1 split_at with ⟨rfl, rfl, rfl⟩ | ⟨more, rfl, rfl⟩
        · exact unowned
        · exact untouched between other more rfl

theorem Lists.owns_iff {index : Index} {all : List Findings} (lists : index.Lists all)
    {path : String} {identity : Identity} :
    index.Owns path identity ↔ Owned all path identity := by
  constructor
  · rintro ⟨entry, known, defined⟩
    obtain ⟨found, member, file, rfl⟩ := lists.mem_of_entry known
    exact ⟨found, member, file, defined⟩
  · rintro ⟨found, member, file, defined⟩
    exact ⟨entryOf found, file ▸ lists.entry_of_mem member, defined⟩

/-- A definition stands just if it was the last to be written, with all its owners left in. -/
theorem definition_run {history : List Change} {identity : Identity} {definition : Definition} :
    (run history).definition identity = some definition ↔
      LastWritten history identity definition := by
  induction history using List.reverseRecOn with
  | nil =>
    constructor
    · intro stored
      cases stored
    · rintro ⟨first, found, after, split_at, _⟩
      simp at split_at
  | append_singleton before change ih =>
    rw [run_append_singleton, lastWritten_append_singleton, ← ih, ← (lists_run before).owns_iff]
    cases change with
    | evict path => simp [apply, definition_evict, Change.written?, Change.path]
    | merge found =>
      rw [apply, merge_eq_evict, definition_absorb, Option.or_eq_some_iff, definition_evict]
      rfl

theorem ownedDefinition_eq_error {index : Index} {identity : Identity} {error : Dangling} :
    index.ownedDefinition identity = .error error ↔
      index.definition identity = none ∧ error = ⟨identity⟩ := by
  rw [ownedDefinition]
  cases index.definition identity with
  | some definition => simp
  | none => simp [eq_comm]

theorem Lists.mem_definedBy {index : Index} {all : List Findings} (lists : index.Lists all)
    {path : String} {identity : Identity} :
    identity ∈ index.definedBy path ↔ Owned all path identity := by
  rw [← lists.owns_iff, Owns, definedBy, entry?]
  cases index.files.get? (Path.normalize path) <;> simp

theorem FailsOver.bind {α β : Type} {answer : Except Dangling α} {lost : Identity → Prop}
    (fails_over : FailsOver answer lost) {next : α → β} :
    FailsOver (answer >>= fun value => .ok (next value)) lost := by
  cases answer with
  | ok value => exact ⟨⟨nofun, fun lost => nomatch fails_over.fails.2 lost⟩, nofun⟩
  | error error =>
    refine ⟨⟨fun _ => fails_over.fails.1 ⟨error, rfl⟩, fun _ => ⟨error, rfl⟩⟩, ?_⟩
    rintro other ⟨⟩
    exact fails_over.names error rfl

theorem failsOver_mapM (index : Index) (owned : List Identity) :
    FailsOver (owned.mapM index.ownedDefinition)
      fun identity => identity ∈ owned ∧ index.definition identity = none := by
  constructor
  case names =>
    intro error failed
    obtain ⟨identity, member, missing⟩ := exists_of_mapM_eq_error failed
    obtain ⟨none_there, rfl⟩ := ownedDefinition_eq_error.1 missing
    exact ⟨member, none_there⟩
  case fails =>
    constructor
    · rintro ⟨error, failed⟩
      obtain ⟨identity, member, missing⟩ := exists_of_mapM_eq_error failed
      exact ⟨identity, member, (ownedDefinition_eq_error.1 missing).1⟩
    · rintro ⟨identity, member, missing⟩
      exact exists_mapM_eq_error member (ownedDefinition_eq_error.2 ⟨missing, rfl⟩)

theorem failsOver_fileDefinitions (history : List Change) (path : String) :
    FailsOver ((run history).fileDefinitions path) (Lost history path) := by
  have owned := failsOver_mapM (run history) ((run history).definedBy path)
  simp only [(lists_run history).mem_definedBy] at owned
  rw [fileDefinitions_eq]
  exact owned.bind

theorem failsOver_localDefinitions (history : List Change) (lang path name : String) :
    FailsOver ((run history).localDefinitions lang path name) (Lost history path) := by
  rw [localDefinitions_eq]
  exact (failsOver_fileDefinitions history path).bind

def dropName? (names : Table String (List Identity)) (key : String) (identity : Identity) :
    Option (Table String (List Identity)) :=
  match names.get? key with
  | none => some names
  | some known =>
    let kept := known.filter (· ≠ identity)
    if kept.isEmpty then names.remove? key else some (names.insert key kept)

def dropDefinition? (index : Index) (identity : Identity) : Option Index :=
  match index.definitions.get? identity with
  | none => some index
  | some definition =>
    (dropName? index.names (Identity.lookupKey definition.lang definition.name) identity).map
      fun names => { index with definitions := index.definitions.erase identity, names }

/-- As `evict`, where all that is taken out by its key has to be there. -/
def evict? (index : Index) (path : String) : Option Index := do
  let file := Path.normalize path
  match index.files.get? file with
  | none => some index
  | some entry =>
    let index ← entry.defined.foldlM dropDefinition? index
    let index := entry.referred.foldl (dropReferences file) index
    let files ← index.files.remove? file
    return { index with files }

def after? (index : Index) : Change → Option Index
  | .merge found => (index.evict? found.file).map fun index => index.absorb found
  | .evict path => index.evict? path

theorem dropName?_eq (names : Table String (List Identity)) (key : String) (identity : Identity) :
    dropName? names key identity = some (dropName names key identity) := by
  rw [dropName?, dropName]
  cases stored : names.get? key with
  | none => rfl
  | some known =>
    dsimp only
    split
    · exact Table.remove?_of_get? stored
    · rfl

theorem dropDefinition?_eq (index : Index) (identity : Identity) :
    index.dropDefinition? identity = some (index.dropDefinition identity) := by
  rw [dropDefinition?, dropDefinition]
  cases index.definitions.get? identity with
  | none => rfl
  | some definition => simp only [dropName?_eq, Option.map_some]

theorem foldlM_dropDefinition? (index : Index) (dropped : List Identity) :
    dropped.foldlM dropDefinition? index = some (dropped.foldl dropDefinition index) := by
  induction dropped generalizing index with
  | nil => rfl
  | cons identity rest ih => simp [dropDefinition?_eq, ih]

theorem evict?_eq (index : Index) (path : String) :
    index.evict? path = some (index.evict path) := by
  cases known : index.files.get? (Path.normalize path) with
  | none =>
    rw [evict_unknown known, evict?, known]
  | some entry =>
    have still : (index.without (Path.normalize path) entry).files.get? (Path.normalize path) =
        some entry := by
      rw [files_without, known]
    rw [evict_known known, evict?, known]
    dsimp only
    rw [foldlM_dropDefinition?, Option.bind_eq_bind, Option.bind_some, ← without,
      Table.remove?_of_get? still]
    rfl

theorem after?_eq (index : Index) (change : Change) :
    index.after? change = some (index.apply change) := by
  cases change with
  | merge found => rw [after?, evict?_eq, apply, merge_eq_evict, Option.map_some]
  | evict path => exact evict?_eq index path

/-- After any history, also one in which files share identities, the definition of an identity is
the last that was written, or none if since then a file was taken out that owned it. The questions
for a file's definitions fail just where it owns an identity without a definition, and no change
fails. -/
theorem run_last_writer (history : List Change) :
    (∀ identity definition, (run history).definition identity = some definition ↔
      LastWritten history identity definition) ∧
    (∀ path, FailsOver ((run history).fileDefinitions path) (Lost history path)) ∧
    (∀ lang path name,
      FailsOver ((run history).localDefinitions lang path name) (Lost history path)) ∧
    ∀ change, (run history).after? change = some ((run history).apply change) :=
  ⟨fun _ _ => definition_run, failsOver_fileDefinitions history,
    failsOver_localDefinitions history, after?_eq (run history)⟩

/-- One file takes the definition along that the other one wrote. -/
example : (run [.merge qualifiedName, .merge qualifiedPath, .evict "a.py"]).fileDefinitions
    "a.py::x" = .error ⟨"py::a.py::x::f"⟩ := by
  decide +kernel

end Index
end CodeNav
