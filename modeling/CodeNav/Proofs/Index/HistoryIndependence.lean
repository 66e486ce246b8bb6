import CodeNav.Proofs.Index.FileDefinitions
import CodeNav.Proofs.Sorting

/-! An index does not remember how it came about. After any history its answers are those of a
fresh index into which the findings that are in were merged once, in the order of their last
merges: the answers about files and references always, those about definitions if at no point two
files that were in defined the same identity. -/
namespace CodeNav.Index

structure AgreeOnFiles (left right : Index) : Prop where
  references : ∀ identity, left.referencesTo identity = right.referencesTo identity
  occurrences : ∀ path, left.occurrences path = right.occurrences path
  imports : ∀ path, left.imports path = right.imports path
  fileNames : left.fileNames = right.fileNames
  languageOf : ∀ path, left.languageOf path = right.languageOf path

/-- The same answers about definitions, listed in the same order, and the same totals. No question
about a file's definitions fails. -/
structure AgreeOnDefinitions (left right : Index) : Prop where
  definition : ∀ identity, left.definition identity = right.definition identity
  definitions : left.definitions.entries = right.definitions.entries
  lookup : ∀ lang name, left.lookup lang name = right.lookup lang name
  fileDefinitions : ∀ path, ∃ pairs,
    left.fileDefinitions path = .ok pairs ∧ right.fileDefinitions path = .ok pairs
  localDefinitions : ∀ lang path name, ∃ identities,
    left.localDefinitions lang path name = .ok identities ∧
      right.localDefinitions lang path name = .ok identities
  totals : left.totals = right.totals

variable {left right : Index} {all : List Findings}

theorem Shows.files_eq (first : left.Shows all) (second : right.Shows all) :
    left.files = right.files :=
  Table.ext_entries (first.files.trans second.files.symm)

theorem Shows.agreeOnFiles (first : left.Shows all) (second : right.Shows all) :
    AgreeOnFiles left right := by
  have files := first.files_eq second
  have entry (path : String) : left.entry? path = right.entry? path := by
    rw [ entry?, files]
    rfl
  refine ⟨?_, ?_, ?_, ?_, ?_⟩
  · intro identity
    rw [first.references, second.references]
  · intro path
    rw [occurrences, entry]
    rfl
  · intro path
    rw [imports, entry]
    rfl
  · rw [fileNames, files]
    rfl
  · intro path
    rw [languageOf, entry]
    rfl

theorem total_eq_of_perm {counts others : List Nat} (perm : counts.Perm others) :
    total counts = total others := by
  induction perm with
  | nil => rfl
  | cons count _ ih => exact congrArg (count + ·) ih
  | swap first second rest =>
    simp only [total, List.foldr_cons]
    omega
  | trans _ _ first second => exact first.trans second

theorem mem_keys_references {index : Index} (cited : index.Cited) {identity : Identity} :
    identity ∈ index.references.keys ↔ index.referencesTo identity ≠ [] := by
  rw [Table.mem_keys, referencesTo]
  cases known : index.references.get? identity with
  | none => simp
  | some references =>
    have written : references ≠ [] := by
      rintro rfl
      exact cited identity known
    simp [written]

theorem map_length_references (index : Index) :
    index.references.values.map List.length =
      index.references.keys.map fun identity => (index.referencesTo identity).length := by
  rw [Table.values, Table.keys, List.map_map, List.map_map]
  apply List.map_congr_left
  intro entry member
  have known := Table.get?_eq_some.2 member
  simp only [Function.comp_apply, referencesTo, known, Option.getD_some]

theorem total_references (first : left.Cited) (second : right.Cited)
    (perm : ∀ identity, (left.referencesTo identity).Perm (right.referencesTo identity)) :
    total (left.references.values.map List.length) =
      total (right.references.values.map List.length) := by
  have keys : left.references.keys.Perm right.references.keys := by
    apply (List.perm_ext_iff_of_nodup left.references.nodup right.references.nodup).2
    intro identity
    change identity ∈ left.references.keys ↔ identity ∈ right.references.keys
    rw [mem_keys_references first, mem_keys_references second]
    simp only [ne_eq, ← List.length_eq_zero_iff, (perm identity).length_eq]
  rw [map_length_references, map_length_references]
  have lengths : (fun identity => (left.referencesTo identity).length) =
      fun identity => (right.referencesTo identity).length :=
    funext fun identity => (perm identity).length_eq
  rw [lengths]
  exact total_eq_of_perm (keys.map _)

theorem Stores.definitions_eq (first : left.Stores all) (second : right.Stores all) :
    left.definitions = right.definitions :=
  Table.ext_entries (first.definitions.trans second.definitions.symm)

theorem NamesExact.bucket_perm (first : left.NamesExact) (second : right.NamesExact)
    (same : ∀ identity, left.definition identity = right.definition identity) (key : String) :
    (left.bucket key).Perm (right.bucket key) := by
  rw [List.perm_ext_iff_of_nodup (first.nodup key) (second.nodup key)]
  intro identity
  rw [first.mem_bucket, second.mem_bucket, same]

theorem fileDefinitions_congr {path : String} (entry : left.entry? path = right.entry? path)
    (same : ∀ identity, left.definition identity = right.definition identity) :
    left.fileDefinitions path = right.fileDefinitions path := by
  have owned : left.ownedDefinition = right.ownedDefinition := by
    funext identity
    rw [ownedDefinition, ownedDefinition, same]
  rw [fileDefinitions, fileDefinitions, owned, entry]

theorem Stores.fileDefinitions_alike (stores : left.Stores all) (lists : left.Lists all)
    {path : String} (entry : left.entry? path = right.entry? path)
    (same : ∀ identity, left.definition identity = right.definition identity) :
    ∃ pairs, left.fileDefinitions path = .ok pairs ∧ right.fileDefinitions path = .ok pairs := by
  rw [← fileDefinitions_congr entry same]
  obtain ⟨found, _, _, listed⟩ | ⟨_, listed⟩ := stores.fileDefinitions lists path
  · exact ⟨found.placed, listed, listed⟩
  · exact ⟨[], listed, listed⟩

theorem Stores.agreeOnDefinitions (first : left.Stores all) (second : right.Stores all)
    (first_shows : left.Shows all) (second_shows : right.Shows all) :
    AgreeOnDefinitions left right := by
  have definitions := first.definitions_eq second
  have files := first_shows.files_eq second_shows
  have same (identity : Identity) : left.definition identity = right.definition identity := by
    rw [Index.definition, definitions]
    rfl
  have references (identity : Identity) :
      (left.referencesTo identity).Perm (right.referencesTo identity) := by
    rw [first_shows.references, second_shows.references]
  have in_file (path : String) := first.fileDefinitions_alike first_shows.toLists
    (congrArg (Table.get? · (Path.normalize path)) files) same
  refine ⟨same, congrArg Table.entries definitions, ?_, in_file, ?_, ?_⟩
  · intro lang name
    exact sortTexts_eq_of_perm (first.names.bucket_perm second.names same _)
  · intro lang path name
    obtain ⟨pairs, here, there⟩ := in_file path
    exact ⟨_, localDefinitions_of_ok here lang name, localDefinitions_of_ok there lang name⟩
  · rw [totals, totals, definitions, files,
      total_references first_shows.cited second_shows.cited references]

theorem ofFindings_eq_run (all : List Findings) : ofFindings all = run (all.map .merge) := by
  rw [ofFindings, run, List.foldl_map]
  rfl

def untouched (all : List Findings) (found : Findings) : Bool :=
  all.all fun other => Path.normalize found.file ≠ Path.normalize other.file

/-- Merges of different files that end a history put these files behind those that stay. -/
theorem live_append_merges {history : List Change}
    (distinct : (all.map fun found => Path.normalize found.file).Nodup) :
    live (history ++ all.map .merge) = (live history).filter (untouched all) ++ all := by
  induction all using List.reverseRecOn with
  | nil =>
    have all_stay : (live history).filter (untouched []) = live history :=
      List.filter_eq_self.2 fun _ _ => rfl
    rw [List.map_nil, List.append_nil, List.append_nil, all_stay]
  | append_singleton before latest ih =>
    rw [List.map_append, List.nodup_append] at distinct
    obtain ⟨earlier, _, apart⟩ := distinct
    have stays : before.filter (fun other =>
        Path.normalize other.file ≠ Path.normalize latest.file) = before := by
      rw [List.filter_eq_self]
      intro other member
      rw [decide_eq_true_eq]
      exact apart _ (List.mem_map_of_mem member) _ (List.mem_singleton_self _)
    have both : (fun found => decide (Path.normalize found.file ≠ Path.normalize latest.file) &&
        untouched before found) = untouched (before ++ [latest]) := by
      funext found
      simp [untouched, Bool.and_comm]
    rw [List.map_append, List.map_singleton, ← List.append_assoc, live_append_singleton, liveAfter,
      ih earlier, List.filter_append, List.filter_filter, both, stays, List.append_assoc]

theorem live_map_merge (distinct : (all.map fun found => Path.normalize found.file).Nodup) :
    live (all.map .merge) = all := by
  have fresh : live ([] ++ all.map .merge) = [] ++ all := live_append_merges distinct
  rwa [List.nil_append, List.nil_append] at fresh

theorem clean_map_merge {all : List Findings}
    (distinct : (all.map fun found => Path.normalize found.file).Nodup)
    (disjoint : Disjoint all) : Clean (all.map .merge) := by
  intro before after split_at
  obtain ⟨first, second, rfl, rfl, rfl⟩ := List.map_eq_append_iff.1 split_at
  rw [List.map_append, List.nodup_append] at distinct
  rw [live_map_merge distinct.1]
  exact (List.pairwise_append.1 disjoint).1

theorem recorded_map_merge {all : List Findings} (recorded : ∀ found ∈ all, found.Recorded) :
    Recorded (all.map .merge) := by
  intro found member
  obtain ⟨other, inside, same⟩ := List.mem_map.1 member
  cases same
  exact recorded found inside

/-- An index after a history answers like a fresh one into which what is in was merged. -/
theorem run_agrees_with_live {history : List Change} (recorded : Recorded history) :
    AgreeOnFiles (run history) (ofFindings (live history)) ∧
      (Clean history → AgreeOnDefinitions (run history) (ofFindings (live history))) := by
  have shows := shows_run recorded
  have again := recorded_map_merge (of_mem_live recorded)
  have same := live_map_merge shows.distinct
  have fresh := shows_run again
  rw [same, ← ofFindings_eq_run] at fresh
  refine ⟨shows.agreeOnFiles fresh, ?_⟩
  intro clean
  have stores := stores_run clean
  have fresh_stores := stores_run (clean_map_merge shows.distinct clean.disjoint)
  rw [same, ← ofFindings_eq_run] at fresh_stores
  exact stores.agreeOnDefinitions fresh_stores shows fresh

/-- Two files refer to each other's symbols, one is merged again without them, the other is taken
out and comes back. -/
def mutualUse : List Change :=
  let here : Range := ⟨⟨1, 1⟩, ⟨1, 1⟩, by decide⟩
  let first := Findings.ofList "py" "a.py"
    [.definition "f" "func" here none, .reference "g" here (some "py::b.py::g")]
  let second := Findings.ofList "py" "./b.py"
    [.definition "g" "func" here none, .reference "f" here (some "py::a.py::f"),
      .reference "g" here (some "py::b.py::g"), .noReferences "py::a.py::h"]
  let changed := Findings.ofList "py" "a.py" [.definition "h" "func" here none]
  [.merge first, .merge second, .merge changed, .evict "b.py", .merge second, .merge first]

theorem recorded_mutualUse : Recorded mutualUse := by simp [mutualUse]

theorem clean_mutualUse : Clean mutualUse := clean_of_inits (by decide)

theorem run_agrees_with_live_mutualUse :
    Recorded mutualUse ∧ Clean mutualUse ∧
      AgreeOnFiles (run mutualUse) (ofFindings (live mutualUse)) ∧
      AgreeOnDefinitions (run mutualUse) (ofFindings (live mutualUse)) := by
  obtain ⟨files, definitions⟩ := run_agrees_with_live recorded_mutualUse
  exact ⟨recorded_mutualUse, clean_mutualUse, files, definitions clean_mutualUse⟩

end CodeNav.Index
