import CodeNav.Proofs.Index.HistoryIndependence
import CodeNav.Proofs.Listing

/-! Indexes of the same findings that came in in different orders. They give the same answers, but
for the order in which the references to a symbol from different files are listed. Whatever
belongs to one file comes from its findings alone, so its order is the same in both. -/
namespace CodeNav.Index

/-- The same answers, up to the order of references from different files. No question about a
file's definitions fails. -/
structure AgreeUpToOrder (left right : Index) : Prop where
  definition : ∀ identity, left.definition identity = right.definition identity
  lookup : ∀ lang name, left.lookup lang name = right.lookup lang name
  references : ∀ identity, (left.referencesTo identity).Perm (right.referencesTo identity)
  referencesFrom : ∀ identity file,
    ((left.referencesTo identity).filter fun reference => reference.file = file) =
      (right.referencesTo identity).filter fun reference => reference.file = file
  occurrences : ∀ path, left.occurrences path = right.occurrences path
  imports : ∀ path, left.imports path = right.imports path
  fileNames : left.fileNames = right.fileNames
  languageOf : ∀ path, left.languageOf path = right.languageOf path
  fileDefinitions : ∀ path, ∃ pairs,
    left.fileDefinitions path = .ok pairs ∧ right.fileDefinitions path = .ok pairs
  localDefinitions : ∀ lang path name, ∃ identities,
    left.localDefinitions lang path name = .ok identities ∧
      right.localDefinitions lang path name = .ok identities
  totals : left.totals = right.totals
  definitionTree : Workspace.sortDefinitions id left.definitions.values =
    Workspace.sortDefinitions id right.definitions.values

variable {left right : Index} {all others : List Findings}

theorem distinct_filter_eq {file : String}
    (distinct : (all.map fun found => Path.normalize found.file).Nodup) (perm : all.Perm others) :
    (all.filter fun found => Path.normalize found.file = file) =
      others.filter fun found => Path.normalize found.file = file := by
  have apart (some_of : List Findings)
      (distinct : (some_of.map fun found => Path.normalize found.file).Nodup) :
      (some_of.filter fun found => Path.normalize found.file = file).Pairwise
        fun a b => Path.normalize a.file ≠ Path.normalize b.file := by
    have pairs := List.pairwise_map.1 distinct
    exact pairs.filter _
  have also_distinct : (others.map fun found => Path.normalize found.file).Nodup :=
    (perm.map _).nodup distinct
  have kept := perm.filter fun found => decide (Path.normalize found.file = file)
  -- There are no two of them, so their order plays no part.
  apply kept.eq_of_pairwise _ (apart all distinct) (apart others also_distinct)
  intro a b first second other _
  have same_first := of_decide_eq_true (List.mem_filter.1 first).2
  have same_second := of_decide_eq_true (List.mem_filter.1 second).2
  exact absurd (same_first.trans same_second.symm) other

theorem filter_flatMap_eq {α : Type} {items : Findings → List α} {kept : α → Bool} {file : String}
    (distinct : (all.map fun found => Path.normalize found.file).Nodup) (perm : all.Perm others)
    (within : ∀ found ∈ all, ∀ item ∈ items found, kept item = true →
      Path.normalize found.file = file) :
    (all.flatMap items).filter kept = (others.flatMap items).filter kept := by
  -- On both sides only the findings of the one file count.
  have narrowed (some_of : List Findings) (part : ∀ found ∈ some_of, found ∈ all) :
      (some_of.flatMap items).filter kept =
        ((some_of.filter fun found => Path.normalize found.file = file).flatMap items).filter
          kept := by
    induction some_of with
    | nil => rfl
    | cons found rest ih =>
      have tail := ih fun other member => part other (List.mem_cons_of_mem _ member)
      rw [List.flatMap_cons, List.filter_append, tail]
      by_cases here : Path.normalize found.file = file
      · rw [List.filter_cons_of_pos (by simp [here]), List.flatMap_cons, List.filter_append]
      · have gone : (items found).filter kept = [] := by
          rw [List.filter_eq_nil_iff]
          intro item member stays
          exact here (within found (part found List.mem_cons_self) item member stays)
        rw [gone, List.nil_append, List.filter_cons_of_neg (by simp [here])]
  rw [narrowed all fun _ member => member, narrowed others fun _ member => perm.mem_iff.2 member,
    distinct_filter_eq distinct perm]

theorem get?_foldl_tally (labels : List String) (counts : Table String Nat) (label : String) :
    (labels.foldl tally counts).get? label =
      if label ∈ labels then some ((counts.get? label).getD 0 + labels.count label)
      else counts.get? label := by
  induction labels generalizing counts with
  | nil => rfl
  | cons first rest ih =>
    rw [List.foldl_cons, ih, tally, Table.get?_alter]
    by_cases same : first = label
    · subst same
      by_cases again : first ∈ rest
      · simp [again]
        omega
      · simp [again, List.count_eq_zero.2 again]
    · simp [same, Ne.symm same]

theorem get?_tally_eq_of_perm {labels others : List String} (perm : labels.Perm others)
    (counts : Table String Nat) (label : String) :
    (labels.foldl tally counts).get? label = (others.foldl tally counts).get? label := by
  rw [get?_foldl_tally, get?_foldl_tally, perm.count_eq]
  simp only [perm.mem_iff]

theorem sortCounts_eq {left right : Table String Nat}
    (same : ∀ label, left.get? label = right.get? label) : sortCounts left = sortCounts right := by
  apply Table.mergeSort_entries_eq _ _ _ same
  · intro a b c first second
    rw [decide_eq_true_eq] at first second ⊢
    exact le_trans first second
  · intro a b
    rw [Bool.or_eq_true, decide_eq_true_eq, decide_eq_true_eq]
    exact le_total _ _
  · intro a b first second
    exact le_antisymm (of_decide_eq_true first) (of_decide_eq_true second)

theorem Lists.files_perm (first : left.Lists all) (second : right.Lists others)
    (perm : all.Perm others) : left.files.entries.Perm right.files.entries := by
  rw [first.files, second.files]
  exact perm.map _

theorem Stores.definition_eq (first : left.Stores all) (second : right.Stores others)
    (perm : all.Perm others) (identity : Identity) :
    left.definition identity = right.definition identity := by
  ext definition
  rw [first.definition_eq_some, second.definition_eq_some]
  simp only [perm.mem_iff]

theorem Shows.references_perm (first : left.Shows all) (second : right.Shows others)
    (perm : all.Perm others) (identity : Identity) :
    (left.referencesTo identity).Perm (right.referencesTo identity) := by
  rw [first.references, second.references]
  exact perm.flatMap_right _

theorem Shows.references_within (first : left.Shows all) (second : right.Shows others)
    (perm : all.Perm others) (identity : Identity) (file : String) :
    ((left.referencesTo identity).filter fun reference => reference.file = file) =
      (right.referencesTo identity).filter fun reference => reference.file = file := by
  rw [first.references, second.references]
  apply filter_flatMap_eq first.distinct perm
  intro found member reference cites here
  have coherent := first.coherent found member
  rw [coherent.file, ← (coherent.references identity reference cites).2]
  exact of_decide_eq_true here

theorem Stores.totals_eq (first : left.Stores all) (second : right.Stores others)
    (first_shows : left.Shows all) (second_shows : right.Shows others) (perm : all.Perm others) :
    left.totals = right.totals := by
  have files := first_shows.files_perm second_shows.toLists perm
  have definitions := Table.entries_perm (first.definition_eq second perm)
  have entries := files.map Prod.snd
  have languages := get?_tally_eq_of_perm (entries.map FileEntry.lang) .empty
  simp only [totals, Totals.mk.injEq]
  refine ⟨files.length_eq, definitions.length_eq, ?_, ?_, sortCounts_eq languages⟩
  · exact total_references first_shows.cited second_shows.cited
      (first_shows.references_perm second_shows perm)
  · exact total_eq_of_perm (entries.map fun entry => entry.occurrences.length)

theorem Stores.listing_eq (first : left.Stores all) (second : right.Stores others)
    (shows : left.Shows all) (perm : all.Perm others) :
    Workspace.sortDefinitions id left.definitions.values =
      Workspace.sortDefinitions id right.definitions.values := by
  have values {index : Index} {some_of : List Findings} (stores : index.Stores some_of) :
      index.definitions.values = some_of.flatMap fun found => found.definitions.values := by
    rw [Table.values, stores.definitions, List.map_flatMap]
    rfl
  apply Workspace.sortDefinitions_eq
  intro file
  rw [values first, values second]
  apply filter_flatMap_eq shows.distinct perm
  intro found member definition inside here
  have coherent := shows.coherent found member
  obtain ⟨identity, stored⟩ := Table.mem_values.1 inside
  rw [coherent.file, ← (coherent.definitions identity definition stored).2]
  exact of_decide_eq_true here

theorem Stores.agreeUpToOrder (first : left.Stores all) (second : right.Stores others)
    (first_shows : left.Shows all) (second_shows : right.Shows others) (perm : all.Perm others) :
    AgreeUpToOrder left right := by
  have files := first_shows.files_perm second_shows.toLists perm
  have same := first.definition_eq second perm
  have entry (path : String) : left.entry? path = right.entry? path :=
    Table.get?_eq_of_perm files _
  have in_file (path : String) :=
    first.fileDefinitions_alike first_shows.toLists (entry path) same
  constructor
  case definition => exact same
  case lookup =>
    intro lang name
    exact sortTexts_eq_of_perm (first.names.bucket_perm second.names same _)
  case references => exact first_shows.references_perm second_shows perm
  case referencesFrom => exact first_shows.references_within second_shows perm
  case occurrences =>
    intro path
    rw [occurrences, occurrences, entry]
  case imports =>
    intro path
    rw [imports, imports, entry]
  case fileNames => exact sortTexts_eq_of_perm (files.map Prod.fst)
  case languageOf =>
    intro path
    rw [languageOf, languageOf, entry]
  case fileDefinitions => exact in_file
  case localDefinitions =>
    intro lang path name
    obtain ⟨pairs, here, there⟩ := in_file path
    exact ⟨_, localDefinitions_of_ok here lang name, localDefinitions_of_ok there lang name⟩
  case totals => exact first.totals_eq second first_shows second_shows perm
  case definitionTree => exact first.listing_eq second first_shows perm

end CodeNav.Index
