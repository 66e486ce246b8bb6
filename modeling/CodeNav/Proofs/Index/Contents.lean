import CodeNav.Index.History
import CodeNav.Proofs.Index.Names
import Mathlib.Data.List.Induction
import Mathlib.Data.List.Infix
import Mathlib.Data.List.Pairwise

/-! What an index holds, told by the findings that are in: the files of all, the references where
the findings are coherent, and the definitions and names where no two of them define the same
identity. Merging and evicting keep all three accounts, so a whole history does. -/
namespace CodeNav.Index

structure Lists (index : Index) (all : List Findings) : Prop where
  files : index.files.entries = all.map fun found => (Path.normalize found.file, entryOf found)

structure Shows (index : Index) (all : List Findings) : Prop extends Lists index all where
  references : ∀ identity,
    index.referencesTo identity = all.flatMap fun found => found.referencesTo identity
  cited : index.Cited
  coherent : ∀ found ∈ all, found.Coherent

structure Stores (index : Index) (all : List Findings) : Prop where
  definitions : index.definitions.entries = all.flatMap fun found => found.definitions.entries
  names : index.NamesExact

def elsewhere (file : String) (found : Findings) : Bool := decide (Path.normalize found.file ≠ file)

theorem Disjoint.apart {all : List Findings} (disjoint : Disjoint all) {first second : Findings}
    (member : first ∈ all) (inside : second ∈ all) (other : first ≠ second) {identity : Identity}
    (defines : identity ∈ first.definitions.keys) : identity ∉ second.definitions.keys := by
  have symmetric : Std.Symm fun a b : Findings =>
      ∀ identity ∈ a.definitions.keys, identity ∉ b.definitions.keys :=
    ⟨fun _ _ clash identity first second => clash identity second first⟩
  exact List.Pairwise.forall disjoint member inside other identity defines

theorem filter_flatMap_of {α β : Type} {kept : α → Bool} {kept_item : β → Bool}
    {items : α → List β} {all : List α}
    (stays : ∀ a ∈ all, kept a = true → ∀ item ∈ items a, kept_item item = true)
    (goes : ∀ a ∈ all, kept a = false → ∀ item ∈ items a, kept_item item = false) :
    (all.flatMap items).filter kept_item = (all.filter kept).flatMap items := by
  induction all with
  | nil => rfl
  | cons a rest ih =>
    have tail := ih (fun b member => stays b (List.mem_cons_of_mem _ member))
      fun b member => goes b (List.mem_cons_of_mem _ member)
    rw [List.flatMap_cons, List.filter_append, tail]
    cases here : kept a with
    | true =>
      rw [List.filter_cons_of_pos here, List.flatMap_cons,
        List.filter_eq_self.2 (stays a List.mem_cons_self here)]
    | false =>
      have gone : (items a).filter kept_item = [] := by
        rw [List.filter_eq_nil_iff]
        intro item member
        rw [goes a List.mem_cons_self here item member]
        exact Bool.false_ne_true
      rw [gone, List.nil_append, List.filter_cons_of_neg (by simp [here])]

theorem mem_referred {found : Findings} {identity : Identity} :
    identity ∈ (entryOf found).referred ↔ found.referencesTo identity ≠ [] := by
  rw [entryOf, Findings.referencesTo]
  constructor
  · intro member
    obtain ⟨⟨known, references⟩, here, rfl⟩ := List.mem_map.1 member
    obtain ⟨stored, written⟩ := List.mem_filter.1 here
    rw [Table.get?_eq_some.2 stored]
    simpa using written
  · intro written
    cases stored : found.references.get? identity with
    | none =>
      rw [stored] at written
      exact absurd rfl written
    | some references =>
      rw [stored] at written
      refine List.mem_map.2 ⟨(identity, references), ?_, rfl⟩
      exact List.mem_filter.2 ⟨Table.get?_eq_some.1 stored, by simpa using written⟩

theorem lists_empty : empty.Lists [] := ⟨rfl⟩

theorem shows_empty : empty.Shows [] :=
  ⟨lists_empty, fun _ => rfl, fun _ => nofun, nofun⟩

theorem stores_empty : empty.Stores [] := ⟨rfl, namesExact_empty⟩

namespace Lists

variable {index : Index} {all : List Findings}

theorem distinct (lists : index.Lists all) :
    (all.map fun found => Path.normalize found.file).Nodup := by
  have keys := index.files.nodup
  simpa only [lists.files, List.map_map, Function.comp_def] using keys

theorem entry_of_mem (lists : index.Lists all) {found : Findings} (member : found ∈ all) :
    index.files.get? (Path.normalize found.file) = some (entryOf found) := by
  rw [Table.get?_eq_some, lists.files]
  exact List.mem_map_of_mem member

theorem mem_of_entry (lists : index.Lists all) {file : String} {entry : FileEntry}
    (known : index.files.get? file = some entry) :
    ∃ found ∈ all, Path.normalize found.file = file ∧ entry = entryOf found := by
  rw [Table.get?_eq_some, lists.files] at known
  obtain ⟨found, member, same⟩ := List.mem_map.1 known
  obtain ⟨file_same, entry_same⟩ := Prod.mk.inj same
  exact ⟨found, member, file_same, entry_same.symm⟩

theorem elsewhere_of_unknown (lists : index.Lists all) {file : String}
    (unknown : index.files.get? file = none) : all.filter (elsewhere file) = all := by
  rw [List.filter_eq_self]
  intro found member
  rw [elsewhere, decide_eq_true_eq]
  rintro rfl
  rw [lists.entry_of_mem member] at unknown
  cases unknown

theorem entry_unique (lists : index.Lists all) {file : String} {entry : FileEntry}
    (known : index.files.get? file = some entry) {found : Findings} (member : found ∈ all)
    (here : elsewhere file found = false) : entryOf found = entry := by
  have same : Path.normalize found.file = file := by simpa [elsewhere] using here
  have entry_here := lists.entry_of_mem member
  rw [same, known] at entry_here
  exact (Option.some.inj entry_here).symm

theorem evict (lists : index.Lists all) (path : String) :
    (index.evict path).Lists (all.filter (elsewhere (Path.normalize path))) := by
  have away : (fun known : String × FileEntry => decide (known.1 ≠ Path.normalize path)) ∘
      (fun found => (Path.normalize found.file, entryOf found)) =
        elsewhere (Path.normalize path) := by
    funext found
    rw [Function.comp_apply, elsewhere]
  constructor
  rw [files_evict, Table.erase]
  dsimp only
  rw [lists.files, List.filter_map, away]

theorem absorb (lists : index.Lists all) {found : Findings}
    (absent : ∀ other ∈ all, Path.normalize other.file ≠ Path.normalize found.file) :
    (index.absorb found).Lists (all ++ [found]) := by
  have new : Path.normalize found.file ∉ index.files.keys := by
    simp only [Table.keys, lists.files, List.map_map, Function.comp_def]
    intro member
    obtain ⟨other, inside, same⟩ := List.mem_map.1 member
    exact absent other inside same
  constructor
  rw [files_absorb, Table.entries_insert _ new, lists.files, List.map_append]
  rfl

theorem merge (lists : index.Lists all) (found : Findings) :
    (index.merge found).Lists (all.filter (elsewhere (Path.normalize found.file)) ++ [found]) := by
  rw [merge_eq]
  have evicted := lists.evict (Path.normalize found.file)
  rw [Path.normalize_normalize] at evicted
  apply evicted.absorb
  intro other member
  simpa [elsewhere] using (List.mem_filter.1 member).2

end Lists

namespace Shows

variable {index : Index} {all : List Findings}

theorem referencesTo_without (shows : index.Shows all) {file : String} {entry : FileEntry}
    (known : index.files.get? file = some entry) (identity : Identity) :
    (index.without file entry).referencesTo identity =
      (all.filter (elsewhere file)).flatMap fun found => found.referencesTo identity := by
  have filtered : (index.referencesTo identity).filter (·.file ≠ file) =
      (all.filter (elsewhere file)).flatMap fun found => found.referencesTo identity := by
    rw [shows.references]
    apply filter_flatMap_of
    · intro found member away reference cites
      rw [((shows.coherent found member).references identity reference cites).2,
        ← (shows.coherent found member).file]
      exact away
    · intro found member here reference cites
      rw [((shows.coherent found member).references identity reference cites).2,
        ← (shows.coherent found member).file]
      exact here
  rw [Index.referencesTo_without, filtered]
  split
  · rfl
  · next unlisted =>
    -- An identity that the entry does not list has no references from the file.
    rw [← filtered, eq_comm, List.filter_eq_self]
    intro reference member
    rw [shows.references] at member
    obtain ⟨found, inside, cites⟩ := List.mem_flatMap.1 member
    rw [((shows.coherent found inside).references identity reference cites).2,
      ← (shows.coherent found inside).file]
    cases away : elsewhere file found with
    | true => exact away
    | false =>
      rw [← shows.entry_unique known inside away, mem_referred, not_not] at unlisted
      rw [unlisted] at cites
      cases cites

theorem evict (shows : index.Shows all) (path : String) :
    (index.evict path).Shows (all.filter (elsewhere (Path.normalize path))) := by
  have lists := shows.toLists.evict path
  cases known : index.files.get? (Path.normalize path) with
  | none =>
    rw [evict_unknown known, shows.elsewhere_of_unknown known]
    exact shows
  | some entry =>
    rw [evict_known known] at lists ⊢
    refine ⟨lists, shows.referencesTo_without known, shows.cited.without _ entry, ?_⟩
    intro found member
    exact shows.coherent found (List.mem_filter.1 member).1

theorem absorb (shows : index.Shows all) {found : Findings} (coherent : found.Coherent)
    (absent : ∀ other ∈ all, Path.normalize other.file ≠ Path.normalize found.file) :
    (index.absorb found).Shows (all ++ [found]) := by
  refine ⟨shows.toLists.absorb absent, ?_, shows.cited.absorb found, ?_⟩
  · intro identity
    rw [referencesTo_absorb, shows.references, List.flatMap_append, List.flatMap_singleton]
  · intro other member
    obtain earlier | same := List.mem_append.1 member
    · exact shows.coherent other earlier
    · rw [List.mem_singleton.1 same]
      exact coherent

theorem merge (shows : index.Shows all) {found : Findings} (coherent : found.Coherent) :
    (index.merge found).Shows (all.filter (elsewhere (Path.normalize found.file)) ++ [found]) := by
  rw [merge_eq]
  have evicted := shows.evict (Path.normalize found.file)
  rw [Path.normalize_normalize] at evicted
  apply evicted.absorb coherent
  intro other member
  simpa [elsewhere] using (List.mem_filter.1 member).2

end Shows

namespace Stores

variable {index : Index} {all : List Findings}

theorem definition_eq_some (stores : index.Stores all) {identity : Identity}
    {definition : Definition} : index.definition identity = some definition ↔
      ∃ found ∈ all, found.definitions.get? identity = some definition := by
  rw [Index.definition, Table.get?_eq_some, stores.definitions, List.mem_flatMap]
  simp only [Table.get?_eq_some]

theorem definition_eq_none (stores : index.Stores all) {identity : Identity}
    (absent : ∀ found ∈ all, identity ∉ found.definitions.keys) :
    index.definition identity = none := by
  rw [Option.eq_none_iff_forall_ne_some]
  intro definition stored
  obtain ⟨found, member, here⟩ := stores.definition_eq_some.1 stored
  exact absent found member (Table.mem_keys.2 ⟨definition, here⟩)

theorem evict (stores : index.Stores all) (lists : index.Lists all) (disjoint : Disjoint all)
    (path : String) : (index.evict path).Stores (all.filter (elsewhere (Path.normalize path))) := by
  cases known : index.files.get? (Path.normalize path) with
  | none =>
    rw [evict_unknown known, lists.elsewhere_of_unknown known]
    exact stores
  | some entry =>
    rw [evict_known known]
    refine ⟨?_, (stores.names.without _ entry).congr rfl rfl⟩
    obtain ⟨owner, inside, own_file, own_entry⟩ := lists.mem_of_entry known
    rw [definitions_without, stores.definitions]
    apply filter_flatMap_of
    · intro found member away stored here
      have other : found ≠ owner := by
        rintro rfl
        simp [elsewhere, own_file] at away
      rw [decide_eq_true_eq, own_entry]
      exact disjoint.apart member inside other (List.mem_map_of_mem here)
    · intro found member away stored here
      rw [decide_eq_false_iff_not, not_not, ← lists.entry_unique known member away]
      exact List.mem_map_of_mem here

theorem absorb (stores : index.Stores all) {found : Findings}
    (disjoint : Disjoint (all ++ [found])) : (index.absorb found).Stores (all ++ [found]) := by
  have apart : ∀ other ∈ all, ∀ identity ∈ found.definitions.keys,
      identity ∉ other.definitions.keys := by
    intro other member identity defines again
    exact (List.pairwise_append.1 disjoint).2.2 other member found (List.mem_singleton_self _)
      identity again defines
  have fresh : ∀ identity ∈ found.definitions.keys, index.definition identity = none := by
    intro identity defines
    exact stores.definition_eq_none fun other member => apart other member identity defines
  refine ⟨?_, stores.names.absorb fresh⟩
  rw [definitions_absorb_of_fresh fresh, stores.definitions, List.flatMap_append,
    List.flatMap_singleton]

end Stores

theorem append_singleton_eq_append_cons {α : Type} {before first after : List α} {last item : α} :
    before ++ [last] = first ++ item :: after ↔
      (before = first ∧ last = item ∧ after = []) ∨
        ∃ rest, before = first ++ item :: rest ∧ after = rest ++ [last] := by
  constructor
  · intro split_at
    rcases List.eq_nil_or_concat after with rfl | ⟨rest, other, rfl⟩
    · obtain ⟨rfl, same⟩ := List.append_inj' split_at rfl
      exact .inl ⟨rfl, List.singleton_inj.1 same, rfl⟩
    · rw [List.concat_eq_append, ← List.cons_append, ← List.append_assoc] at split_at
      obtain ⟨rfl, same⟩ := List.append_inj' split_at rfl
      obtain rfl := List.singleton_inj.1 same
      exact .inr ⟨rest, rfl, List.concat_eq_append⟩
  · rintro (⟨rfl, rfl, rfl⟩ | ⟨rest, rfl, rfl⟩)
    · rfl
    · simp

theorem run_append_singleton (before : List Change) (change : Change) :
    run (before ++ [change]) = (run before).apply change := by
  rw [run, List.foldl_append]
  rfl

theorem live_append_singleton (before : List Change) (change : Change) :
    live (before ++ [change]) = liveAfter (live before) change := by
  rw [live, List.foldl_append]
  rfl

theorem Clean.init {before : List Change} {change : Change} (clean : Clean (before ++ [change])) :
    Clean before := by
  intro first second split_at
  exact clean first (second ++ [change]) (by rw [split_at, List.append_assoc])

theorem Clean.disjoint {history : List Change} (clean : Clean history) : Disjoint (live history) :=
  clean history [] (List.append_nil history).symm

instance (all : List Findings) : Decidable (Disjoint all) :=
  inferInstanceAs (Decidable (all.Pairwise fun a b =>
    ∀ identity ∈ a.definitions.keys, identity ∉ b.definitions.keys))

theorem clean_of_inits {history : List Change}
    (disjoint : ∀ before ∈ history.inits, Disjoint (live before)) : Clean history := by
  intro before after split_at
  exact disjoint before ((List.mem_inits _ _).2 ⟨after, split_at.symm⟩)

def Recorded (history : List Change) : Prop :=
  ∀ found, Change.merge found ∈ history → found.Recorded

theorem Recorded.init {before : List Change} {change : Change}
    (recorded : Recorded (before ++ [change])) : Recorded before :=
  fun found member => recorded found (List.mem_append_left _ member)

@[simp] theorem recorded_nil : Recorded [] := nofun

@[simp] theorem recorded_cons_merge {found : Findings} {history : List Change} :
    Recorded (.merge found :: history) ↔ found.Recorded ∧ Recorded history := by
  simp [Recorded]

@[simp] theorem recorded_cons_evict {path : String} {history : List Change} :
    Recorded (.evict path :: history) ↔ Recorded history := by
  simp [Recorded]

theorem Recorded.append {before after : List Change} (earlier : Recorded before)
    (later : Recorded after) : Recorded (before ++ after) :=
  fun found member => (List.mem_append.1 member).elim (earlier found) (later found)

def merged (history : List Change) : List Findings :=
  history.filterMap fun
    | .merge found => some found
    | .evict _ => none

theorem mem_merged {history : List Change} {found : Findings} :
    found ∈ merged history ↔ .merge found ∈ history := by
  rw [merged, List.mem_filterMap]
  constructor
  · rintro ⟨change, member, kept⟩
    cases change with
    | merge other =>
      cases kept
      exact member
    | evict path => cases kept
  · intro member
    exact ⟨.merge found, member, rfl⟩

theorem of_mem_live {holds : Findings → Prop} {history : List Change}
    (all : ∀ found, Change.merge found ∈ history → holds found) :
    ∀ found ∈ live history, holds found := by
  induction history using List.reverseRecOn with
  | nil => exact nofun
  | append_singleton before change ih =>
    have earlier := ih fun found member => all found (List.mem_append_left _ member)
    rw [live_append_singleton]
    intro found member
    cases change with
    | merge latest =>
      obtain kept | here := List.mem_append.1 member
      · exact earlier found (List.mem_filter.1 kept).1
      · rw [List.mem_singleton.1 here]
        exact all latest (by simp)
    | evict path => exact earlier found (List.mem_filter.1 member).1

theorem lists_run (history : List Change) : (run history).Lists (live history) := by
  induction history using List.reverseRecOn with
  | nil => exact lists_empty
  | append_singleton before change ih =>
    rw [run_append_singleton, live_append_singleton]
    cases change with
    | merge found => exact ih.merge found
    | evict path => exact ih.evict path

theorem shows_run {history : List Change} (recorded : Recorded history) :
    (run history).Shows (live history) := by
  induction history using List.reverseRecOn with
  | nil => exact shows_empty
  | append_singleton before change ih =>
    rw [run_append_singleton, live_append_singleton]
    have shows := ih recorded.init
    cases change with
    | merge found =>
      have member : Change.merge found ∈ before ++ [.merge found] := by simp
      exact shows.merge (recorded found member).coherent
    | evict path => exact shows.evict path

/-- After a clean history the index stores the findings that are in. -/
theorem stores_run {history : List Change} (clean : Clean history) :
    (run history).Stores (live history) := by
  induction history using List.reverseRecOn with
  | nil => exact stores_empty
  | append_singleton before change ih =>
    have disjoint := clean.disjoint
    have stores := ih clean.init
    have lists := lists_run before
    rw [live_append_singleton] at disjoint ⊢
    rw [run_append_singleton]
    cases change with
    | merge found =>
      have evicted := stores.evict lists clean.init.disjoint (Path.normalize found.file)
      rw [Path.normalize_normalize] at evicted
      exact evicted.absorb disjoint
    | evict path => exact stores.evict lists clean.init.disjoint path

end CodeNav.Index
