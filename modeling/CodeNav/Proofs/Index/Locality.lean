import CodeNav.Proofs.Index.Lookup
import CodeNav.Proofs.Index.Resolution
import CodeNav.Proofs.Marks

/-! What a name in a file can mean depends on little: on the findings of the file, and on the
definitions of the name and of the one that an import gives it. Two indexes that agree on these
give the same candidates, whatever else they hold and however they came about. -/
namespace CodeNav

namespace Findings

structure Alike (left right : Findings) : Prop where
  lang : left.lang = right.lang
  file : left.file = right.file
  occurrences : left.occurrences = right.occurrences
  definitions : ∀ identity, left.definitions.get? identity = right.definitions.get? identity
  references : ∀ identity, left.references.get? identity = right.references.get? identity
  imports : ∀ name, left.imports.get? name = right.imports.get? name

theorem Alike.refl (found : Findings) : found.Alike found :=
  ⟨rfl, rfl, rfl, fun _ => rfl, fun _ => rfl, fun _ => rfl⟩

theorem Alike.named {left right : Findings} (alike : left.Alike right) (lang name : String) :
    left.named lang name = right.named lang name := by
  have placed : left.placed = right.placed :=
    Table.mergeSort_entries_eq Index.placedBefore_trans Index.placedBefore_total
      (fun _ _ => Index.placedBefore_antisymm) alike.definitions
  rw [Findings.named, Findings.named, placed]

def meaning (found : Findings) (importedName : Option (String → Option String)) (name : String) :
    Option String :=
  importedName.bind fun importedName => (found.imports.get? name).bind importedName

end Findings

namespace Index

def under (index : Index) (lang name : String) : List (Identity × Definition) :=
  index.definitions.entries.filter fun pair => pair.2.lang = lang ∧ pair.2.name = name

theorem mem_under {index : Index} {lang name : String} {identity : Identity}
    {definition : Definition} :
    (identity, definition) ∈ index.under lang name ↔
      index.definition identity = some definition ∧ definition.lang = lang ∧
        definition.name = name := by
  rw [under, List.mem_filter, Index.definition, Table.get?_eq_some]
  simp

def SameUnder (left right : Index) (lang name : String) : Prop :=
  ∀ pair, pair ∈ left.under lang name ↔ pair ∈ right.under lang name

theorem SameUnder.of_eq {left right : Index} {lang name : String}
    (same : left.under lang name = right.under lang name) : left.SameUnder right lang name := by
  intro pair
  rw [same]

structure SameNames (left right : Index) (found : Findings) (lang : String)
    (importedName : Option (String → Option String)) (name : String) : Prop where
  named : left.SameUnder right lang name
  meant : ∀ meant, found.meaning importedName name = some meant →
    left.SameUnder right lang meant

/-- A history has led to the index: of recorded findings in languages without a colon, in which
at no time two files defined the same identity. -/
structure Reached (index : Index) (history : List Change) : Prop where
  run : index = run history
  recorded : Recorded history
  clean : Clean history
  plain : ∀ found, Change.merge found ∈ history → ':' ∉ found.lang.toList

theorem reached_run {history : List Change} (recorded : Recorded history)
    (disjoint : ∀ before ∈ history.inits, Disjoint (live before))
    (plain : ∀ found ∈ merged history, ':' ∉ found.lang.toList) :
    (Index.run history).Reached history :=
  ⟨rfl, recorded, clean_of_inits disjoint, fun found member => plain found (mem_merged.2 member)⟩

namespace Reached

variable {left right : Index} {history others : List Change} {found other : Findings}
  {lang path name : String} {importedName : Option (String → Option String)}

theorem stores (reached : left.Reached history) : left.Stores (live history) := by
  rw [reached.run]
  exact stores_run reached.clean

theorem shows (reached : left.Reached history) : left.Shows (live history) := by
  rw [reached.run]
  exact shows_run reached.recorded

theorem holds (reached : left.Reached history) (latest : found ∈ live history) :
    left.Holds found := reached.stores.holds reached.shows.toLists latest

theorem marked (reached : left.Reached history) (latest : found ∈ live history) :
    found.Marked :=
  (of_mem_live reached.recorded found latest).marked

theorem mem_lookup (reached : left.Reached history) (plain : ':' ∉ lang.toList)
    {identity : Identity} :
    identity ∈ left.lookup lang name ↔
      ∃ definition, (identity, definition) ∈ left.under lang name := by
  rw [Index.mem_lookup, reached.stores.names.mem_bucket]
  simp only [mem_under]
  apply exists_congr
  intro definition
  apply and_congr_right
  intro stored
  obtain ⟨found, member, same⟩ := reached.stores.lang_of_definition reached.shows stored
  have plain_definition : ':' ∉ definition.lang.toList := by
    rw [same]
    exact of_mem_live reached.plain found member
  exact Identity.lookupKey_inj plain_definition plain

theorem lookup_eq (first : left.Reached history) (second : right.Reached others)
    (plain : ':' ∉ lang.toList) (same : left.SameUnder right lang name) :
    left.lookup lang name = right.lookup lang name := by
  have perm : (left.bucket (Identity.lookupKey lang name)).Perm
      (right.bucket (Identity.lookupKey lang name)) := by
    rw [List.perm_ext_iff_of_nodup (first.stores.names.nodup _) (second.stores.names.nodup _)]
    intro identity
    rw [← Index.mem_lookup, ← Index.mem_lookup, first.mem_lookup plain, second.mem_lookup plain]
    simp only [same _]
  exact sortTexts_eq_of_perm perm

theorem definition_eq_of_mem_lookup (first : left.Reached history) (plain : ':' ∉ lang.toList)
    (same : left.SameUnder right lang name) {identity : Identity}
    (member : identity ∈ left.lookup lang name) :
    left.definition identity = right.definition identity := by
  obtain ⟨definition, inside⟩ := (first.mem_lookup plain).1 member
  have stored := (mem_under.1 inside).1
  have also_stored := (mem_under.1 ((same _).1 inside)).1
  rw [stored, also_stored]

theorem imports_eq (reached : left.Reached history) (latest : found ∈ live history)
    (file : Path.normalize path = Path.normalize found.file) :
    left.imports path = found.imports := by
  rw [imports, entry?, file, (reached.holds latest).entry]
  rfl

end Reached

structure Twins (left right : Index) (history others : List Change) (found other : Findings) :
    Prop where
  first : left.Reached history
  second : right.Reached others
  latest : found ∈ live history
  also_latest : other ∈ live others
  alike : found.Alike other

namespace Twins

variable {left right : Index} {history others : List Change} {found other : Findings}
  {lang path name : String} {importedName : Option (String → Option String)}

theorem definition_eq (twins : left.Twins right history others found other) {identity : Identity}
    (defined : identity ∈ found.definitions.keys) :
    left.definition identity = right.definition identity := by
  obtain ⟨definition, stored⟩ := Table.mem_keys.1 defined
  have here := (twins.first.holds twins.latest).definition identity definition stored
  rw [twins.alike.definitions] at stored
  rw [here, (twins.second.holds twins.also_latest).definition identity definition stored]

theorem own_eq (twins : left.Twins right history others found other) {occurrence : Occurrence}
    (occurs : occurrence ∈ found.occurrences) : left.own occurrence = right.own occurrence := by
  unfold own
  cases known : occurrence.identity with
  | none => rfl
  | some identity =>
    have defined := twins.first.marked twins.latest occurrence occurs identity known
    rw [Option.filter_some, Option.filter_some, twins.definition_eq defined]

theorem importedCandidates_eq (twins : left.Twins right history others found other)
    (file : Path.normalize path = Path.normalize found.file) (plain : ':' ∉ lang.toList)
    {read : String → Option String} (same : left.SameNames right found lang (some read) name) :
    left.importedCandidates lang path name read = right.importedCandidates lang path name read ∧
      ∀ identity ∈ left.importedCandidates lang path name read,
        left.definition identity = right.definition identity := by
  have here := twins.first.imports_eq twins.latest file
  have there := twins.second.imports_eq twins.also_latest (twins.alike.file ▸ file)
  unfold importedCandidates
  rw [here, there, ← twins.alike.imports]
  cases target : (found.imports.get? name).bind read with
  | none => exact ⟨rfl, nofun⟩
  | some meant =>
    have under := same.meant meant target
    dsimp only
    split
    · exact ⟨twins.first.lookup_eq twins.second plain under,
        fun _ => twins.first.definition_eq_of_mem_lookup plain under⟩
    · exact ⟨rfl, nofun⟩

theorem shared_eq (twins : left.Twins right history others found other)
    (file : Path.normalize path = Path.normalize found.file) (plain : ':' ∉ lang.toList)
    (same : left.SameNames right found lang importedName name) :
    left.shared lang path name importedName = right.shared lang path name importedName ∧
      ∀ identity ∈ left.shared lang path name importedName,
        left.definition identity = right.definition identity := by
  have named := twins.first.lookup_eq twins.second plain same.named
  have defined (identity : Identity) (member : identity ∈ left.lookup lang name) :=
    twins.first.definition_eq_of_mem_lookup plain same.named member
  cases importedName with
  | none => exact ⟨named, defined⟩
  | some read =>
    obtain ⟨meant, also_defined⟩ := twins.importedCandidates_eq file plain same
    unfold shared
    dsimp only
    rw [named, meant]
    refine ⟨rfl, ?_⟩
    intro identity member
    rcases List.mem_append.1 member with inside | imported
    · exact defined identity (named ▸ inside)
    · exact also_defined identity (meant ▸ (List.mem_filter.1 imported).1)

theorem resolve_eq (twins : left.Twins right history others found other)
    (file : Path.normalize path = Path.normalize found.file) (plain : ':' ∉ lang.toList)
    {occurrence : Occurrence} (occurs : occurrence ∈ found.occurrences)
    (same : left.SameNames right found lang importedName occurrence.name) :
    ∃ candidates, left.resolve lang path occurrence importedName = .ok candidates ∧
      right.resolve lang path occurrence importedName = .ok candidates ∧
      ∀ identity ∈ candidates, left.definition identity = right.definition identity := by
  have own := twins.own_eq occurs
  -- The three ways to resolve: the occurrence's own symbol, one of the file, one of any file.
  cases mine : left.own occurrence with
  | some identity =>
    refine ⟨[identity], resolve_own mine, resolve_own (own ▸ mine), ?_⟩
    intro candidate member
    have known := (Option.filter_eq_some_iff.1 mine).1
    rw [List.mem_singleton.1 member]
    exact twins.definition_eq (twins.first.marked twins.latest occurrence occurs identity known)
  | none =>
    have also_none : right.own occurrence = none := own ▸ mine
    have here := (twins.first.holds twins.latest).localDefinitions file lang occurrence.name
    have there := (twins.second.holds twins.also_latest).localDefinitions
      (twins.alike.file ▸ file) lang occurrence.name
    rw [← twins.alike.named] at there
    cases locals : found.named lang occurrence.name with
    | cons identity rest =>
      rw [locals] at here there
      refine ⟨[identity], resolve_local mine here, resolve_local also_none there, ?_⟩
      intro candidate member
      have inside : identity ∈ found.named lang occurrence.name := by simp [locals]
      obtain ⟨definition, stored, _⟩ := Findings.mem_named.1 inside
      rw [List.mem_singleton.1 member]
      exact twins.definition_eq (Table.mem_keys.2 ⟨definition, stored⟩)
    | nil =>
      rw [locals] at here there
      obtain ⟨shared, defined⟩ := twins.shared_eq file plain same
      exact ⟨_, resolve_shared mine here, shared ▸ resolve_shared also_none there, defined⟩

end Twins
end Index
end CodeNav
