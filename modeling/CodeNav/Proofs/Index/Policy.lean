import CodeNav.Grammar.Python
import CodeNav.Proofs.Index.Locality
import CodeNav.Proofs.Index.Partition

/-! What a name means, told by the stored definitions alone. A name that defines a symbol means it;
otherwise the first definition of the name in the file shadows all others; otherwise every
definition of the name in the language is meant, and behind them those of the name that an import
gives it.
After a clean history resolving gives just that, whatever led to the tables that it reads. -/
namespace CodeNav.Index

structure Roster (index : Index) (lang name : String) (identities : List Identity) : Prop where
  ordered : identities.Pairwise (· < ·)
  mem_iff : ∀ identity, identity ∈ identities ↔ ∃ definition,
    index.definition identity = some definition ∧ definition.lang = lang ∧ definition.name = name

def Bears (index : Index) (occurrence : Occurrence) (identity : Identity) : Prop :=
  occurrence.identity = some identity ∧ identity ≠ "" ∧
    ∃ definition, index.definition identity = some definition

def DefinesIn (index : Index) (lang file name : String) (identity : Identity)
    (definition : Definition) : Prop :=
  index.definition identity = some definition ∧ definition.lang = lang ∧
    definition.name = name ∧ definition.file = file

def First (index : Index) (lang file name : String) (identity : Identity) : Prop :=
  ∃ definition, index.DefinesIn lang file name identity definition ∧
    ∀ other another, index.DefinesIn lang file name other another →
      other = identity ∨ Precedes (identity, definition) (other, another)

def StandsFor (history : List Change) (path : String)
    (importedName : Option (String → Option String)) (name meant : String) : Prop :=
  meant ≠ "" ∧ meant ≠ name ∧ ∃ found ∈ live history,
    Path.normalize found.file = Path.normalize path ∧ found.meaning importedName name = some meant

inductive Means (index : Index) (history : List Change) (lang path : String)
    (occurrence : Occurrence) (importedName : Option (String → Option String)) :
    List Identity → Prop where
  | own {identity : Identity} (bears : index.Bears occurrence identity) :
    Means index history lang path occurrence importedName [identity]
  | near {identity : Identity} (bare : ∀ other, ¬ index.Bears occurrence other)
      (first : index.First lang (Path.normalize path) occurrence.name identity) :
    Means index history lang path occurrence importedName [identity]
  | far {named : List Identity} (bare : ∀ other, ¬ index.Bears occurrence other)
      (absent : ∀ other another,
        ¬ index.DefinesIn lang (Path.normalize path) occurrence.name other another)
      (roster : index.Roster lang occurrence.name named)
      (kept : ∀ meant, ¬ StandsFor history path importedName occurrence.name meant) :
    Means index history lang path occurrence importedName named
  | renamed {named more : List Identity} {meant : String}
      (bare : ∀ other, ¬ index.Bears occurrence other)
      (absent : ∀ other another,
        ¬ index.DefinesIn lang (Path.normalize path) occurrence.name other another)
      (roster : index.Roster lang occurrence.name named)
      (stands : StandsFor history path importedName occurrence.name meant)
      (also_meant : index.Roster lang meant more) :
    Means index history lang path occurrence importedName (named ++ more)

variable {index : Index} {history : List Change} {lang path name meant other : String}
  {occurrence : Occurrence} {importedName : Option (String → Option String)}

namespace Roster

variable {identities others : List Identity}

theorem nodup (roster : index.Roster lang name identities) : identities.Nodup :=
  roster.ordered.imp ne_of_lt

theorem unique (roster : index.Roster lang name identities)
    (again : index.Roster lang name others) : identities = others := by
  have perm : identities.Perm others := by
    rw [List.perm_ext_iff_of_nodup roster.nodup again.nodup]
    intro identity
    rw [roster.mem_iff, again.mem_iff]
  refine List.Perm.eq_of_pairwise ?_ roster.ordered again.ordered perm
  intro a b _ _ before behind
  exact absurd behind (asymm before)

/-- A definition has one name, so no identity is listed under two. -/
theorem disjoint (roster : index.Roster lang name identities)
    (also_roster : index.Roster lang other others) (apart : name ≠ other) :
    identities.Disjoint others := by
  intro identity here there
  obtain ⟨definition, stored, _, named⟩ := (roster.mem_iff identity).1 here
  obtain ⟨another, also_stored, _, also_named⟩ := (also_roster.mem_iff identity).1 there
  obtain rfl := Option.some.inj (stored.symm.trans also_stored)
  exact apart (named.symm.trans also_named)

end Roster

theorem Reached.roster (reached : index.Reached history) (plain : ':' ∉ lang.toList)
    (name : String) : index.Roster lang name (index.lookup lang name) := by
  refine ⟨pairwise_lt_sortTexts (reached.stores.names.nodup _), ?_⟩
  intro identity
  rw [reached.mem_lookup plain]
  simp only [mem_under]

theorem own_eq_some {identity : Identity} :
    index.own occurrence = some identity ↔ index.Bears occurrence identity := by
  rw [own, Option.filter_eq_some_iff, decide_eq_true_eq, Option.isSome_iff_exists]
  exact Iff.rfl

theorem own_eq_none : index.own occurrence = none ↔ ∀ other, ¬ index.Bears occurrence other := by
  rw [Option.eq_none_iff_forall_ne_some]
  simp only [ne_eq, own_eq_some]

theorem Precedes.placedBefore {a b : Identity × Definition} (before : Precedes a b) :
    placedBefore a b = true := by
  rcases before with earlier | ⟨same, less⟩
  · exact placedBefore_iff.2 (.inl earlier)
  · exact placedBefore_iff.2 (.inr ⟨same, le_of_lt less⟩)

theorem First.unique {file : String} {identity another : Identity}
    (first : index.First lang file name identity) (again : index.First lang file name another) :
    identity = another := by
  obtain ⟨definition, defines, least⟩ := first
  obtain ⟨definition', defines', least'⟩ := again
  rcases least another definition' defines' with same | before
  · exact same.symm
  · rcases least' identity definition defines with same | behind
    · exact same
    · exact placedBefore_antisymm before.placedBefore behind.placedBefore

theorem Enumerates.localDefinitions_cases {pairs : List (Identity × Definition)}
    (enumerates : index.Enumerates path pairs) (lang name : String) :
    (index.localDefinitions lang path name = .ok [] ∧
      ∀ other another, ¬ index.DefinesIn lang (Path.normalize path) name other another) ∨
    ∃ identity rest, index.localDefinitions lang path name = .ok (identity :: rest) ∧
      index.First lang (Path.normalize path) name identity := by
  have inside (identity : Identity) (definition : Definition) : (identity, definition) ∈
      pairs.filter (fun pair => pair.2.lang = lang ∧ pair.2.name = name) ↔
        index.DefinesIn lang (Path.normalize path) name identity definition := by
    rw [List.mem_filter, enumerates.mem_iff, decide_eq_true_eq, DefinesIn]
    tauto
  have ordered := enumerates.ordered.filter fun pair => pair.2.lang = lang ∧ pair.2.name = name
  have listed := enumerates.named lang name
  cases chosen : pairs.filter fun pair => pair.2.lang = lang ∧ pair.2.name = name with
  | nil =>
    rw [chosen] at inside listed
    refine .inl ⟨listed, ?_⟩
    intro other another defines
    cases (inside other another).2 defines
  | cons first rest =>
    rw [chosen] at inside listed ordered
    refine .inr ⟨first.1, rest.map Prod.fst, listed, first.2,
      (inside first.1 first.2).1 List.mem_cons_self, ?_⟩
    intro other another defines
    rcases List.mem_cons.1 ((inside other another).2 defines) with same | later
    · exact .inl (congrArg Prod.fst same)
    · exact .inr (List.rel_of_pairwise_cons ordered later)

theorem Reached.imports_cases (reached : index.Reached history) (path : String) :
    (∃ found ∈ live history, Path.normalize found.file = Path.normalize path ∧
      index.imports path = found.imports) ∨
    (∀ found ∈ live history, Path.normalize found.file ≠ Path.normalize path) ∧
      index.imports path = .empty := by
  cases known : index.files.get? (Path.normalize path) with
  | none =>
    refine .inr ⟨?_, by rw [imports, entry?, known]; rfl⟩
    intro found member same
    rw [← same, reached.shows.entry_of_mem member] at known
    cases known
  | some entry =>
    obtain ⟨found, member, same, _⟩ := reached.shows.mem_of_entry known
    exact .inl ⟨found, member, same, reached.imports_eq member same.symm⟩

theorem Reached.standsFor_iff (reached : index.Reached history) :
    StandsFor history path importedName name meant ↔ meant ≠ "" ∧ meant ≠ name ∧
      (importedName.bind fun read => ((index.imports path).get? name).bind read) =
        some meant := by
  rw [StandsFor]
  apply and_congr_right
  intro _
  apply and_congr_right
  intro _
  rcases reached.imports_cases path with ⟨found, member, file, same⟩ | ⟨absent, bare⟩
  · rw [same]
    constructor
    · rintro ⟨other, inside, also, stands⟩
      rw [reached.shows.eq_of_file member inside (file.trans also.symm)]
      exact stands
    · intro stands
      exact ⟨found, member, file, stands⟩
  · rw [bare]
    constructor
    · rintro ⟨found, member, file, _⟩
      exact absurd file (absent found member)
    · intro stands
      cases importedName <;> cases stands

theorem Reached.standsFor_unique (reached : index.Reached history)
    (stands : StandsFor history path importedName name meant)
    (again : StandsFor history path importedName name other) : meant = other := by
  rw [reached.standsFor_iff] at stands again
  exact Option.some.inj (stands.2.2.symm.trans again.2.2)

theorem Reached.shared_of_standsFor (reached : index.Reached history)
    (plain : ':' ∉ lang.toList) (stands : StandsFor history path importedName name meant) :
    index.shared lang path name importedName =
      index.lookup lang name ++ index.lookup lang meant := by
  obtain ⟨written, apart, target⟩ := reached.standsFor_iff.1 stands
  cases importedName with
  | none => cases target
  | some read =>
    have disjoint := (reached.roster plain meant).disjoint (reached.roster plain name) apart
    have meant_there : index.importedCandidates lang path name read = index.lookup lang meant := by
      rw [Option.bind_some] at target
      rw [importedCandidates, target]
      exact if_pos ⟨written, apart⟩
    rw [shared, meant_there, List.filter_eq_self.2]
    intro identity member
    exact decide_eq_true (disjoint member)

theorem Reached.shared_of_kept (reached : index.Reached history)
    (kept : ∀ meant, ¬ StandsFor history path importedName name meant) :
    index.shared lang path name importedName = index.lookup lang name := by
  cases importedName with
  | none => rfl
  | some read =>
    have none_meant : index.importedCandidates lang path name read = [] := by
      rw [importedCandidates]
      split
      · next meant target =>
        refine if_neg fun stands => kept meant ?_
        exact reached.standsFor_iff.2 ⟨stands.1, stands.2, target⟩
      · rfl
    rw [shared, none_meant, List.filter_nil, List.append_nil]

theorem Reached.resolve_of_absent (reached : index.Reached history)
    (bare : ∀ other, ¬ index.Bears occurrence other)
    (absent : ∀ other another,
      ¬ index.DefinesIn lang (Path.normalize path) occurrence.name other another) :
    index.resolve lang path occurrence importedName =
      .ok (index.shared lang path occurrence.name importedName) := by
  obtain ⟨pairs, enumerates⟩ := reached.stores.enumerates reached.shows path
  rcases enumerates.localDefinitions_cases lang occurrence.name with
    ⟨listed, _⟩ | ⟨identity, _, _, definition, defines, _⟩
  · exact resolve_shared (own_eq_none.2 bare) listed
  · exact absurd defines (absent identity definition)

/-- What an import gives a name counts as soon as anything is defined under it. -/
theorem Reached.resolve_ne_of_standsFor (reached : index.Reached history)
    (plain : ':' ∉ lang.toList) (bare : ∀ other, ¬ index.Bears occurrence other)
    (absent : ∀ other another,
      ¬ index.DefinesIn lang (Path.normalize path) occurrence.name other another)
    (stands : StandsFor history path importedName occurrence.name meant)
    {identity : Identity} {definition : Definition}
    (stored : index.definition identity = some definition) (same_lang : definition.lang = lang)
    (defined : definition.name = meant) :
    index.resolve lang path occurrence importedName ≠
      index.resolve lang path occurrence none := by
  intro same
  have member := ((reached.roster plain meant).mem_iff identity).2
    ⟨definition, stored, same_lang, defined⟩
  rw [reached.resolve_of_absent bare absent, reached.resolve_of_absent bare absent,
    reached.shared_of_standsFor plain stands, Except.ok.injEq] at same
  rw [List.append_right_eq_self.1 same] at member
  cases member

theorem means_of_bears {identity : Identity} {candidates : List Identity}
    (bears : index.Bears occurrence identity) :
    index.Means history lang path occurrence importedName candidates ↔
      candidates = [identity] := by
  constructor
  · rintro (⟨also⟩ | ⟨bare, _⟩ | ⟨bare, _, _, _⟩ | ⟨bare, _, _, _, _⟩)
    · rw [Option.some.inj (also.1.symm.trans bears.1)]
    · exact absurd bears (bare _)
    · exact absurd bears (bare _)
    · exact absurd bears (bare _)
  · rintro rfl
    exact .own bears

theorem means_of_first {identity : Identity} {candidates : List Identity}
    (bare : ∀ other, ¬ index.Bears occurrence other)
    (first : index.First lang (Path.normalize path) occurrence.name identity) :
    index.Means history lang path occurrence importedName candidates ↔
      candidates = [identity] := by
  obtain ⟨definition, defines, _⟩ := id first
  constructor
  · rintro (⟨bears⟩ | ⟨_, also⟩ | ⟨_, absent, _, _⟩ | ⟨_, absent, _, _, _⟩)
    · exact absurd bears (bare _)
    · rw [also.unique first]
    · exact absurd defines (absent _ _)
    · exact absurd defines (absent _ _)
  · rintro rfl
    exact .near bare first

theorem Reached.means_of_absent (reached : index.Reached history) (plain : ':' ∉ lang.toList)
    {candidates : List Identity} (bare : ∀ other, ¬ index.Bears occurrence other)
    (absent : ∀ other another,
      ¬ index.DefinesIn lang (Path.normalize path) occurrence.name other another) :
    index.Means history lang path occurrence importedName candidates ↔
      candidates = index.shared lang path occurrence.name importedName := by
  have listed := reached.roster plain occurrence.name
  by_cases stands : ∃ meant, StandsFor history path importedName occurrence.name meant
  · obtain ⟨meant, stands⟩ := stands
    have also_listed := reached.roster plain meant
    rw [reached.shared_of_standsFor plain stands]
    constructor
    · rintro (⟨bears⟩ | ⟨_, first⟩ | ⟨_, _, _, kept⟩ | ⟨_, _, roster, again, more⟩)
      · exact absurd bears (bare _)
      · obtain ⟨definition, defines, _⟩ := first
        exact absurd defines (absent _ _)
      · exact absurd stands (kept meant)
      · obtain rfl := reached.standsFor_unique stands again
        rw [roster.unique listed, more.unique also_listed]
    · rintro rfl
      exact .renamed bare absent listed stands also_listed
  · rw [not_exists] at stands
    rw [reached.shared_of_kept stands]
    constructor
    · rintro (⟨bears⟩ | ⟨_, first⟩ | ⟨_, _, roster, _⟩ | ⟨_, _, _, again, _⟩)
      · exact absurd bears (bare _)
      · obtain ⟨definition, defines, _⟩ := first
        exact absurd defines (absent _ _)
      · exact roster.unique listed
      · exact absurd again (stands _)
    · rintro rfl
      exact .far bare absent listed stands

/-- After a clean history every occurrence in every file can be resolved, and gives just what it
means, each identity once. -/
theorem resolve_means (reached : index.Reached history) (plain : ':' ∉ lang.toList)
    (path : String) (occurrence : Occurrence)
    (importedName : Option (String → Option String)) :
    ∃ candidates, index.resolve lang path occurrence importedName = .ok candidates ∧
      candidates.Nodup ∧ ∀ other,
        index.Means history lang path occurrence importedName other ↔ other = candidates := by
  obtain ⟨candidates, resolved, distinct, _⟩ :=
    reached.stores.resolve reached.shows.toLists lang path occurrence importedName
  refine ⟨candidates, resolved, distinct, ?_⟩
  intro other
  cases own : index.own occurrence with
  | some identity =>
    rw [resolve_own own, Except.ok.injEq] at resolved
    rw [← resolved, means_of_bears (own_eq_some.1 own)]
  | none =>
    have bare := own_eq_none.1 own
    obtain ⟨pairs, enumerates⟩ := reached.stores.enumerates reached.shows path
    rcases enumerates.localDefinitions_cases lang occurrence.name with
      ⟨listed, absent⟩ | ⟨identity, rest, listed, first⟩
    · rw [resolve_shared own listed, Except.ok.injEq] at resolved
      rw [← resolved, reached.means_of_absent plain bare absent]
    · rw [resolve_local own listed, Except.ok.injEq] at resolved
      rw [← resolved, means_of_first bare first]

/-- A file that imports a name twice, at last for a function of another file. Another file of the
language has two symbols of that name, by now, and so has one of another language. -/
def rebound : List Change :=
  [.merge (.ofList "py" "lib/f.py" [.definition "f" "func" (.single ⟨1, 5⟩) none]),
    .merge (.ofList "py" "use.py" [.definition "g" "var" (.single ⟨1, 1⟩) none]),
    .merge (.ofList "go" "g.go" [.definition "g" "func" (.single ⟨3, 6⟩) none]),
    .merge (.ofList "py" "old.py" [.definition "g" "func" (.single ⟨1, 5⟩) none]),
    .merge (.ofList "py" "use.py" [.binding "g" "old.k" (.single ⟨1, 20⟩),
      .binding "g" ".lib.f" (.single ⟨2, 22⟩), .reference "g" (.single ⟨3, 1⟩) none]),
    .merge (.ofList "py" "g.py" [.definition "g" "func" (.single ⟨1, 5⟩) none,
      .definition "g" "func" (.single ⟨3, 9⟩) (some "C")]),
    .evict "old.py"]

theorem reached_rebound : (run rebound).Reached rebound :=
  reached_run (by simp [rebound]) (by decide) (by decide)

theorem resolve_means_rebound :
    (run rebound).Reached rebound ∧ ':' ∉ "py".toList ∧
      ∀ other, (run rebound).Means rebound "py" "./use.py"
        ⟨"g", .reference, .single ⟨3, 1⟩, none⟩ (some Grammar.Python.importedName) other ↔
          other = ["py::g.py::C.g", "py::g.py::g", "py::lib/f.py::f"] := by
  have plain : ':' ∉ "py".toList := by decide
  obtain ⟨candidates, resolved, _, means⟩ := resolve_means reached_rebound plain "./use.py"
    ⟨"g", .reference, .single ⟨3, 1⟩, none⟩ (some Grammar.Python.importedName)
  have known : (run rebound).resolve "py" "./use.py"
      ⟨"g", .reference, .single ⟨3, 1⟩, none⟩ (some Grammar.Python.importedName) =
        .ok ["py::g.py::C.g", "py::g.py::g", "py::lib/f.py::f"] := by
    simp only [resolve, importedCandidates, localDefinitions_eq, fileDefinitions_eq, lookup,
      sortTexts_eq_insertionSort, mergeSort_eq_insertionSort placedBefore_trans placedBefore_total]
    rfl
  obtain rfl := Except.ok.inj (known.symm.trans resolved)
  exact ⟨reached_rebound, plain, means⟩

end CodeNav.Index
