import CodeNav.Proofs.Index.FileDefinitions
import CodeNav.Index.Resolution
import CodeNav.Proofs.Sorting

/-! What a name can mean. Where the names of the index are exact, every candidate is defined and
none is named twice; where the file's findings are held, resolving never fails. -/
namespace CodeNav.Index

def own (index : Index) (occurrence : Occurrence) : Option Identity :=
  occurrence.identity.filter fun identity => identity ≠ "" ∧ (index.definition identity).isSome

def shared (index : Index) (lang path name : String)
    (importedName : Option (String → Option String)) : List Identity :=
  let named := index.lookup lang name
  match importedName with
  | none => named
  | some importedName =>
    named ++ (index.importedCandidates lang path name importedName).filter (· ∉ named)

variable {index : Index} {lang path : String} {occurrence : Occurrence}
  {importedName : Option (String → Option String)}

theorem resolve_own {identity : Identity} (own : index.own occurrence = some identity) :
    index.resolve lang path occurrence importedName = .ok [identity] := by
  rw [Index.own] at own
  rw [resolve]
  dsimp only
  rw [own]

theorem resolve_failed {error : Dangling} (other : index.own occurrence = none)
    (failed : index.localDefinitions lang path occurrence.name = .error error) :
    index.resolve lang path occurrence importedName = .error error := by
  rw [Index.own] at other
  rw [resolve]
  dsimp only
  rw [other]
  change (index.localDefinitions lang path occurrence.name >>= _) = _
  rw [failed]
  rfl

theorem resolve_local {first : Identity} {others : List Identity}
    (other : index.own occurrence = none)
    (listed : index.localDefinitions lang path occurrence.name = .ok (first :: others)) :
    index.resolve lang path occurrence importedName = .ok [first] := by
  rw [Index.own] at other
  rw [resolve]
  dsimp only
  rw [other]
  change (index.localDefinitions lang path occurrence.name >>= _) = _
  rw [listed]
  rfl

theorem resolve_shared (other : index.own occurrence = none)
    (listed : index.localDefinitions lang path occurrence.name = .ok []) :
    index.resolve lang path occurrence importedName =
      .ok (index.shared lang path occurrence.name importedName) := by
  rw [Index.own] at other
  rw [resolve]
  dsimp only
  rw [other]
  change (index.localDefinitions lang path occurrence.name >>= _) = _
  rw [listed]
  cases importedName <;> rfl

/-- The import hook counts only for the symbols of other files. -/
theorem resolve_eq_of_shared {other : Option (String → Option String)}
    (same : index.shared lang path occurrence.name importedName =
      index.shared lang path occurrence.name other) :
    index.resolve lang path occurrence importedName = index.resolve lang path occurrence other := by
  cases own : index.own occurrence with
  | some identity => rw [resolve_own own, resolve_own own]
  | none =>
    cases listed : index.localDefinitions lang path occurrence.name with
    | error error => rw [resolve_failed own listed, resolve_failed own listed]
    | ok locals =>
      cases locals with
      | nil => rw [resolve_shared own listed, resolve_shared own listed, same]
      | cons first others => rw [resolve_local own listed, resolve_local own listed]

theorem nodup_lookup (exact_names : index.NamesExact) (lang name : String) :
    (index.lookup lang name).Nodup :=
  (List.mergeSort_perm _ _).nodup_iff.2 (exact_names.nodup _)

theorem isSome_of_mem_lookup (exact_names : index.NamesExact) {lang name : String}
    {identity : Identity} (member : identity ∈ index.lookup lang name) :
    (index.definition identity).isSome = true := by
  obtain ⟨definition, stored, _⟩ := (exact_names.mem_bucket _ identity).1 (mem_sortTexts.1 member)
  rw [stored]
  rfl

theorem importedCandidates_cases (index : Index) (lang path name : String)
    (importedName : String → Option String) :
    index.importedCandidates lang path name importedName = [] ∨
      ∃ meant, index.importedCandidates lang path name importedName = index.lookup lang meant := by
  rw [importedCandidates]
  split
  · next meant _ =>
    split
    · exact .inr ⟨meant, rfl⟩
    · exact .inl rfl
  · exact .inl rfl

theorem mem_of_mem_shared {name : String} {identity : Identity}
    (member : identity ∈ index.shared lang path name importedName) :
    ∃ meant, identity ∈ index.lookup lang meant := by
  cases importedName with
  | none => exact ⟨name, member⟩
  | some importedName =>
    rcases List.mem_append.1 member with named | imported
    · exact ⟨name, named⟩
    · have inside := (List.mem_filter.1 imported).1
      obtain bare | ⟨meant, found⟩ := importedCandidates_cases index lang path name importedName
      · rw [bare] at inside
        cases inside
      · exact ⟨meant, found ▸ inside⟩

theorem mem_of_resolve {candidates : List Identity} {identity : Identity}
    (resolved : index.resolve lang path occurrence importedName = .ok candidates)
    (member : identity ∈ candidates) :
    index.own occurrence = some identity ∨ identity ∈ index.definedBy path ∨
      ∃ meant, identity ∈ index.lookup lang meant := by
  cases own : index.own occurrence with
  | some known =>
    rw [resolve_own own] at resolved
    cases resolved
    exact .inl (congrArg some (List.mem_singleton.1 member).symm)
  | none =>
    cases listed : index.localDefinitions lang path occurrence.name with
    | error error =>
      rw [resolve_failed own listed] at resolved
      cases resolved
    | ok locals =>
      cases locals with
      | cons first others =>
        rw [resolve_local own listed] at resolved
        cases resolved
        have inside : identity ∈ first :: others :=
          List.mem_singleton.1 member ▸ List.mem_cons_self
        exact .inr (.inl (mem_of_localDefinitions listed inside))
      | nil =>
        rw [resolve_shared own listed] at resolved
        cases resolved
        exact .inr (.inr (mem_of_mem_shared member))

theorem nodup_shared (exact_names : index.NamesExact) (lang path name : String)
    (importedName : Option (String → Option String)) :
    (index.shared lang path name importedName).Nodup := by
  have named := nodup_lookup exact_names lang name
  cases importedName with
  | none => exact named
  | some importedName =>
    have meant : (index.importedCandidates lang path name importedName).Nodup := by
      obtain bare | ⟨meant, found⟩ := importedCandidates_cases index lang path name importedName
      · rw [bare]
        exact List.nodup_nil
      · rw [found]
        exact nodup_lookup exact_names lang meant
    refine List.nodup_append.2 ⟨named, meant.filter _, ?_⟩
    rintro first here second there rfl
    exact of_decide_eq_true (List.mem_filter.1 there).2 here

theorem isSome_of_mem_shared (exact_names : index.NamesExact) {lang path name : String}
    {importedName : Option (String → Option String)} {identity : Identity}
    (member : identity ∈ index.shared lang path name importedName) :
    (index.definition identity).isSome = true := by
  obtain ⟨meant, named⟩ := mem_of_mem_shared member
  exact isSome_of_mem_lookup exact_names named

/-- Where definitions and names are those of findings, resolving gives distinct identities, all of
them defined. -/
theorem Stores.resolve {all : List Findings} (stores : index.Stores all) (lists : index.Lists all)
    (lang path : String) (occurrence : Occurrence)
    (importedName : Option (String → Option String)) :
    ∃ candidates, index.resolve lang path occurrence importedName = .ok candidates ∧
      candidates.Nodup ∧
      ∀ identity ∈ candidates, (index.definition identity).isSome = true := by
  cases own : index.own occurrence with
  | some identity =>
    refine ⟨[identity], resolve_own own, List.nodup_singleton _, ?_⟩
    intro other member
    rw [List.mem_singleton.1 member]
    have kept := (Option.filter_eq_some_iff.1 own).2
    exact (of_decide_eq_true kept).2
  | none =>
    have listed : ∃ locals, index.localDefinitions lang path occurrence.name = .ok locals ∧
        ∀ identity ∈ locals, (index.definition identity).isSome = true := by
      obtain ⟨found, member, same, _⟩ | ⟨_, bare⟩ := stores.fileDefinitions lists path
      · have holds := stores.holds lists member
        refine ⟨_, holds.localDefinitions same.symm lang occurrence.name, ?_⟩
        intro identity inside
        obtain ⟨definition, stored, _⟩ := Findings.mem_named.1 inside
        rw [holds.definition identity definition stored]
        rfl
      · exact ⟨[], localDefinitions_of_ok bare lang occurrence.name, nofun⟩
    obtain ⟨locals, local_list, defined⟩ := listed
    cases locals with
    | cons first rest =>
      refine ⟨[first], resolve_local own local_list, List.nodup_singleton _, ?_⟩
      intro other member
      rw [List.mem_singleton.1 member]
      exact defined first List.mem_cons_self
    | nil =>
      exact ⟨_, resolve_shared own local_list, nodup_shared stores.names _ _ _ _,
        fun _ member => isSome_of_mem_shared stores.names member⟩

end CodeNav.Index
