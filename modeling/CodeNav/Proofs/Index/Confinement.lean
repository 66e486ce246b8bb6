import CodeNav.Proofs.Index.LastWriter
import CodeNav.Proofs.Index.Lookup
import CodeNav.Proofs.Index.Resolution
import CodeNav.Proofs.Marks
import CodeNav.Proofs.Symbol.Identity

/-! Languages do not mix. Whatever stands in an index after a history, also what was left behind
where files share identities, was once merged, and so it bears the language of its findings. What
a name of a file can mean is then of the language of the file. -/
namespace CodeNav

namespace Findings

def Identified (found : Findings) : Prop :=
  ∀ identity ∈ found.definitions.keys, ∃ name container, identity = found.identify name container

theorem Recorded.identified {found : Findings} (recorded : found.Recorded) : found.Identified := by
  obtain ⟨lang, path, items, rfl⟩ := recorded
  intro identity defined
  obtain ⟨name, _, _, container, _, same⟩ := exists_definition_of_mem_keys defined
  exact ⟨name, container, same⟩

theorem Recorded.ofLang {found : Findings} (recorded : found.Recorded)
    (plain : ':' ∉ found.lang.toList) (tagged : found.lang ≠ "") {identity : Identity}
    (defined : identity ∈ found.definitions.keys) : Identity.OfLang found.lang identity := by
  obtain ⟨name, container, rfl⟩ := recorded.identified identity defined
  exact Identity.ofLang_of plain tagged found.file name container

end Findings

namespace Index

structure Tagged (history : List Change) : Prop where
  recorded : Recorded history
  plain : ∀ found, Change.merge found ∈ history → ':' ∉ found.lang.toList
  named : ∀ found, Change.merge found ∈ history → found.lang ≠ ""

variable {history : List Change} {found : Findings} {identity : Identity} {key lang name : String}

theorem exists_merged_of_definition {definition : Definition}
    (stored : (run history).definition identity = some definition) :
    ∃ found, Change.merge found ∈ history ∧
      found.definitions.get? identity = some definition := by
  obtain ⟨before, found, after, rfl, written, _⟩ := definition_run.1 stored
  exact ⟨found, by simp, written⟩

theorem exists_merged_of_keyOf (keyed : (run history).keyOf identity = some key) :
    ∃ found definition, Change.merge found ∈ history ∧
      found.definitions.get? identity = some definition ∧ definition.key = key := by
  obtain ⟨definition, stored, keyed⟩ := keyOf_eq_some.1 keyed
  obtain ⟨found, member, written⟩ := exists_merged_of_definition stored
  exact ⟨found, definition, member, written, keyed⟩

/-- An identity stands under a key because a definition with the key was merged once, though it
may be gone. -/
theorem exists_merged_of_mem_bucket (member : identity ∈ (run history).bucket key) :
    ∃ found definition, Change.merge found ∈ history ∧
      found.definitions.get? identity = some definition ∧ definition.key = key := by
  rcases (mem_bucket_run history identity key).1 member with keyed | displaced
  · exact exists_merged_of_keyOf keyed
  · obtain ⟨before, latest, after, rfl, replaced, _⟩ := displaced
    obtain ⟨found, definition, earlier, written, keyed⟩ :=
      exists_merged_of_keyOf (keyOf_evict.1 replaced).1
    exact ⟨found, definition, List.mem_append_left _ earlier, written, keyed⟩

namespace Tagged

variable (tagged : Tagged history)

include tagged

theorem ofLang_of_written (member : Change.merge found ∈ history) {definition : Definition}
    (written : found.definitions.get? identity = some definition) :
    definition.lang = found.lang ∧ Identity.OfLang found.lang identity := by
  have recorded := tagged.recorded found member
  refine ⟨(recorded.coherent.definitions identity definition written).1, ?_⟩
  exact recorded.ofLang (tagged.plain found member) (tagged.named found member)
    (Table.mem_keys.2 ⟨definition, written⟩)

theorem ofLang_of_definition {definition : Definition}
    (stored : (run history).definition identity = some definition) :
    Identity.OfLang definition.lang identity := by
  obtain ⟨found, member, written⟩ := exists_merged_of_definition stored
  obtain ⟨same, speaks⟩ := tagged.ofLang_of_written member written
  exact same ▸ speaks

theorem ofLang_of_mem_lookup (plain : ':' ∉ lang.toList)
    (member : identity ∈ (run history).lookup lang name) : Identity.OfLang lang identity := by
  obtain ⟨found, definition, merged, written, keyed⟩ :=
    exists_merged_of_mem_bucket (mem_lookup.1 member)
  obtain ⟨same, speaks⟩ := tagged.ofLang_of_written merged written
  have plain_definition : ':' ∉ definition.lang.toList := by
    rw [same]
    exact tagged.plain found merged
  obtain ⟨here, _⟩ := (Identity.lookupKey_inj plain_definition plain).1 keyed
  rw [← here, same]
  exact speaks

theorem ofLang_of_resolve (latest : found ∈ live history) {path : String}
    (file : Path.normalize path = Path.normalize found.file) {occurrence : Occurrence}
    (occurs : occurrence ∈ found.occurrences)
    {importedName : Option (String → Option String)} {candidates : List Identity}
    (resolved : (run history).resolve found.lang path occurrence importedName = .ok candidates)
    (member : identity ∈ candidates) : Identity.OfLang found.lang identity := by
  have merged : Change.merge found ∈ history := of_mem_live (fun _ here => here) found latest
  have recorded := tagged.recorded found merged
  have plain := tagged.plain found merged
  have defined (inside : identity ∈ found.definitions.keys) : Identity.OfLang found.lang identity :=
    recorded.ofLang plain (tagged.named found merged) inside
  rcases mem_of_resolve resolved member with own | in_file | ⟨meant, shared⟩
  · exact defined (recorded.marked occurrence occurs identity (Option.filter_eq_some_iff.1 own).1)
  · rw [definedBy, entry?, file, (lists_run history).entry_of_mem latest] at in_file
    exact defined in_file
  · exact tagged.ofLang_of_mem_lookup plain shared

end Tagged
end Index
end CodeNav
