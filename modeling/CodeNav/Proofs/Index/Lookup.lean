import CodeNav.Proofs.Index.Contents
import CodeNav.Proofs.Sorting
import CodeNav.Proofs.Symbol.Identity

/-! The reverse look-up is exact. After a clean history a look-up of a language and a name lists,
ascending, just the identities whose stored definitions have that language and name. The one key
that stands for both is unambiguous because no language has a colon. -/
namespace CodeNav

namespace Index

theorem mem_lookup {index : Index} {lang name : String} {identity : Identity} :
    identity ∈ index.lookup lang name ↔ identity ∈ index.bucket (Identity.lookupKey lang name) :=
  mem_sortTexts

theorem Stores.lang_of_definition {index : Index} {all : List Findings} (stores : index.Stores all)
    (shows : index.Shows all) {identity : Identity} {definition : Definition}
    (stored : index.definition identity = some definition) :
    ∃ found ∈ all, definition.lang = found.lang := by
  obtain ⟨found, member, here⟩ := stores.definition_eq_some.1 stored
  exact ⟨found, member, ((shows.coherent found member).definitions identity definition here).1⟩

/-- A look-up lists the stored definitions of a language and a name, ascending and each once. -/
theorem lookup_exact {history : List Change} (recorded : Recorded history)
    (clean : Clean history)
    (plain : ∀ found, Change.merge found ∈ history → ':' ∉ found.lang.toList)
    (lang name : String) (plain_lang : ':' ∉ lang.toList) :
    ((run history).lookup lang name).Pairwise (· < ·) ∧
      ∀ identity, identity ∈ (run history).lookup lang name ↔
        ∃ definition, (run history).definition identity = some definition ∧
          definition.lang = lang ∧ definition.name = name := by
  have shows := shows_run recorded
  have stores := stores_run clean
  refine ⟨pairwise_lt_sortTexts (stores.names.nodup _), ?_⟩
  intro identity
  rw [mem_lookup, stores.names.mem_bucket]
  apply exists_congr
  intro definition
  apply and_congr_right
  intro stored
  obtain ⟨found, member, same⟩ := stores.lang_of_definition shows stored
  have plain_definition : ':' ∉ definition.lang.toList := by
    rw [same]
    exact of_mem_live plain found member
  exact Identity.lookupKey_inj plain_definition plain_lang

/-- Four files have symbols of one name, two of them in one language; one of these is merged again
with two such symbols, and one file is taken out. -/
def sharedName : List Change :=
  let line (number : Nat) : Range :=
    ⟨⟨number, 1⟩, ⟨number, 1⟩, Position.le_def.2 (.inr ⟨rfl, Int.le_refl 1⟩)⟩
  [.merge (Findings.ofList "py" "a.py" [.definition "f" "func" (line 1) none]),
    .merge (Findings.ofList "go" "a.go" [.definition "f" "func" (line 1) (some "T")]),
    .merge (Findings.ofList "py" "b.py" [.definition "f" "func" (line 1) (some "B")]),
    .merge (Findings.ofList "ts" "a.ts" [.definition "f" "func" (line 1) none]),
    .merge (Findings.ofList "py" "a.py" [.definition "f" "func" (line 1) none,
      .definition "f" "func" (line 2) (some "A"), .definition "f" "func" (line 3) none]),
    .evict "a.ts"]

theorem recorded_sharedName : Recorded sharedName := by simp [sharedName]

theorem clean_sharedName : Clean sharedName := clean_of_inits (by decide)

theorem plain_sharedName : ∀ found, Change.merge found ∈ sharedName → ':' ∉ found.lang.toList := by
  have plain : ∀ found ∈ merged sharedName, ':' ∉ found.lang.toList := by decide
  intro found member
  exact plain found (mem_merged.2 member)

theorem lookup_exact_sharedName :
    Recorded sharedName ∧ Clean sharedName ∧
      (∀ found, Change.merge found ∈ sharedName → ':' ∉ found.lang.toList) ∧
      ':' ∉ "py".toList ∧ ((run sharedName).lookup "py" "f").Pairwise (· < ·) ∧
      ∀ identity, identity ∈ (run sharedName).lookup "py" "f" ↔
        ∃ definition, (run sharedName).definition identity = some definition ∧
          definition.lang = "py" ∧ definition.name = "f" :=
  ⟨recorded_sharedName, clean_sharedName, plain_sharedName, by decide,
    lookup_exact recorded_sharedName clean_sharedName plain_sharedName "py" "f" (by decide)⟩

end Index
end CodeNav
