import CodeNav.Findings
import CodeNav.Proofs.Path
import CodeNav.Proofs.Table

/-! Findings that were noted one after the other, and what holds of all of them: they speak of
one file under its canonical spelling, and of one language. -/
namespace CodeNav

deriving instance DecidableEq for Findings

namespace Findings

def Recorded (found : Findings) : Prop := ∃ lang path items, found = ofList lang path items

@[simp] theorem recorded_ofList (lang path : String) (items : List Finding) :
    (ofList lang path items).Recorded := ⟨lang, path, items, rfl⟩

def referencesTo (found : Findings) (identity : Identity) : List Reference :=
  (found.references.get? identity).getD []

structure Coherent (found : Findings) : Prop where
  file : Path.normalize found.file = found.file
  definitions : ∀ identity definition, found.definitions.get? identity = some definition →
    definition.lang = found.lang ∧ definition.file = found.file
  references : ∀ identity, ∀ reference ∈ found.referencesTo identity,
    reference.lang = found.lang ∧ reference.file = found.file

theorem coherent_start (lang path : String) : (start lang path).Coherent := by
  refine ⟨?_, ?_, ?_⟩
  · dsimp only [start]
    exact Path.normalize_normalize path
  · intro identity definition stored
    simp [start] at stored
  · intro identity reference member
    simp [referencesTo, start] at member

theorem Coherent.define {found : Findings} (coherent : found.Coherent) (name kind : String)
    (range : Range) (container : Option String) :
    (found.define name kind range container).Coherent := by
  refine ⟨coherent.file, ?_, coherent.references⟩
  intro identity definition stored
  dsimp only [Findings.define] at stored ⊢
  rw [Table.get?_insert] at stored
  split at stored
  · cases stored
    exact ⟨rfl, rfl⟩
  · exact coherent.definitions identity definition stored

theorem referencesTo_refer (found : Findings) (name : String) (range : Range)
    (target : Option Identity) (identity : Identity) :
    (found.refer name range target).referencesTo identity =
      found.referencesTo identity ++
        if target = some identity then [⟨found.lang, found.file, range⟩] else [] := by
  cases target with
  | none => simp [refer, referencesTo]
  | some known =>
    by_cases same : known = identity
    · simp [refer, referencesTo, same]
    · simp [refer, referencesTo, same]

theorem Coherent.refer {found : Findings} (coherent : found.Coherent) (name : String)
    (range : Range) (target : Option Identity) : (found.refer name range target).Coherent := by
  have frame : (found.refer name range target).lang = found.lang ∧
      (found.refer name range target).file = found.file ∧
      (found.refer name range target).definitions = found.definitions := by
    cases target <;> exact ⟨rfl, rfl, rfl⟩
  obtain ⟨lang, file, definitions⟩ := frame
  refine ⟨?_, ?_, ?_⟩
  · rw [file]
    exact coherent.file
  · rw [definitions, lang, file]
    exact coherent.definitions
  · intro identity reference member
    rw [lang, file]
    rw [referencesTo_refer, List.mem_append] at member
    obtain earlier | here := member
    · exact coherent.references identity reference earlier
    · split at here
      · rw [List.mem_singleton] at here
        subst here
        exact ⟨rfl, rfl⟩
      · cases here

theorem Coherent.noReferences {found : Findings} (coherent : found.Coherent)
    (target : Identity) : (found.add (.noReferences target)).Coherent := by
  refine ⟨coherent.file, coherent.definitions, ?_⟩
  intro identity reference member
  simp only [referencesTo, add, Table.get?_insert] at member
  split at member
  · cases member
  · exact coherent.references identity reference member

theorem Coherent.add {found : Findings} (coherent : found.Coherent) (item : Finding) :
    (found.add item).Coherent := by
  cases item with
  | definition name kind range container => exact coherent.define name kind range container
  | reference name range target => exact coherent.refer name range target
  | binding localName target range =>
    exact ⟨coherent.file, coherent.definitions, coherent.references⟩
  | noReferences target => exact coherent.noReferences target

theorem Recorded.coherent {found : Findings} (recorded : found.Recorded) : found.Coherent := by
  obtain ⟨lang, path, items, rfl⟩ := recorded
  exact List.foldlRecOn items _ (coherent_start lang path) fun _ coherent item _ =>
    coherent.add item

end Findings
end CodeNav
