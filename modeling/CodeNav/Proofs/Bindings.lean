import CodeNav.Proofs.Distinct
import CodeNav.Proofs.Transcript

/-! What the imports of a file bind. Of several imports of one name the last counts, and neither
definitions nor uses of the name change what it stands for. -/
namespace CodeNav

def Finding.targetOf (name : String) : Finding → Option String
  | .binding localName target _ => if localName = name then some target else none
  | _ => none

namespace Findings

theorem get?_imports_add (found : Findings) (item : Finding) (name : String) :
    (found.add item).imports.get? name = (item.targetOf name).or (found.imports.get? name) := by
  cases item with
  | definition label kind range container => rfl
  | reference label range target => cases target <;> rfl
  | binding localName target range =>
    dsimp only [add, bind, Finding.targetOf]
    rw [Table.get?_insert]
    split
    · rfl
    · rfl
  | noReferences target => rfl

theorem get?_imports_foldl (items : List Finding) (found : Findings) (name : String) :
    (items.foldl add found).imports.get? name =
      (items.filterMap (Finding.targetOf name)).getLast?.or (found.imports.get? name) := by
  induction items using List.reverseRecOn with
  | nil => rfl
  | append_singleton before item ih =>
    rw [List.foldl_append, List.foldl_cons, List.foldl_nil, get?_imports_add, ih,
      List.filterMap_append, List.getLast?_append, Option.or_assoc]
    cases said : item.targetOf name with
    | none => simp [said]
    | some target => simp [said]

end Findings

namespace Survey

def lastBinding (grammar : Grammar) (imports : List Syntax.Captures) (name : String) :
    Option (Syntax.Captures × Binding) :=
  ((bindings grammar imports).filter fun bound => bound.2.localName = name).getLast?

theorem boundBy_eq_some {grammar : Grammar} {captures : Syntax.Captures}
    {bound : Syntax.Captures × Binding} : boundBy grammar captures = some bound ↔
      bound.1 = captures ∧ grammar.binding captures = .ok (some bound.2) := by
  obtain ⟨origin, imported⟩ := bound
  rw [boundBy]
  split
  · next other known =>
    rw [known, Option.some.injEq, Prod.mk.injEq, Except.ok.injEq, Option.some.injEq]
    exact and_congr_left' eq_comm
  · next unbound =>
    constructor
    · intro none_bound
      cases none_bound
    · rintro ⟨-, known⟩
      exact absurd known (unbound imported)

theorem lastBinding_eq_some {grammar : Grammar} {imports : List Syntax.Captures} {name : String}
    {captures : Syntax.Captures} {imported : Binding}
    (last : lastBinding grammar imports name = some (captures, imported)) :
    captures ∈ imports ∧ grammar.binding captures = .ok (some imported) ∧
      imported.localName = name := by
  obtain ⟨kept, same⟩ := List.mem_filter.1 (List.mem_of_getLast? last)
  obtain ⟨origin, member, told⟩ := List.mem_filterMap.1 ((eraseDupsBy_sublist _ _).subset kept)
  obtain ⟨rfl, known⟩ := boundBy_eq_some.1 told
  exact ⟨member, known, of_decide_eq_true same⟩

theorem Transcript.get?_imports_findings (transcript : Transcript) (grammar : Grammar)
    (path name : String) : (transcript.findings grammar path).imports.get? name =
      (((transcript.bindings.map Prod.fst).filter fun binding => binding.localName = name).map
        Binding.target).getLast? := by
  have bound (noted : Binding × Range) : Finding.targetOf name (binding noted) =
      if noted.1.localName = name then some noted.1.target else none := rfl
  have defined (noted : Named × Range) : Finding.targetOf name (definition noted) = none := rfl
  have used (own : String → Option Identity) (noted : Syntax.Capture × Range) :
      Finding.targetOf name (use own noted) = none := rfl
  rw [findings, Findings.ofList, Findings.get?_imports_foldl, items]
  have bindings_said : (transcript.bindings.map binding).filterMap (Finding.targetOf name) =
      ((transcript.bindings.map Prod.fst).filter fun binding => binding.localName = name).map
        Binding.target := by
    rw [List.filterMap_map, ← List.filterMap_eq_filter, List.map_filterMap, List.filterMap_map]
    congr 1
    funext noted
    by_cases same : noted.1.localName = name
    · simp [bound, same, Option.guard]
    · simp [bound, same, Option.guard]
  have definitions_silent :
      (transcript.definitions.map definition).filterMap (Finding.targetOf name) = [] := by
    rw [List.filterMap_map, List.filterMap_eq_nil_iff]
    exact fun noted _ => defined noted
  have uses_silent (own : String → Option Identity) :
      (transcript.uses.map (use own)).filterMap (Finding.targetOf name) = [] := by
    rw [List.filterMap_map, List.filterMap_eq_nil_iff]
    exact fun noted _ => used own noted
  rw [List.filterMap_append, List.filterMap_append, bindings_said, definitions_silent, uses_silent,
    List.append_nil, List.append_nil]
  exact Option.or_none

theorem imports_findings {grammar : Grammar} {path : String} {survey : Survey} {found : Findings}
    (done : survey.findings grammar path = .ok found) (name : String) :
    found.imports.get? name =
      (lastBinding grammar survey.imports name).map fun bound => bound.2.target := by
  obtain ⟨transcript, _, kept, _, rfl⟩ := exists_transcript_bindings done
  rw [Transcript.get?_imports_findings, kept, lastBinding, List.filter_map, List.map_map,
    List.getLast?_map]
  rfl

end Survey
end CodeNav
