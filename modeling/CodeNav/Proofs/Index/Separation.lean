import CodeNav.Proofs.Index.Contents
import CodeNav.Proofs.Marks
import CodeNav.Proofs.Source.Position
import CodeNav.Proofs.Symbol.Injectivity

/-! Identities keep files apart. Where languages have no colon, and names and containers can be told
apart, an identity belongs to one symbol of one file. Findings of different files then define
nothing in common, so no history of such findings is ever unclean. -/
namespace CodeNav

def Finding.Legible : Finding → Prop
  | .definition name _ _ container => Identity.Legible name container
  | _ => True

namespace Findings

def Legible (found : Findings) : Prop :=
  ∃ lang path items, found = ofList lang path items ∧ ':' ∉ lang.toList ∧
    ∀ item ∈ items, Finding.Legible item

variable {found first second : Findings} {identity : Identity}

theorem Legible.recorded (legible : found.Legible) : found.Recorded := by
  obtain ⟨lang, path, items, rfl, _⟩ := legible
  exact ⟨lang, path, items, rfl⟩

theorem Legible.plain (legible : found.Legible) : ':' ∉ found.lang.toList := by
  obtain ⟨lang, path, items, rfl, plain, _⟩ := legible
  rw [lang_ofList]
  exact plain

theorem Legible.exists_symbol (legible : found.Legible)
    (defined : identity ∈ found.definitions.keys) :
    ∃ name container, Identity.Legible name container ∧
      identity = Identity.of found.lang found.file name container := by
  obtain ⟨lang, path, items, rfl, _, all⟩ := legible
  obtain ⟨name, kind, range, container, member, same⟩ := exists_definition_of_mem_keys defined
  exact ⟨name, container, all _ member, same⟩

theorem Legible.apart (legible : first.Legible) (also : second.Legible)
    (other : first.file ≠ second.file) (defined : identity ∈ first.definitions.keys) :
    identity ∉ second.definitions.keys := by
  intro again
  obtain ⟨name, container, here, rfl⟩ := legible.exists_symbol defined
  obtain ⟨title, outer, there, same⟩ := also.exists_symbol again
  have files := ((Identity.of_inj legible.plain also.plain here there).1 same).2.1
  rw [legible.recorded.coherent.file, also.recorded.coherent.file] at files
  exact other files

end Findings

namespace Index

variable {history : List Change}

theorem clean_of_legible (legible : ∀ found, Change.merge found ∈ history → found.Legible) :
    Clean history := by
  rintro before after rfl
  have all : ∀ found ∈ live before, found.Legible :=
    of_mem_live fun found member => legible found (List.mem_append_left _ member)
  refine (List.pairwise_map.1 (lists_run before).distinct).imp_of_mem ?_
  intro first second member inside apart identity
  exact (all first member).apart (all second inside) fun same => apart (by rw [same])

/-- An identity tells the language, the file, the name and the container of its symbol. So findings
of different files never define the same one, and no history of them is unclean. -/
theorem identity_tells_symbol :
    (∀ {lang other file path name title : String} {container outer : Option String},
      ':' ∉ lang.toList → ':' ∉ other.toList → Identity.Legible name container →
        Identity.Legible title outer →
      (Identity.of lang file name container = Identity.of other path title outer ↔
        lang = other ∧ Path.normalize file = Path.normalize path ∧ name = title ∧
          container = outer)) ∧
    (∀ {first second : Findings}, first.Legible → second.Legible → first.file ≠ second.file →
      ∀ identity ∈ first.definitions.keys, identity ∉ second.definitions.keys) ∧
    ∀ {history : List Change}, (∀ found, Change.merge found ∈ history → found.Legible) →
      Clean history :=
  ⟨Identity.of_inj, fun legible also other _ => legible.apart also other, clean_of_legible⟩

def nestedPath : Findings :=
  .ofList "py" ".\\a.py::x" [.definition "f" "func" (.single ⟨2, 7⟩) (some "C.D"),
    .reference "f" (.single ⟨3, 1⟩) (some "py::a.py::x::C.D.f")]

def shortPath : Findings :=
  .ofList "py" "a.py" [.definition "f" "func" (.single ⟨1, 5⟩) (some "x"),
    .definition "x" "class" (.single ⟨1, 1⟩) none]

theorem legible_method : Identity.Legible "f" (some "C.D") :=
  ⟨by decide, by decide, by decide, by rintro _ ⟨⟩; decide⟩

theorem legible_function : Identity.Legible "f" none :=
  ⟨by decide, by decide, by decide, nofun⟩

theorem legible_nestedPath : nestedPath.Legible := by
  refine ⟨_, _, _, rfl, by decide, ?_⟩
  simp only [List.mem_cons, List.not_mem_nil, or_false, forall_eq_or_imp, forall_eq]
  exact ⟨legible_method, trivial⟩

theorem legible_shortPath : shortPath.Legible := by
  refine ⟨_, _, _, rfl, by decide, ?_⟩
  simp only [List.mem_cons, List.not_mem_nil, or_false, forall_eq_or_imp, forall_eq]
  exact ⟨⟨by decide, by decide, by decide, by rintro _ ⟨⟩; decide⟩,
    ⟨by decide, by decide, by decide, nofun⟩⟩

def alternating : List Change :=
  [.merge nestedPath, .merge shortPath, .evict "a.py::x", .merge nestedPath, .merge shortPath]

theorem legible_alternating : ∀ found, Change.merge found ∈ alternating → found.Legible := by
  simp only [alternating, List.mem_cons, Change.merge.injEq, List.not_mem_nil, or_false,
    reduceCtorEq, false_or]
  rintro found (rfl | rfl | rfl | rfl)
  · exact legible_nestedPath
  · exact legible_shortPath
  · exact legible_nestedPath
  · exact legible_shortPath

theorem identity_tells_symbol_alternating :
    ':' ∉ "py".toList ∧ Identity.Legible "f" (some "C.D") ∧ Identity.Legible "f" none ∧
      Identity.of "py" ".\\:a::b:" "f" (some "C.D") =
        Identity.of "py" ":a::b:" "f" (some "C.D") ∧
      Identity.of "py" ":a::b:" "f" none ≠ Identity.of "py" ":a::b" "f" none ∧
      nestedPath.Legible ∧ shortPath.Legible ∧ nestedPath.file ≠ shortPath.file ∧
      (∀ identity ∈ nestedPath.definitions.keys, identity ∉ shortPath.definitions.keys) ∧
      (∀ found, Change.merge found ∈ alternating → found.Legible) ∧ Clean alternating := by
  obtain ⟨tells, apart, clean⟩ := identity_tells_symbol
  have plain : ':' ∉ "py".toList := by decide
  have same := (tells plain plain legible_method legible_method).2
    ⟨rfl, show Path.normalize ".\\:a::b:" = Path.normalize ":a::b:" by decide, rfl, rfl⟩
  have other : Identity.of "py" ":a::b:" "f" none ≠ Identity.of "py" ":a::b" "f" none := by
    intro equal
    have files := ((tells plain plain legible_function legible_function).1 equal).2.1
    exact absurd files (by decide)
  have elsewhere : nestedPath.file ≠ shortPath.file := by decide
  exact ⟨plain, legible_method, legible_function, same, other, legible_nestedPath,
    legible_shortPath, elsewhere, apart legible_nestedPath legible_shortPath elsewhere,
    legible_alternating, clean legible_alternating⟩

end Index
end CodeNav
