import CodeNav.Proofs.Survey
import CodeNav.Proofs.Syntax.Query
import CodeNav.Proofs.Sorting

/-! Findings with insertion sorts in place of the merge sorts, which are by well-founded recursion
and do not evaluate in the kernel. What is found in a given tree is then settled by evaluation. -/
namespace CodeNav

open Syntax
open CodeNav.Text.Utf8 (Bytes)

def Syntax.Query.evaluated (query : Query) (source : Bytes) (tree : Tree) : List Captures :=
  ((query.allMatches tree).insertionSort fun a b => keyUpTo a.key b.key = true).map
    fun ranked => ranked.found.captured source

theorem Syntax.Query.captures_eq_evaluated (query : Query) (source : Bytes) (tree : Tree) :
    query.captures source tree = query.evaluated source tree := by
  rw [captures, run, evaluated, List.map_map, mergeSort_eq_insertionSort]
  · rfl
  · intro a b c
    exact keyUpTo_trans
  · intro a b
    exact keyUpTo_total a.key b.key

namespace Survey

def evaluatedPlaced (names : Names) : List Named :=
  (names.entries.insertionSort fun a b => spanBefore a.1 b.1 = true).map Prod.snd

theorem placed_eq_evaluated (names : Names) : placed names = evaluatedPlaced names := by
  rw [placed, evaluatedPlaced, mergeSort_eq_insertionSort]
  · intro a b c
    exact spanBefore_trans
  · intro a b
    exact spanBefore_total a.1 b.1

def evaluated (grammar : Grammar) (path : String) (survey : Survey) : Except Failure Findings := do
  let found ← bindImports grammar (Findings.start grammar.tag path) survey.imports
  let names := namesOf survey.definitions
  let defined ← (evaluatedPlaced names).foldlM defineNamed ⟨found, .empty⟩
  let uses := usesOf names (statementSpans survey.imports) survey.references
  uses.foldlM (referUse defined.own) defined.found

theorem findings_eq_evaluated (grammar : Grammar) (path : String) (survey : Survey) :
    survey.findings grammar path = survey.evaluated grammar path := by
  simp only [findings, defineNames, placed_eq_evaluated, evaluated]

end Survey

namespace Grammar

variable {grammar : Grammar} {path : String} {source : Bytes} {tree : Tree}

def evaluated (grammar : Grammar) (path : String) (source : Bytes) (tree : Tree) :
    Except Failure Findings :=
  Survey.evaluated grammar path
    ⟨grammar.imports.evaluated source tree, grammar.definitions.evaluated source tree,
      grammar.references.evaluated source tree⟩

theorem findings_eq_evaluated : grammar.findings path source (some tree) =
    grammar.evaluated path source tree := by
  simp only [findings, Survey.findings_eq_evaluated, Survey.ofTree, Query.captures_eq_evaluated,
    evaluated]

/-- Findings compare where failures do not, which are not told apart. -/
theorem findings_of_evaluated {found : Findings}
    (computed : (grammar.evaluated path source tree).toOption = some found) :
    grammar.findings path source (some tree) = .ok found := by
  rw [findings_eq_evaluated, ← toOption_eq_some]
  exact computed

theorem view_of_evaluated {γ : Type} (view : Findings → γ) {seen : γ}
    (computed : (grammar.evaluated path source tree).toOption.map view = some seen)
    {found : Findings} (done : grammar.findings path source (some tree) = .ok found) :
    view found = seen := by
  rw [findings_eq_evaluated] at done
  exact eq_of_map_toOption view computed done

end Grammar
end CodeNav
