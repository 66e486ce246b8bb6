import CodeNav.Proofs.Evaluation
import CodeNav.Proofs.Grammar.Imports.Go
import CodeNav.Proofs.Grammar.Imports.Python
import CodeNav.Proofs.Grammar.Reading

/-! The table of imports. In Python and Go what a file imports is noted in the order of the
document, whichever patterns read it, and of several imports of one name the last counts. -/
namespace CodeNav.Grammar

open Syntax
open CodeNav.Text.Utf8 (Bytes)

inductive ImportsOf (source : Bytes) (tree : Tree) : Grammar → (Import → Prop) → Prop where
  | python : Python.ImportsShaped tree → ImportsOf source tree python (Python.Binds source tree)
  | go : Go.ImportsShaped tree → ImportsOf source tree go (Go.Binds source tree)

namespace ImportsOf

variable {source : Bytes} {tree : Tree} {grammar : Grammar} {imports : Import → Prop}

theorem reads (of : ImportsOf source tree grammar imports) :
    grammar.ReadsImports source tree imports := by
  cases of with
  | python _ => exact Python.readsImports source tree
  | go _ => exact Go.readsImports source tree

theorem distinct (of : ImportsOf source tree grammar imports) : Import.Distinct imports := by
  cases of with
  | python shaped => exact Python.distinct shaped
  | go shaped => exact Go.distinct shaped

theorem exists_findings (of : ImportsOf source tree grammar imports) (path : String)
    (forward : ∀ node ∈ tree.nodes, node.start ≤ node.stop) :
    ∃ found, grammar.findings path source (some tree) = .ok found := by
  cases of with
  | python _ => exact exists_findings_of_forward .python path source tree forward
  | go _ => exact exists_findings_of_forward .go path source tree forward

theorem located_lt (of : ImportsOf source tree grammar imports) (flat : tree.Flat "import_spec")
    {first second : Import} (here : imports first) (there : imports second)
    (less : first.last.index < second.last.index) : first.located.index < second.located.index := by
  cases of with
  | python _ => rwa [here.last_eq, there.last_eq] at less
  | go shaped => exact here.located_lt shaped flat there less

end ImportsOf

/-- The imports of Python and Go, where no two nodes that show what is imported share a span. A tree
in which no node ends before it starts has findings. They note just the imports of the tree, each of
them once, in the order in which the imports end, which is also that of the nodes that show them
unless a spec stands below another one. A name is known if one of them binds it, and stands for the
target of the last one that does. -/
theorem imports_listed {source : Bytes} {tree : Tree} {grammar : Grammar}
    {imports : Import → Prop} (of : ImportsOf source tree grammar imports)
    (apart : Import.Apart imports) (path : String) :
    ((∀ node ∈ tree.nodes, node.start ≤ node.stop) →
      ∃ found, grammar.findings path source (some tree) = .ok found) ∧
    ∀ found, grammar.findings path source (some tree) = .ok found →
      ∃ listed : List Import, (∀ each, each ∈ listed ↔ imports each) ∧
        listed.Pairwise (fun first second => first.last.index < second.last.index) ∧
        (tree.Flat "import_spec" →
          listed.Pairwise fun first second => first.located.index < second.located.index) ∧
        found.Notes source listed := by
  refine ⟨of.exists_findings path, ?_⟩
  intro found done
  obtain ⟨listed, exactly, ordered, notes⟩ := of.reads.exists_notes apart of.distinct done
  refine ⟨listed, exactly, ordered, ?_, notes⟩
  intro flat
  apply ordered.imp_of_mem
  intro first second member also_member less
  exact of.located_lt flat ((exactly first).1 member) ((exactly second).1 also_member) less

def reboundSource : Bytes :=
  "import a.b, c as d\nfrom .m import e, f as d\n".toList.map fun c => c.toNat.toUInt8

def reboundTree : Tree := ⟨[
  ⟨0, "module", none, 0, 44⟩,
  ⟨1, "import_statement", none, 0, 18⟩,
  ⟨2, "dotted_name", some "name", 7, 10⟩,
  ⟨3, "identifier", none, 7, 8⟩,
  ⟨3, "identifier", none, 9, 10⟩,
  ⟨2, "aliased_import", some "name", 12, 18⟩,
  ⟨3, "dotted_name", some "name", 12, 13⟩,
  ⟨4, "identifier", none, 12, 13⟩,
  ⟨3, "identifier", some "alias", 17, 18⟩,
  ⟨1, "import_from_statement", none, 19, 43⟩,
  ⟨2, "relative_import", some "module_name", 24, 26⟩,
  ⟨3, "import_prefix", none, 24, 25⟩,
  ⟨3, "dotted_name", none, 25, 26⟩,
  ⟨4, "identifier", none, 25, 26⟩,
  ⟨2, "dotted_name", some "name", 34, 35⟩,
  ⟨3, "identifier", none, 34, 35⟩,
  ⟨2, "aliased_import", some "name", 37, 43⟩,
  ⟨3, "dotted_name", some "name", 37, 38⟩,
  ⟨4, "identifier", none, 37, 38⟩,
  ⟨3, "identifier", some "alias", 42, 43⟩]⟩

def blankSource : Bytes :=
  "package p\nimport (\n\tf \"fmt\"\n\t_ \"os\"\n\t\"a/b\"\n)\n".toList.map fun c => c.toNat.toUInt8

def blankTree : Tree := ⟨[
  ⟨0, "source_file", none, 0, 45⟩,
  ⟨1, "package_clause", none, 0, 9⟩,
  ⟨2, "package_identifier", none, 8, 9⟩,
  ⟨1, "import_declaration", none, 10, 44⟩,
  ⟨2, "import_spec_list", none, 17, 44⟩,
  ⟨3, "import_spec", none, 20, 27⟩,
  ⟨4, "package_identifier", some "name", 20, 21⟩,
  ⟨4, "interpreted_string_literal", some "path", 22, 27⟩,
  ⟨5, "interpreted_string_literal_content", none, 23, 26⟩,
  ⟨3, "import_spec", none, 29, 35⟩,
  ⟨4, "blank_identifier", some "name", 29, 30⟩,
  ⟨4, "interpreted_string_literal", some "path", 31, 35⟩,
  ⟨5, "interpreted_string_literal_content", none, 32, 34⟩,
  ⟨3, "import_spec", none, 37, 42⟩,
  ⟨4, "interpreted_string_literal", some "path", 37, 42⟩,
  ⟨5, "interpreted_string_literal_content", none, 38, 41⟩]⟩

theorem entries_rebound {found : Findings}
    (done : python.findings "m.py" reboundSource (some reboundTree) = .ok found) :
    (found.imports.entries, found.bound.map fun each => (each.name, each.range.start)) =
      ([("a", "a.b"), ("d", ".m.f"), ("e", ".m.e")],
        [("a", ⟨1, 8⟩), ("d", ⟨1, 18⟩), ("e", ⟨2, 16⟩), ("d", ⟨2, 24⟩)]) :=
  view_of_evaluated (fun found => (found.imports.entries,
    found.bound.map fun each => (each.name, each.range.start))) rfl done

theorem entries_blank {found : Findings}
    (done : go.findings "p.go" blankSource (some blankTree) = .ok found) :
    (found.imports.entries, found.bound.map fun each => (each.name, each.range.start)) =
      ([("f", "fmt"), ("b", "a/b")], [("f", ⟨3, 2⟩), ("b", ⟨5, 2⟩)]) :=
  view_of_evaluated (fun found => (found.imports.entries,
    found.bound.map fun each => (each.name, each.range.start))) rfl done

/-- The name that is bound twice stands for the later target, and a blank name is not known. -/
theorem imports_listed_rebound :
    (∃ found listed, python.findings "m.py" reboundSource (some reboundTree) = .ok found ∧
      (∀ each, each ∈ listed ↔ Python.Binds reboundSource reboundTree each) ∧
      listed.Pairwise (fun first second => first.last.index < second.last.index) ∧
      found.Notes reboundSource listed ∧
      (found.imports.entries, found.bound.map fun each => (each.name, each.range.start)) =
        ([("a", "a.b"), ("d", ".m.f"), ("e", ".m.e")],
          [("a", ⟨1, 8⟩), ("d", ⟨1, 18⟩), ("e", ⟨2, 16⟩), ("d", ⟨2, 24⟩)])) ∧
    ∃ found listed, go.findings "p.go" blankSource (some blankTree) = .ok found ∧
      (∀ each, each ∈ listed ↔ Go.Binds blankSource blankTree each) ∧
      listed.Pairwise (fun first second => first.located.index < second.located.index) ∧
      found.Notes blankSource listed ∧
      (found.imports.entries, found.bound.map fun each => (each.name, each.range.start)) =
        ([("f", "fmt"), ("b", "a/b")], [("f", ⟨3, 2⟩), ("b", ⟨5, 2⟩)]) := by
  constructor
  · have shaped : Python.ImportsShaped reboundTree :=
      ⟨by decide, by decide, by decide⟩
    have apart : Import.Apart (Python.Binds reboundSource reboundTree) :=
      Import.apart_of_fields (fun _ => Python.Binds.inside) (by decide)
    obtain ⟨succeeds, noted⟩ := imports_listed (.python shaped) apart "m.py"
    obtain ⟨found, done⟩ := succeeds (by decide)
    obtain ⟨listed, exactly, ordered, -, notes⟩ := noted found done
    exact ⟨found, listed, done, exactly, ordered, notes, entries_rebound done⟩
  · have shaped : Go.ImportsShaped blankTree := ⟨by decide, by decide⟩
    have apart : Import.Apart (Go.Binds blankSource blankTree) :=
      Import.apart_of_fields (fun _ => Go.Binds.inside) (by decide)
    have flat : blankTree.Flat "import_spec" := Tree.flat_of_depth 3 (by decide)
    obtain ⟨succeeds, noted⟩ := imports_listed (.go shaped) apart "p.go"
    obtain ⟨found, done⟩ := succeeds (by decide)
    obtain ⟨listed, exactly, -, ordered, notes⟩ := noted found done
    exact ⟨found, listed, done, exactly, ordered flat, notes, entries_blank done⟩

end CodeNav.Grammar
