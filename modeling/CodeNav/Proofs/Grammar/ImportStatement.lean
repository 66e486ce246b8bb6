import CodeNav.Proofs.Evaluation
import CodeNav.Proofs.Grammar.Coverage
import CodeNav.Proofs.Syntax.Fits

/-! Names within import statements. The bytes that are kept free of references are those of the
statements that a query for imports reads, and each language reads some forms of its import
statements only. Below a statement of such a form nothing refers; below any other one every name
does that neither defines nor stands within one of them. -/
namespace CodeNav.Grammar

open Syntax
open CodeNav.Text.Utf8 (Bytes)

def Python.Imported (place : Place) : Prop :=
  place.node.kind = "dotted_name" ∨
    place.node.kind = "aliased_import" ∧ ∃ name own, [name, own].Sublist place.children ∧
      (name.node.field = some "name" ∧ name.node.kind = "dotted_name") ∧
      own.node.field = some "alias" ∧ own.node.kind = "identifier"

def Python.Imports (place : Place) : Prop :=
  (place.node.kind = "import_statement" ∧
      ∃ name ∈ place.children, name.node.field = some "name" ∧ Imported name) ∨
    place.node.kind = "import_from_statement" ∧
      ∃ origin name, [origin, name].Sublist place.children ∧
        origin.node.field = some "module_name" ∧ name.node.field = some "name" ∧ Imported name

def Go.Imports (place : Place) : Prop :=
  place.node.kind = "import_spec" ∧
    ((∃ own path, [own, path].Sublist place.children ∧
        own.node.field = some "name" ∧ path.node.field = some "path") ∨
      (∃ path ∈ place.children, path.node.field = some "path") ∧
        ∀ child ∈ place.children, child.node.field ≠ some "name")

def TypeScript.Specifies (place : Place) : Prop :=
  place.node.kind = "import_specifier" ∧
    ((∃ name own, [name, own].Sublist place.children ∧
        (name.node.field = some "name" ∧ name.node.kind = "identifier") ∧
        own.node.field = some "alias" ∧ own.node.kind = "identifier") ∨
      (∃ name ∈ place.children, name.node.field = some "name" ∧ name.node.kind = "identifier") ∧
        ∀ child ∈ place.children, child.node.field ≠ some "alias")

def TypeScript.Part (place : Place) : Prop :=
  place.node.kind = "identifier" ∨
    (place.node.kind = "namespace_import" ∧
      ∃ own ∈ place.children, own.node.kind = "identifier") ∨
    place.node.kind = "named_imports" ∧ ∃ specifier ∈ place.children, Specifies specifier

def TypeScript.Imports (place : Place) : Prop :=
  place.node.kind = "import_statement" ∧
    ∃ clause origin, [clause, origin].Sublist place.children ∧
      (clause.node.kind = "import_clause" ∧ ∃ part ∈ clause.children, Part part) ∧
      origin.node.field = some "source" ∧ origin.node.kind = "string"

inductive ImportForms : Grammar → List String → (Place → Prop) → Prop where
  | go : ImportForms go ["import_spec"] Go.Imports
  | typescript : ImportForms typescript ["import_statement"] TypeScript.Imports
  | python : ImportForms python ["import_statement", "import_from_statement"] Python.Imports

open Pattern

variable {siblings : List Place} {place : Place} {kind field label : String}

theorem fitsAmong_held :
    FitsAmong siblings (((ofKind kind []).inField field).captured label) place ↔
      place.node.field = some field ∧ place.node.kind = kind := by
  rw [fitsAmong_captured, fitsAmong_inField rfl, fits_leaf]

theorem fitsAmong_any :
    FitsAmong siblings ((anyNode.inField field).captured label) place ↔
      place.node.field = some field := by
  rw [fitsAmong_captured, fitsAmong_inField rfl]
  exact and_iff_left fits_anyNode

namespace Python

theorem fitsAmong_renamed : FitsAmong siblings (renamed label) place ↔
    place.node.field = some "name" ∧ place.node.kind = "aliased_import" ∧
      ∃ name own, [name, own].Sublist place.children ∧
        (name.node.field = some "name" ∧ name.node.kind = "dotted_name") ∧
        own.node.field = some "alias" ∧ own.node.kind = "identifier" := by
  rw [renamed, fitsAmong_inField rfl, fits_two]
  simp only [dottedName, fitsAmong_held]

theorem exists_fits :
    (∃ pattern ∈ imports.rules.flatten, pattern.Fits place) ↔ Imports place := by
  simp only [imports, fromModule, exists_fits_cons, not_exists_fits_nil, or_false, fits_captured,
    fits_one, fits_two, fitsAmong_any, fitsAmong_renamed]
  simp only [dottedName, fitsAmong_held, Imports, Imported, and_or_left, exists_or, or_assoc]

end Python

namespace Go

theorem exists_fits :
    (∃ pattern ∈ imports.rules.flatten, pattern.Fits place) ↔ Imports place := by
  simp only [imports, exists_fits_cons, not_exists_fits_nil, or_false, fits_captured, fits_lacking,
    fits_one, fits_two, fitsAmong_any]
  rw [Imports, and_or_left, and_assoc]

end Go

namespace TypeScript

theorem fitsAmong_ownName : FitsAmong siblings ownName place ↔ place.node.kind = "identifier" := by
  rw [ownName, fitsAmong_captured, fitsAmong_ofKind, fits_leaf]

theorem fitsAmong_alias : FitsAmong siblings (ownName.inField "alias") place ↔
    place.node.field = some "alias" ∧ place.node.kind = "identifier" := by
  rw [fitsAmong_inField rfl, ownName, fits_captured, fits_leaf]

theorem fits_importOf {part : Pattern} : (importOf part).Fits place ↔
    place.node.kind = "import_statement" ∧
      ∃ clause origin, [clause, origin].Sublist place.children ∧
        (clause.node.kind = "import_clause" ∧
          ∃ child ∈ clause.children, FitsAmong clause.children part child) ∧
        origin.node.field = some "source" ∧ origin.node.kind = "string" := by
  rw [importOf, fits_captured, fits_two]
  simp only [fitsAmong_ofKind, fits_one, fitsAmong_held]

theorem exists_fits :
    (∃ pattern ∈ imports.rules.flatten, pattern.Fits place) ↔ Imports place := by
  simp only [imports, exportedName, exists_fits_cons, not_exists_fits_nil, or_false, fits_importOf,
    fits_one, fits_two, fitsAmong_ofKind, fitsAmong_lacking, fitsAmong_held, fitsAmong_ownName,
    fitsAmong_alias]
  -- What the patterns say one by one, `Imports` says with its alternatives inside.
  simp only [Imports, Part, Specifies, and_or_left, or_and_right, exists_or, and_assoc]

end TypeScript

variable {grammar : Grammar} {kinds statements : List String} {imports : Place → Prop}
  {source : Bytes} {tree : Tree} {statement : Place}

namespace ImportForms

theorem exists_fits (forms : ImportForms grammar statements imports) :
    (∃ pattern ∈ grammar.imports.rules.flatten, pattern.Fits place) ↔ imports place := by
  cases forms with
  | go => exact Go.exists_fits
  | typescript => exact TypeScript.exists_fits
  | python => exact Python.exists_fits

theorem labelled (forms : ImportForms grammar statements imports) :
    ∀ pattern ∈ grammar.imports.rules.flatten, pattern.label = some "import.stmt" := by
  cases forms <;> decide

theorem kind_mem (forms : ImportForms grammar statements imports) (read : imports place) :
    place.node.kind ∈ statements := by
  cases forms with
  | go => exact List.mem_singleton.2 read.1
  | typescript => exact List.mem_singleton.2 read.1
  | python =>
    obtain ⟨known, _⟩ | ⟨known, _⟩ := read
    · exact known ▸ List.mem_cons_self
    · exact known ▸ List.mem_cons_of_mem _ List.mem_cons_self

end ImportForms

/-- The bytes kept free of references are those of the statements that are read. -/
theorem inImport_iff (names : NameKinds grammar kinds)
    (forms : ImportForms grammar statements imports) {node : Node} :
    grammar.InImport tree node ↔ ∃ statement ∈ tree.places, imports statement ∧
      statement.node.start ≤ node.start ∧ node.stop ≤ statement.node.stop := by
  simp only [InImport, Query.capturesAs_top names.imports_distinct forms.labelled,
    forms.exists_fits]
  constructor
  · rintro ⟨_, ⟨statement, inside, rfl, read⟩, within⟩
    exact ⟨statement, inside, read, within⟩
  · rintro ⟨statement, inside, read, within⟩
    exact ⟨_, ⟨statement, inside, rfl, read⟩, within⟩

theorem not_above_of_mem_uses (names : NameKinds grammar kinds)
    (forms : ImportForms grammar statements imports) (nested : tree.Nested)
    (inside : statement ∈ tree.places) (read : imports statement)
    (used : place ∈ grammar.uses kinds source tree) :
    ¬ tree.Above statement.index place.index := by
  obtain ⟨known, -, -, outside⟩ := mem_uses.1 used
  intro above
  have within := above.within nested (Tree.mem_places.1 inside).1 (Tree.mem_places.1 known).1
  exact outside ((inImport_iff names forms).2 ⟨statement, inside, read, within⟩)

/-- A node has no reference below it just if each name below it defines, or stands within the bytes
of a statement that is read. -/
theorem forall_not_above_iff (names : NameKinds grammar kinds)
    (forms : ImportForms grammar statements imports) {index : Nat} :
    (∀ place ∈ grammar.uses kinds source tree, ¬ tree.Above index place.index) ↔
      ∀ place ∈ tree.places, tree.Above index place.index → place.node.kind ∈ kinds →
        grammar.Defines source tree place.node.span ∨
          ∃ statement ∈ tree.places, imports statement ∧
            statement.node.start ≤ place.node.start ∧ place.node.stop ≤ statement.node.stop := by
  have read (node : Node) : grammar.InImport tree node ↔ ∃ statement ∈ tree.places,
      imports statement ∧ statement.node.start ≤ node.start ∧ node.stop ≤ statement.node.stop :=
    inImport_iff names forms
  simp only [mem_uses, ← read]
  constructor
  · intro unused place inside above name
    by_contra free
    exact unused place ⟨inside, name, not_or.1 free⟩ above
  · rintro excluded place ⟨inside, name, undefined, outside⟩ above
    exact (excluded place inside above name).elim undefined outside

/-- A nested tree has findings, and each reference in them comes from a use. Below a statement that
imports in a form that is read there is no use. In general there is none below a node just if every
name below it either defines or stands within the bytes of a statement of such a form. -/
theorem references_below_imports (names : NameKinds grammar kinds)
    (forms : ImportForms grammar statements imports) (nested : tree.Nested) (path : String)
    (source : Bytes) :
    ∃ found spans, grammar.findings path source (some tree) = .ok found ∧
      found.Account source spans (grammar.uses kinds source tree) ∧
      ∀ statement ∈ tree.places,
        (imports statement → statement.node.kind ∈ statements ∧
          ∀ place ∈ grammar.uses kinds source tree, ¬ tree.Above statement.index place.index) ∧
        ((∀ place ∈ grammar.uses kinds source tree, ¬ tree.Above statement.index place.index) ↔
          ∀ place ∈ tree.places, tree.Above statement.index place.index →
            place.node.kind ∈ kinds → grammar.Defines source tree place.node.span ∨
              ∃ other ∈ tree.places, imports other ∧
                other.node.start ≤ place.node.start ∧ place.node.stop ≤ other.node.stop) := by
  obtain ⟨found, done⟩ :=
    Survey.exists_findings names.locates (names.ranged source nested.1) path
  refine ⟨found, _, done, account_of_findings names done, ?_⟩
  intro statement inside
  refine ⟨?_, forall_not_above_iff names forms⟩
  intro read
  exact ⟨forms.kind_mem read, fun place => not_above_of_mem_uses names forms nested inside read⟩

def mixedSource : Bytes :=
  "import d, { k as g } from \"./m\"\nd(g)\n".toList.map fun c => c.toNat.toUInt8

def mixedTree : Tree := ⟨[
  ⟨0, "program", none, 0, 37⟩,
  ⟨1, "import_statement", none, 0, 31⟩,
  ⟨2, "import_clause", none, 7, 20⟩,
  ⟨3, "identifier", none, 7, 8⟩,
  ⟨3, "named_imports", none, 10, 20⟩,
  ⟨4, "import_specifier", none, 12, 18⟩,
  ⟨5, "identifier", some "name", 12, 13⟩,
  ⟨5, "identifier", some "alias", 17, 18⟩,
  ⟨2, "string", some "source", 26, 31⟩,
  ⟨3, "string_fragment", none, 27, 30⟩,
  ⟨1, "expression_statement", none, 32, 36⟩,
  ⟨2, "call_expression", none, 32, 36⟩,
  ⟨3, "identifier", some "function", 32, 33⟩,
  ⟨3, "arguments", some "arguments", 33, 36⟩,
  ⟨4, "identifier", none, 34, 35⟩]⟩

theorem references_below_imports_mixed :
    mixedTree.Nested ∧ ∃ found spans,
      typescript.findings "m.ts" mixedSource (some mixedTree) = .ok found ∧
      found.Account mixedSource spans (typescript.uses
        ["identifier", "type_identifier", "property_identifier"] mixedSource mixedTree) ∧
      (typescript.uses ["identifier", "type_identifier", "property_identifier"] mixedSource
        mixedTree).map Place.index = [12, 14] ∧
      ∀ place ∈ typescript.uses ["identifier", "type_identifier", "property_identifier"]
        mixedSource mixedTree, ¬ mixedTree.Above 1 place.index := by
  have nested : mixedTree.Nested := by decide
  obtain ⟨found, spans, done, account, below⟩ :=
    references_below_imports .typescript .typescript nested "m.ts" mixedSource
  refine ⟨nested, found, spans, done, account, rfl, ?_⟩
  -- The clause has a default export as its first part.
  let statement : Place := ⟨1, ⟨1, "import_statement", none, 0, 31⟩, mixedTree.nodes.drop 2⟩
  let clause : Place := ⟨2, ⟨2, "import_clause", none, 7, 20⟩, mixedTree.nodes.drop 3⟩
  let part : Place := ⟨3, ⟨3, "identifier", none, 7, 8⟩, mixedTree.nodes.drop 4⟩
  let origin : Place := ⟨8, ⟨2, "string", some "source", 26, 31⟩, mixedTree.nodes.drop 9⟩
  have read : TypeScript.Imports statement :=
    ⟨rfl, clause, origin, by with_unfolding_all rfl, ⟨rfl, part, by decide, .inl rfl⟩, rfl, rfl⟩
  exact ((below statement (by decide)).1 read).2

def wildcardSource : Bytes := "from m import *\nm\n".toList.map fun c => c.toNat.toUInt8

def wildcardTree : Tree := ⟨[
  ⟨0, "module", none, 0, 18⟩,
  ⟨1, "import_from_statement", none, 0, 15⟩,
  ⟨2, "dotted_name", some "module_name", 5, 6⟩,
  ⟨3, "identifier", none, 5, 6⟩,
  ⟨2, "wildcard_import", none, 14, 15⟩,
  ⟨1, "expression_statement", none, 16, 17⟩,
  ⟨2, "identifier", none, 16, 17⟩]⟩

def wildcard : Findings := Findings.ofList "py" "a.py"
  [.reference "m" ⟨⟨1, 6⟩, ⟨1, 7⟩, by decide⟩ none,
    .reference "m" ⟨⟨2, 1⟩, ⟨2, 2⟩, by decide⟩ none]

/-- The name of the module refers, although it stands below the import. -/
theorem references_below_wildcard :
    wildcardTree.Nested ∧
      wildcardTree.nodes[1]? = some ⟨1, "import_from_statement", none, 0, 15⟩ ∧
      wildcardTree.nodes[3]? = some ⟨3, "identifier", none, 5, 6⟩ ∧ wildcardTree.Above 1 3 ∧
      Source.range wildcardSource (5, 6) = .ok ⟨⟨1, 6⟩, ⟨1, 7⟩, by decide⟩ ∧
      python.findings "a.py" wildcardSource (some wildcardTree) = .ok wildcard ∧
      ⟨"m", .reference, ⟨⟨1, 6⟩, ⟨1, 7⟩, by decide⟩, none⟩ ∈ wildcard.occurrences := by
  let statement : Place :=
    ⟨1, ⟨1, "import_from_statement", none, 0, 15⟩, wildcardTree.nodes.drop 2⟩
  let origin : Place :=
    ⟨2, ⟨2, "dotted_name", some "module_name", 5, 6⟩, wildcardTree.nodes.drop 3⟩
  let name : Place := ⟨3, ⟨3, "identifier", none, 5, 6⟩, wildcardTree.nodes.drop 4⟩
  have upper : wildcardTree.IsParent 1 2 :=
    ((Tree.mem_children (by decide)).1 (by decide : origin ∈ statement.children)).2
  have lower : wildcardTree.IsParent 2 3 :=
    ((Tree.mem_children (by decide)).1 (by decide : name ∈ origin.children)).2
  exact ⟨by decide, rfl, rfl, .step (.parent upper) lower, rfl,
    findings_of_evaluated rfl, by decide⟩

end CodeNav.Grammar
