import CodeNav.Grammar.Go
import CodeNav.Grammar.Python
import CodeNav.Grammar.TypeScript
import CodeNav.Proofs.Survey.Spans
import CodeNav.Proofs.Syntax.Captured

/-! The names in a tree: which bytes are the name of a definition, which nodes are within an import
statement, and which of the other names are uses. All three are said of the tree and of what the
patterns of a language are satisfied by, and not of how a survey goes through the matches. -/
namespace CodeNav

open CodeNav.Text.Utf8 (Bytes)

def Source.text (source : Bytes) (span : Nat × Nat) : String :=
  Text.Utf8.decodeLossy (Source.slice source span.1 span.2)

def Source.range (source : Bytes) (span : Nat × Nat) : Except RangeError Range :=
  Range.ofPoints (Source.pointAt source span.1) (Source.pointAt source span.2)

theorem Syntax.Capture.Of.text_eq {source : Bytes} {capture : Syntax.Capture}
    (of : capture.Of source) : capture.text = Source.text source capture.span := by
  obtain ⟨label, node, rfl⟩ := of
  rfl

theorem Syntax.Capture.Of.range_eq {source : Bytes} {capture : Syntax.Capture}
    (of : capture.Of source) : capture.range = Source.range source capture.span := by
  obtain ⟨label, node, rfl⟩ := of
  rfl

def Syntax.Node.span (node : Syntax.Node) : Nat × Nat := (node.start, node.stop)

def Survey.NamesDefinition (label : String) : Prop := (labelParts label).2 = "name"

instance (label : String) : Decidable (Survey.NamesDefinition label) :=
  inferInstanceAs (Decidable ((Survey.labelParts label).2 = "name"))

namespace Grammar

open Syntax

inductive NameKinds : Grammar → List String → Prop where
  | go : NameKinds go ["identifier", "type_identifier", "field_identifier"]
  | typescript : NameKinds typescript ["identifier", "type_identifier", "property_identifier"]
  | python : NameKinds python ["identifier"]

def Defines (grammar : Grammar) (source : Bytes) (tree : Tree) (span : Nat × Nat) : Prop :=
  ∃ label node, grammar.definitions.CapturesAs tree label node ∧ Survey.NamesDefinition label ∧
    node.span = span ∧ Source.text source span ≠ ""

def InImport (grammar : Grammar) (tree : Tree) (node : Node) : Prop :=
  ∃ statement, grammar.imports.CapturesAs tree "import.stmt" statement ∧
    statement.start ≤ node.start ∧ node.stop ≤ statement.stop

instance (grammar : Grammar) (source : Bytes) (tree : Tree) (span : Nat × Nat) :
    Decidable (grammar.Defines source tree span) :=
  decidable_of_iff' _ (Query.exists_capturesAs fun label node =>
    Survey.NamesDefinition label ∧ node.span = span ∧ Source.text source span ≠ "")

instance (grammar : Grammar) (tree : Tree) (node : Node) :
    Decidable (grammar.InImport tree node) :=
  decidable_of_iff (∃ ranked ∈ grammar.imports.allMatches tree, ∃ entry ∈ ranked.found.captures,
    entry.1 = "import.stmt" ∧ entry.2.start ≤ node.start ∧ node.stop ≤ entry.2.stop) <| by
    rw [← Query.exists_capturesAs fun label statement =>
      label = "import.stmt" ∧ statement.start ≤ node.start ∧ node.stop ≤ statement.stop]
    constructor
    · rintro ⟨_, statement, captured, rfl, within⟩
      exact ⟨statement, captured, within⟩
    · rintro ⟨statement, captured, within⟩
      exact ⟨_, statement, captured, rfl, within⟩

def uses (grammar : Grammar) (kinds : List String) (source : Bytes) (tree : Tree) : List Place :=
  tree.places.filter fun place => place.node.kind ∈ kinds ∧
    ¬ grammar.Defines source tree place.node.span ∧ ¬ grammar.InImport tree place.node

variable {grammar : Grammar} {kinds : List String} {source : Bytes} {tree : Tree}

theorem mem_uses {place : Place} : place ∈ grammar.uses kinds source tree ↔
    place ∈ tree.places ∧ place.node.kind ∈ kinds ∧
      ¬ grammar.Defines source tree place.node.span ∧ ¬ grammar.InImport tree place.node := by
  rw [uses, List.mem_filter, decide_eq_true_eq]

theorem nodup_uses : (grammar.uses kinds source tree).Nodup :=
  (Tree.nodup_places tree).filter _

namespace NameKinds

theorem references_eq (names : NameKinds grammar kinds) : grammar.references = namesOf kinds := by
  cases names <;> rfl

theorem nodup (names : NameKinds grammar kinds) : kinds.Nodup := by
  cases names <;> decide

theorem definitions_distinct (names : NameKinds grammar kinds) :
    grammar.definitions.Distinct := by
  cases names <;> decide

theorem imports_distinct (names : NameKinds grammar kinds) : grammar.imports.Distinct := by
  cases names <;> decide

theorem names_one (names : NameKinds grammar kinds) :
    ∀ pattern ∈ grammar.definitions.rules.flatten,
      (pattern.sites.filter fun site => Survey.NamesDefinition site.1).length = 1 ∧
        ∀ site ∈ pattern.sites, Survey.NamesDefinition site.1 →
          ∃ kind ∈ kinds, site.2.kind = some kind := by
  cases names <;> decide

end NameKinds

theorem kind_of_defines (names : NameKinds grammar kinds) {label : String} {node : Node}
    (captured : grammar.definitions.CapturesAs tree label node)
    (defines : Survey.NamesDefinition label) : node ∈ tree.nodes ∧ node.kind ∈ kinds := by
  refine ⟨captured.mem_nodes, ?_⟩
  obtain ⟨found, finds, member⟩ := captured
  obtain ⟨pattern, known, taken⟩ := finds.takes
  obtain ⟨site, inside, ⟨same, place, _, holds, rfl⟩⟩ := exists_of_forall₂_right taken member
  obtain ⟨kind, listed, asked⟩ := (names.names_one pattern known).2 site inside (same ▸ defines)
  rw [NodeTest.holds, asked, Option.all_some, Bool.and_eq_true, decide_eq_true_eq] at holds
  exact holds.1 ▸ listed

theorem exists_name (names : NameKinds grammar kinds) {found : Match}
    (finds : grammar.definitions.Finds tree found) : ∃ label node,
      found.captures.filter (fun entry => Survey.NamesDefinition entry.1) = [(label, node)] := by
  obtain ⟨pattern, known, taken⟩ := finds.takes
  have kept : List.Forall₂ (Takes (· ∈ tree.places))
      (pattern.sites.filter fun site => Survey.NamesDefinition site.1)
      (found.captures.filter fun entry => Survey.NamesDefinition entry.1) :=
    List.rel_filter (fun site entry takes => by simp [takes.label]) taken
  have one := (names.names_one pattern known).1
  rw [kept.length_eq, List.length_eq_one_iff] at one
  obtain ⟨⟨label, node⟩, alone⟩ := one
  exact ⟨label, node, alone⟩

theorem nameOf_captured (names : NameKinds grammar kinds) (source : Bytes) {found : Match}
    (finds : grammar.definitions.Finds tree found) {capture : Capture} :
    Survey.nameOf (found.captured source).values = some capture ↔
      ∃ label node, (label, node) ∈ found.captures ∧ Survey.NamesDefinition label ∧
        capture = Capture.ofNode source label node := by
  have distinct := finds.nodup names.definitions_distinct
  obtain ⟨label, node, alone⟩ := exists_name names finds
  have same : ((fun capture : Capture => decide ((Survey.labelParts capture.name).2 = "name")) ∘
      fun entry : String × Node => Capture.ofNode source entry.1 entry.2) =
        fun entry => decide (Survey.NamesDefinition entry.1) := rfl
  have chosen : Survey.nameOf (found.captured source).values =
      some (Capture.ofNode source label node) := by
    rw [Survey.nameOf, Match.values_captured source distinct, List.filter_map, same, alone]
    rfl
  have only (entry : String × Node) :
      entry ∈ found.captures ∧ Survey.NamesDefinition entry.1 ↔ entry = (label, node) := by
    rw [← List.mem_singleton, ← alone, List.mem_filter, decide_eq_true_eq]
  rw [chosen, Option.some.injEq]
  constructor
  · rintro rfl
    obtain ⟨here, defines⟩ := (only _).2 rfl
    exact ⟨label, node, here, defines, rfl⟩
  · rintro ⟨other_label, other, here, defines, rfl⟩
    obtain ⟨rfl, rfl⟩ := Prod.mk.inj ((only _).1 ⟨here, defines⟩)
    rfl

theorem mem_spansOf_iff (names : NameKinds grammar kinds) {span : Nat × Nat} :
    span ∈ Survey.spansOf (grammar.definitions.captures source tree) ↔
      grammar.Defines source tree span := by
  rw [Survey.mem_spansOf, Survey.mem_keys_namesOf]
  simp only [Survey.exists_named_iff]
  constructor
  · rintro ⟨captures, member, capture, chosen, written, rfl⟩
    obtain ⟨found, matched, rfl⟩ := List.mem_map.1 member
    have finds := Query.mem_run.1 matched
    obtain ⟨label, node, here, defines, rfl⟩ := (nameOf_captured names source finds).1 chosen
    exact ⟨label, node, ⟨found, finds, here⟩, defines, rfl, written⟩
  · rintro ⟨label, node, ⟨found, finds, here⟩, defines, rfl, written⟩
    exact ⟨found.captured source, List.mem_map_of_mem (Query.mem_run.2 finds),
      Capture.ofNode source label node,
      (nameOf_captured names source finds).2 ⟨label, node, here, defines, rfl⟩, written, rfl⟩

theorem mem_statementSpans (names : NameKinds grammar kinds) {span : Nat × Nat} :
    span ∈ Survey.statementSpans (grammar.imports.captures source tree) ↔
      ∃ statement, grammar.imports.CapturesAs tree "import.stmt" statement ∧
        statement.span = span := by
  have captured (capture : Capture) :
      (∃ captures ∈ grammar.imports.captures source tree,
        captures.get? "import.stmt" = some capture) ↔
      ∃ statement, grammar.imports.CapturesAs tree "import.stmt" statement ∧
        capture = Capture.ofNode source "import.stmt" statement :=
    Query.exists_captures_get? names.imports_distinct
  rw [Survey.statementSpans, List.mem_filterMap]
  simp only [Option.map_eq_some_iff]
  constructor
  · rintro ⟨captures, member, capture, stored, rfl⟩
    obtain ⟨statement, matched, rfl⟩ := (captured capture).1 ⟨captures, member, stored⟩
    exact ⟨statement, matched, rfl⟩
  · rintro ⟨statement, matched, rfl⟩
    obtain ⟨captures, member, stored⟩ := (captured _).2 ⟨statement, matched, rfl⟩
    exact ⟨captures, member, _, stored, rfl⟩

end Grammar
end CodeNav
