import CodeNav.Proofs.Grammar.Declaration
import CodeNav.Proofs.Syntax.Holding

/-! How declarations are read. The matches of a query name just what the tree declares, and what is
noted of them at a span is what the declarations there settle. -/
namespace CodeNav

open Syntax
open CodeNav.Text.Utf8 (Bytes)

theorem Identity.of_filter (lang file name : String) (container : Option String) :
    Identity.of lang file name (container.filter (· ≠ "")) =
      Identity.of lang file name container := by
  cases container with
  | none => rfl
  | some title =>
    by_cases empty : title = ""
    · subst empty
      rfl
    · rw [Option.filter_some, if_pos (decide_eq_true empty)]

namespace Survey

def Named.declared (named : Named) : Declared :=
  ⟨named.capture.span, named.kind, named.container.filter (· ≠ "")⟩

theorem Named.declared_container_eq_none {named : Named} :
    named.declared.container = none ↔ named.qualified = false := by
  rw [declared, qualified, Option.filter_eq_none_iff, Option.any_eq_false]
  simp

theorem Named.identity_declared {source : Bytes} {named : Named}
    (name : named.name = Source.text source named.capture.span) (lang path : String) :
    named.declared.identity source lang path =
      Identity.of lang (Path.normalize path) named.name named.container := by
  rw [name, Identity.of, Path.normalize_normalize, ← Identity.of, ← Identity.of_filter]
  rfl

theorem mark_declared {source : Bytes} {noted : Named × Range}
    (name : noted.1.name = Source.text source noted.1.capture.span) (grammar : Grammar)
    (path : String) : Declared.mark source grammar.tag path (noted.1.declared, noted.2) =
      Transcript.mark grammar path noted := by
  have same := Named.identity_declared name grammar.tag path
  rw [Declared.mark, same, Transcript.mark, name]
  rfl

theorem stored_declared {source : Bytes} {noted : Named × Range}
    (name : noted.1.name = Source.text source noted.1.capture.span) (lang path : String) :
    Declared.stored source lang path (noted.1.declared, noted.2) =
      Transcript.stored lang (Path.normalize path) noted := by
  have same := Named.identity_declared name lang path
  rw [Declared.stored, same, Transcript.stored, name]
  rfl

theorem containerOf_captured (source : Bytes) {found : Match}
    (distinct : (found.captures.map Prod.fst).Nodup) :
    containerOf (found.captured source).values =
      ((found.captures.filter fun entry => Declaration.NamesContainer entry.1).map
        Prod.snd).getLast?.map fun node => Source.text source node.span := by
  have same : ((fun capture : Capture => decide ((labelParts capture.name).2 = "container")) ∘
      fun entry : String × Node => Capture.ofNode source entry.1 entry.2) =
        fun entry => decide (Declaration.NamesContainer entry.1) := rfl
  rw [containerOf, Match.values_captured source distinct, List.filter_map, same,
    List.getLast?_map, List.getLast?_map, Option.map_map, Option.map_map]
  rfl

end Survey

structure Declaration.Gives (source : Bytes) (declaration : Declaration) (named : Survey.Named) :
    Prop where
  span : named.capture.span = declaration.name.node.span
  kind : named.kind = declaration.kind
  container : named.declared.container = declaration.container source

namespace Grammar

/-- The patterns for definitions read off the declarations of a tree: what a match captures shows a
declaration, and each one is shown. -/
structure Reads (grammar : Grammar) (tree : Tree) (declares : Declaration → Prop) : Prop where
  sound : ∀ entries, grammar.definitions.Yields tree entries →
    ∃ declaration, declares declaration ∧ declaration.ShownBy entries
  complete : ∀ declaration, declares declaration →
    ∃ entries, grammar.definitions.Yields tree entries ∧ declaration.ShownBy entries

variable {grammar : Grammar} {kinds : List String} {source : Bytes} {tree : Tree}
  {declares : Declaration → Prop} {declaration : Declaration} {found : Match}

theorem nameOf_shown (names : NameKinds grammar kinds) (source : Bytes)
    (finds : grammar.definitions.Finds tree found) (shown : declaration.ShownBy found.captures) :
    ∃ label, Survey.kindOf (Survey.labelParts label).1 = declaration.kind ∧
      Survey.nameOf (found.captured source).values =
        some (Capture.ofNode source label declaration.name.node) := by
  obtain ⟨label, alone, kind⟩ := shown.name
  have member : (label, declaration.name.node) ∈
      found.captures.filter fun entry => Survey.NamesDefinition entry.1 :=
    alone ▸ List.mem_singleton_self _
  obtain ⟨inside, defines⟩ := List.mem_filter.1 member
  exact ⟨label, kind, (nameOf_captured names source finds).2
    ⟨label, _, inside, of_decide_eq_true defines, rfl⟩⟩

theorem containerOf_shown (names : NameKinds grammar kinds) (source : Bytes)
    (finds : grammar.definitions.Finds tree found) (shown : declaration.ShownBy found.captures) :
    Survey.containerOf (found.captured source).values =
      declaration.owner.map fun owner => Source.text source owner.node.span := by
  rw [Survey.containerOf_captured source (finds.nodup names.definitions_distinct), shown.owner]
  cases declaration.owner <;> rfl

theorem gives_of_named? (names : NameKinds grammar kinds)
    (finds : grammar.definitions.Finds tree found) (shown : declaration.ShownBy found.captures)
    {named : Survey.Named} (known : Survey.named? (found.captured source) = some named) :
    declaration.Gives source named := by
  obtain ⟨label, kind, chosen⟩ := nameOf_shown names source finds shown
  obtain ⟨taken, -, -, told, contained⟩ := Survey.named?_eq_some.1 known
  rw [chosen, Option.some.injEq] at taken
  rw [← taken] at told
  rw [containerOf_shown names source finds shown] at contained
  refine ⟨?_, told.trans kind, ?_⟩
  · rw [← taken]
    rfl
  · rw [Survey.Named.declared, contained]
    rfl

theorem exists_named?_of_shownBy (names : NameKinds grammar kinds)
    (finds : grammar.definitions.Finds tree found) (shown : declaration.ShownBy found.captures)
    (written : Source.text source declaration.name.node.span ≠ "") :
    ∃ named, Survey.named? (found.captured source) = some named := by
  obtain ⟨label, -, chosen⟩ := nameOf_shown names source finds shown
  obtain ⟨named, known, -⟩ := Survey.exists_named_iff.2 ⟨_, chosen, written, rfl⟩
  exact ⟨named, known⟩

section Held

open Pattern

variable {kind nameKind : String} {place name : Place} {entries : List (String × Node)}

theorem exists_shown_of_yields (label : String) (plain : '.' ∉ label.toList)
    (inside : place ∈ tree.places) (yields : ((ofKind kind [(ofKind nameKind []).inField "name"
      |>.captured (label ++ ".name")]).captured (label ++ ".def")).Yields place entries) :
    ∃ name, tree.Holds kind "name" nameKind place name ∧
      Declaration.ShownBy ⟨name, Survey.kindOf label, none⟩ entries := by
  obtain ⟨name, holds, rfl⟩ := (Tree.yields_holding inside).1 yields
  exact ⟨name, holds, Declaration.shownBy_plain label plain _ _⟩

theorem exists_yields_of_holds (label : String) (plain : '.' ∉ label.toList)
    (known : (ofKind kind [(ofKind nameKind []).inField "name" |>.captured (label ++ ".name")]
      |>.captured (label ++ ".def")) ∈ grammar.definitions.rules.flatten)
    (holds : tree.Holds kind "name" nameKind place name) :
    ∃ entries, grammar.definitions.Yields tree entries ∧
      Declaration.ShownBy ⟨name, Survey.kindOf label, none⟩ entries := by
  have inside := holds.isChild.above
  exact ⟨_, Query.yields_iff.2 ⟨_, known, place, inside,
    (Tree.yields_holding inside).2 ⟨name, holds, rfl⟩⟩, Declaration.shownBy_plain label plain _ _⟩

end Held

namespace Reads

variable (names : NameKinds grammar kinds) (reads : grammar.Reads tree declares)
include names reads

theorem exists_declaration {named : Survey.Named}
    (member : named ∈ (grammar.definitions.captures source tree).filterMap Survey.named?) :
    ∃ declaration, declares declaration ∧ declaration.Gives source named := by
  obtain ⟨captures, matched, known⟩ := List.mem_filterMap.1 member
  obtain ⟨found, inside, rfl⟩ := List.mem_map.1 matched
  have finds := Query.mem_run.1 inside
  obtain ⟨declaration, declared, shown⟩ := reads.sound found.captures ⟨found, finds, rfl⟩
  exact ⟨declaration, declared, gives_of_named? names finds shown known⟩

theorem exists_named (declared : declares declaration)
    (written : Source.text source declaration.name.node.span ≠ "") :
    ∃ named ∈ (grammar.definitions.captures source tree).filterMap Survey.named?,
      declaration.Gives source named := by
  obtain ⟨_, ⟨found, finds, rfl⟩, shown⟩ := reads.complete declaration declared
  obtain ⟨named, known⟩ := exists_named?_of_shownBy names finds shown written
  exact ⟨named, List.mem_filterMap.2
    ⟨_, List.mem_map_of_mem (Query.mem_run.2 finds), known⟩,
    gives_of_named? names finds shown known⟩

theorem settles {named : Survey.Named} (member : named ∈
    Survey.placed (Survey.namesOf (grammar.definitions.captures source tree))) :
    Declaration.Settles source declares named.declared := by
  obtain ⟨span, stored⟩ := Survey.mem_placed.1 member
  obtain ⟨rfl, captures, matched, known⟩ := Survey.get?_namesOf stored
  have text := (Survey.named?_of (Query.captures_of matched) known).text_eq
  obtain ⟨declaration, declared, gives⟩ :=
    reads.exists_declaration names (List.mem_filterMap.2 ⟨captures, matched, known⟩)
  rw [Survey.get?_namesOf_eq] at stored
  have written : Source.text source named.capture.span ≠ "" :=
    text ▸ (Survey.named?_eq_some.1 known).2.1
  refine ⟨written, ⟨declaration, declared, gives.span.symm, gives.kind.symm,
    gives.container.symm⟩, ?_⟩
  intro uncontained other also_declared same
  have same : other.name.node.span = named.capture.span := same
  -- A match of a declaration in a container would have displaced this one.
  obtain ⟨another, listed, also_gives⟩ :=
    reads.exists_named names also_declared (same ▸ written)
  have unqualified := Survey.unqualified_of_latestAt stored
    (Survey.Named.declared_container_eq_none.1 uncontained) listed (also_gives.span.trans same)
  rw [← also_gives.container]
  exact Survey.Named.declared_container_eq_none.2 unqualified

theorem exists_placed (declared : declares declaration)
    (written : Source.text source declaration.name.node.span ≠ "") :
    ∃ named ∈ Survey.placed (Survey.namesOf (grammar.definitions.captures source tree)),
      named.declared.span = declaration.name.node.span := by
  obtain ⟨named, member, gives⟩ := reads.exists_named names declared written
  obtain ⟨captures, matched, known⟩ := List.mem_filterMap.1 member
  have noted : declaration.name.node.span ∈
      Survey.spansOf (grammar.definitions.captures source tree) :=
    Survey.mem_spansOf.2 (Survey.mem_keys_namesOf.2 ⟨captures, matched, named, known, gives.span⟩)
  exact List.mem_map.1 noted

end Reads

theorem exists_defines {path : String} {found : Findings}
    (done : grammar.findings path source (some tree) = .ok found) :
    ∃ declared, found.Defines source grammar.tag path declared ∧ declared.map Prod.fst =
      (Survey.placed (Survey.namesOf (grammar.definitions.captures source tree))).map
        Survey.Named.declared := by
  obtain ⟨transcript, transcript_of, rfl⟩ := Survey.exists_transcript done
  have of := Survey.ofTree_of grammar source tree
  have definitions : transcript.definitions.map Prod.fst = Survey.placed
      (Survey.namesOf (grammar.definitions.captures source tree)) := transcript_of.definitions
  have name_of (noted : Survey.Named × Range) (member : noted ∈ transcript.definitions) :
      noted.1.capture.Of source ∧ noted.1.name = Source.text source noted.1.capture.span := by
    obtain ⟨captures, matched, known⟩ := Survey.Transcript.exists_named transcript_of member
    have capture_of := Survey.named?_of (of.definitions captures matched) known
    exact ⟨capture_of, (Survey.named?_eq_some.1 known).2.2.1.trans capture_of.text_eq⟩
  refine ⟨transcript.definitions.map fun noted => (noted.1.declared, noted.2), ⟨?_, ?_, ?_, ?_⟩, ?_⟩
  · have ordered := Survey.pairwise_spansOf (grammar.definitions.captures source tree)
    rw [Survey.spansOf, ← definitions, List.map_map, List.pairwise_map] at ordered
    rw [List.pairwise_map]
    exact ordered
  · rw [List.forall_mem_map]
    intro noted member
    exact (name_of noted member).1.range_eq.symm.trans
      (transcript_of.definition_range noted member)
  · rw [Survey.Transcript.marks_findings, List.map_map]
    apply List.map_congr_left
    intro noted member
    exact (Survey.mark_declared (name_of noted member).2 grammar path).symm
  · rw [Survey.Transcript.definitions_findings, List.map_map]
    refine congrArg Table.ofList (List.map_congr_left ?_)
    intro noted member
    exact (Survey.stored_declared (name_of noted member).2 grammar.tag path).symm
  · rw [List.map_map, ← definitions, List.map_map]
    rfl

/-- The findings of a tree whose declarations are read define a name at each span at which one is
declared, as the declarations there settle it, and nowhere else. -/
theorem Reads.exists_settled (names : NameKinds grammar kinds)
    (reads : grammar.Reads tree declares) {path : String} {found : Findings}
    (done : grammar.findings path source (some tree) = .ok found) :
    ∃ declared, found.Defines source grammar.tag path declared ∧
      (∀ each ∈ declared.map Prod.fst, Declaration.Settles source declares each) ∧
      ∀ declaration, declares declaration →
        Source.text source declaration.name.node.span ≠ "" →
          ∃ each ∈ declared.map Prod.fst, each.span = declaration.name.node.span := by
  obtain ⟨declared, defines, same⟩ := exists_defines done
  refine ⟨declared, defines, ?_, ?_⟩
  · rw [same, List.forall_mem_map]
    intro named member
    exact reads.settles names member
  · intro declaration declares written
    obtain ⟨named, member, here⟩ := reads.exists_placed names declares written
    rw [same]
    exact ⟨named.declared, List.mem_map_of_mem member, here⟩

theorem exists_findings_of_forward (names : NameKinds grammar kinds) (path : String)
    (source : Bytes) (tree : Tree) (forward : ∀ node ∈ tree.nodes, node.start ≤ node.stop) :
    ∃ found, grammar.findings path source (some tree) = .ok found :=
  Survey.exists_findings names.locates (names.ranged source forward) path

end Grammar

/-- Where names have spans of their own and their declarations agree, the definitions are just those
that are settled. -/
theorem Declaration.mem_iff_settles {source : Bytes} {declares : Declaration → Prop}
    {definitions : List Declared} (apart : Apart declares) (unambiguous : Unambiguous declares)
    (settled : ∀ each ∈ definitions, Settles source declares each)
    (defined : ∀ declaration, declares declaration →
      Source.text source declaration.name.node.span ≠ "" →
        ∃ each ∈ definitions, each.span = declaration.name.node.span) (each : Declared) :
    each ∈ definitions ↔ Settles source declares each := by
  constructor
  · intro member
    exact settled each member
  · intro settles
    obtain ⟨declaration, declared, here, -⟩ := settles.declaration
    obtain ⟨other, member, there⟩ := defined declaration declared (here ▸ settles.written)
    have same := settles.unique apart unambiguous (settled other member)
      (here.symm.trans there.symm)
    exact same ▸ member

end CodeNav
