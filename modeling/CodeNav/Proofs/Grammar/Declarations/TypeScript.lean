import CodeNav.Proofs.Evaluation
import CodeNav.Proofs.Grammar.Reading

/-! The definitions of TypeScript. Seven kinds of declaration bear a name, and a class declares the
methods in its body. The patterns read methods off plain classes only, so that those of an abstract
class are missing, although the class itself is defined. -/
namespace CodeNav.Grammar

open Syntax Pattern
open CodeNav.Text.Utf8 (Bytes)

namespace TypeScript

def forms : List (String × String × String) := [
  ("function_declaration", "identifier", "func"),
  ("class_declaration", "type_identifier", "class"),
  ("abstract_class_declaration", "type_identifier", "class"),
  ("interface_declaration", "type_identifier", "interface"),
  ("enum_declaration", "identifier", "enum"),
  ("type_alias_declaration", "type_identifier", "type"),
  ("variable_declarator", "identifier", "var")]

def InClass (tree : Tree) (kind : String) : Place → Place → Prop :=
  tree.Encloses kind "type_identifier" "class_body"

def NamesMethod (tree : Tree) : Place → Place → Prop :=
  tree.Holds "method_definition" "name" "property_identifier"

inductive Declares (classes : List String) (tree : Tree) : Declaration → Prop where
  | named {form : String × String × String} {definition name : Place} : form ∈ forms →
      tree.Holds form.1 "name" form.2.1 definition name →
      Declares classes tree ⟨name, form.2.2, none⟩
  | method {kind : String} {owner definition name : Place} : kind ∈ classes →
      InClass tree kind owner definition → NamesMethod tree definition name →
      Declares classes tree ⟨name, "func", some owner⟩

variable {classes : List String} {tree : Tree} {entries : List (String × Node)}

def labelled : List (String × String × String) := [
  ("function_declaration", "identifier", "fn"),
  ("class_declaration", "type_identifier", "cls"),
  ("abstract_class_declaration", "type_identifier", "cls"),
  ("interface_declaration", "type_identifier", "iface"),
  ("enum_declaration", "identifier", "enum"),
  ("type_alias_declaration", "type_identifier", "type"),
  ("variable_declarator", "identifier", "var")]

theorem forms_eq : forms =
    labelled.map fun form => (form.1, form.2.1, Survey.kindOf form.2.2) := by
  rfl

theorem mem_forms {form : String × String × String} (listed : form ∈ labelled) :
    (form.1, form.2.1, Survey.kindOf form.2.2) ∈ forms := by
  rw [forms_eq]
  exact List.mem_map_of_mem listed

theorem plain_of_mem_labelled : ∀ form ∈ labelled, '.' ∉ form.2.2.toList := by
  decide

theorem rules_eq : typescript.definitions.rules.flatten =
    labelled.map (fun form => declaration form.1 form.2.1 form.2.2) ++ [method] :=
  rfl

theorem exists_yields_method :
    (∃ definition ∈ tree.places, method.Yields definition entries) ↔
      ∃ owner definition name, InClass tree "class_declaration" owner definition ∧
        NamesMethod tree definition name ∧
          entries = [("method.container", owner.node), ("method.def", definition.node),
            ("method.name", name.node)] := by
  rw [method, Tree.exists_yields_around rfl]
  constructor
  · rintro ⟨owner, definition, _, encloses, yields, rfl⟩
    obtain ⟨name, holds, rfl⟩ := (Tree.yields_holding encloses.inside).1 yields
    exact ⟨owner, definition, name, encloses, holds, rfl⟩
  · rintro ⟨owner, definition, name, encloses, holds, rfl⟩
    exact ⟨owner, definition, _, encloses,
      (Tree.yields_holding encloses.inside).2 ⟨name, holds, rfl⟩, rfl⟩

theorem exists_declares (yields : typescript.definitions.Yields tree entries) :
    ∃ declaration, Declares ["class_declaration"] tree declaration ∧
      declaration.ShownBy entries := by
  obtain ⟨pattern, known, place, inside, here⟩ := Query.yields_iff.1 yields
  rw [rules_eq, List.mem_append, List.mem_map, List.mem_singleton] at known
  obtain ⟨form, listed, rfl⟩ | rfl := known
  · obtain ⟨name, holds, shown⟩ :=
      exists_shown_of_yields _ (plain_of_mem_labelled form listed) inside here
    exact ⟨_, .named (mem_forms listed) holds, shown⟩
  · obtain ⟨owner, definition, name, encloses, holds, rfl⟩ :=
      exists_yields_method.1 ⟨place, inside, here⟩
    exact ⟨_, .method (List.mem_singleton_self _) encloses holds,
      Declaration.shownBy_method _ _ _⟩

theorem exists_yields_of_declares {declaration : Declaration}
    (declared : Declares ["class_declaration"] tree declaration) :
    ∃ entries, typescript.definitions.Yields tree entries ∧ declaration.ShownBy entries := by
  cases declared with
  | named listed holds =>
    rw [forms_eq] at listed
    obtain ⟨form, label, rfl⟩ := List.mem_map.1 listed
    have known : TypeScript.declaration form.1 form.2.1 form.2.2 ∈
        typescript.definitions.rules.flatten := by
      rw [rules_eq]
      exact List.mem_append_left _ (List.mem_map_of_mem label)
    exact exists_yields_of_holds _ (plain_of_mem_labelled form label) known holds
  | method kind encloses holds =>
    obtain rfl := List.mem_singleton.1 kind
    obtain ⟨place, inside, yields⟩ := exists_yields_method.2 ⟨_, _, _, encloses, holds, rfl⟩
    have known : method ∈ typescript.definitions.rules.flatten := by
      rw [rules_eq]
      exact List.mem_append_right _ (List.mem_singleton_self _)
    exact ⟨_, Query.yields_iff.2 ⟨_, known, place, inside, yields⟩,
      Declaration.shownBy_method _ _ _⟩

theorem reads (tree : Tree) : typescript.Reads tree (Declares ["class_declaration"] tree) :=
  ⟨fun _ => exists_declares, fun _ => exists_yields_of_declares⟩

def kindBelow (kind : String) : String :=
  ((forms.find? fun form => form.1 = kind).map fun form => form.2.2).getD "func"

theorem Declares.parent {declaration : Declaration} (declared : Declares classes tree declaration) :
    ∃ parent, tree.Child parent declaration.name ∧
      declaration.kind = kindBelow parent.node.kind ∧
        ∀ owner ∈ declaration.owner, ∃ kind ∈ classes, InClass tree kind owner parent := by
  have told : ∀ form ∈ forms, form.2.2 = kindBelow form.1 := by decide
  cases declared with
  | named listed holds => exact ⟨_, holds.isChild, by rw [holds.kind, told _ listed], nofun⟩
  | method kind encloses holds =>
    refine ⟨_, holds.isChild, by rw [holds.kind]; rfl, ?_⟩
    rintro _ ⟨⟩
    exact ⟨_, kind, encloses⟩

theorem Declares.inside {declaration : Declaration} (declared : Declares classes tree declaration) :
    declaration.name ∈ tree.places ∧ declaration.name.node.kind ∈
      ["identifier", "type_identifier", "property_identifier"] := by
  have told : ∀ form ∈ forms,
      form.2.1 ∈ ["identifier", "type_identifier", "property_identifier"] := by decide
  cases declared with
  | named listed holds => exact ⟨holds.isChild.below, holds.childKind ▸ told _ listed⟩
  | method _ _ holds => exact ⟨holds.isChild.below, by rw [holds.childKind]; decide⟩

theorem unambiguous (one : ∀ kind ∈ classes, tree.OneName kind) :
    Declaration.Unambiguous (Declares classes tree) := by
  apply Declaration.unambiguous_of_parent kindBelow fun _ => Declares.parent
  rintro owner other inner ⟨kind, listed, encloses⟩ ⟨_, _, also_encloses⟩
  exact encloses.unique (one kind listed) also_encloses

theorem Declares.mono {others : List String} (subset : classes ⊆ others)
    {declaration : Declaration} (declared : Declares classes tree declaration) :
    Declares others tree declaration := by
  cases declared with
  | named listed holds => exact .named listed holds
  | method kind encloses holds => exact .method (subset kind) encloses holds

def classKinds : List String := ["class_declaration", "abstract_class_declaration"]

def AbstractMethod (tree : Tree) (owner name : Place) : Prop :=
  ∃ definition, InClass tree "abstract_class_declaration" owner definition ∧
    NamesMethod tree definition name

theorem declares_iff {declaration : Declaration} : Declares classKinds tree declaration ↔
    Declares ["class_declaration"] tree declaration ∨ ∃ owner,
      AbstractMethod tree owner declaration.name ∧
        declaration = ⟨declaration.name, "func", some owner⟩ := by
  constructor
  · intro declared
    cases declared with
    | named listed holds => exact .inl (.named listed holds)
    | @method kind owner definition name listed encloses holds =>
      rcases List.mem_cons.1 listed with rfl | other
      · exact .inl (.method (List.mem_singleton_self _) encloses holds)
      · obtain rfl := List.mem_singleton.1 other
        exact .inr ⟨owner, ⟨definition, encloses, holds⟩, rfl⟩
  · rintro (declared | ⟨owner, ⟨definition, encloses, holds⟩, same⟩)
    · exact declared.mono (by decide)
    · rw [same]
      exact .method (by decide) encloses holds

theorem AbstractMethod.not_read {owner : Place} {declaration : Declaration}
    (abstract_method : AbstractMethod tree owner declaration.name) :
    ¬ Declares ["class_declaration"] tree declaration := by
  obtain ⟨definition, encloses, holds⟩ := abstract_method
  have unnamed : ∀ form ∈ forms, form.1 ≠ "method_definition" := by decide
  intro declared
  cases declared with
  | named listed named =>
    obtain rfl := holds.unique_parent named
    exact unnamed _ listed (named.kind.symm.trans holds.kind)
  | method listed also_encloses named =>
    obtain rfl := holds.unique_parent named
    obtain rfl := List.mem_singleton.1 listed
    exact absurd (encloses.unique_outer also_encloses).1 (by decide)

end TypeScript

open TypeScript in
/-- The definitions of TypeScript, where a class has one name and no two names that are declared
share their bytes. A tree in which no node ends before it starts has findings. They define a name
just where the tree declares one that is not empty, methods of plain classes among them and in the
container of their class. They define all that is declared just where no abstract class has a method
of its own that has a name. -/
theorem typescript_definitions {tree : Tree} (one : ∀ kind ∈ classKinds, tree.OneName kind)
    (apart : Declaration.Apart (Declares classKinds tree)) (path : String) (source : Bytes) :
    ((∀ node ∈ tree.nodes, node.start ≤ node.stop) →
      ∃ found, typescript.findings path source (some tree) = .ok found) ∧
    ∀ found, typescript.findings path source (some tree) = .ok found →
      ∃ declared, found.Defines source "ts" path declared ∧
        (∀ each, each ∈ declared.map Prod.fst ↔
          Declaration.Settles source (Declares ["class_declaration"] tree) each) ∧
        ((∀ each, each ∈ declared.map Prod.fst ↔
            Declaration.Settles source (Declares classKinds tree) each) ↔
          ∀ owner name, AbstractMethod tree owner name →
            Source.text source name.node.span = "") := by
  refine ⟨exists_findings_of_forward .typescript path source tree, ?_⟩
  intro found done
  have subset : ["class_declaration"] ⊆ classKinds := by decide
  have plain_apart := apart.mono fun _ => Declares.mono subset
  obtain ⟨declared, defines, settled, defined⟩ := (reads tree).exists_settled .typescript done
  have read := Declaration.mem_iff_settles plain_apart
    (unambiguous fun kind listed => one kind (subset listed)) settled defined
  refine ⟨declared, defines, read, ?_, ?_⟩
  · intro complete owner name abstract_method
    by_contra written
    have declares : Declares classKinds tree ⟨name, "func", some owner⟩ :=
      declares_iff.2 (.inr ⟨owner, abstract_method, rfl⟩)
    obtain ⟨each, settles, here⟩ := Declaration.exists_settles declares written
    obtain ⟨-, ⟨declaration, plain, there, -⟩, -⟩ := (read each).1 ((complete each).2 settles)
    obtain rfl : declaration.name = name :=
      apart declaration _ (plain.mono subset) declares (there.trans here)
    exact abstract_method.not_read plain
  · intro unnamed each
    have same (declaration : Declaration)
        (written : Source.text source declaration.name.node.span ≠ "") :
        Declares ["class_declaration"] tree declaration ↔
          Declares classKinds tree declaration := by
      rw [declares_iff, or_iff_left]
      rintro ⟨owner, abstract_method, -⟩
      exact written (unnamed owner declaration.name abstract_method)
    rw [read]
    constructor
    · intro settles
      exact settles.of_written same
    · intro settles
      exact settles.of_written fun declaration written => (same declaration written).symm

def twoClassesSource : Bytes :=
  "class A \x7b\n  m() \x7b\x7d\n\x7d\nabstract class B \x7b\n  n() \x7b\x7d\n\x7d\n".toList.map
    fun c => c.toNat.toUInt8

def twoClassesTree : Tree := ⟨[
  ⟨0, "program", none, 0, 51⟩,
  ⟨1, "class_declaration", none, 0, 20⟩,
  ⟨2, "type_identifier", some "name", 6, 7⟩,
  ⟨2, "class_body", some "body", 8, 20⟩,
  ⟨3, "method_definition", none, 12, 18⟩,
  ⟨4, "property_identifier", some "name", 12, 13⟩,
  ⟨4, "formal_parameters", some "parameters", 13, 15⟩,
  ⟨4, "statement_block", some "body", 16, 18⟩,
  ⟨1, "abstract_class_declaration", none, 21, 50⟩,
  ⟨2, "type_identifier", some "name", 36, 37⟩,
  ⟨2, "class_body", some "body", 38, 50⟩,
  ⟨3, "method_definition", none, 42, 48⟩,
  ⟨4, "property_identifier", some "name", 42, 43⟩,
  ⟨4, "formal_parameters", some "parameters", 43, 45⟩,
  ⟨4, "statement_block", some "body", 46, 48⟩]⟩

theorem identities_twoClasses {found : Findings}
    (done : typescript.findings "a.ts" twoClassesSource (some twoClassesTree) = .ok found) :
    found.marks.filterMap Occurrence.identity =
      ["ts::a.ts::A", "ts::a.ts::A.m", "ts::a.ts::B"] :=
  view_of_evaluated (fun found => found.marks.filterMap Occurrence.identity) (by decide +kernel)
    done

theorem oneName_twoClasses : ∀ kind ∈ TypeScript.classKinds, twoClassesTree.OneName kind := by
  decide

theorem apart_twoClasses :
    Declaration.Apart (TypeScript.Declares TypeScript.classKinds twoClassesTree) :=
  Declaration.apart_of_distinct (fun _ => TypeScript.Declares.inside) (by decide +kernel)

theorem typescript_definitions_twoClasses :
    ∃ found declared,
      typescript.findings "a.ts" twoClassesSource (some twoClassesTree) = .ok found ∧
      found.Defines twoClassesSource "ts" "a.ts" declared ∧
      (∀ each, each ∈ declared.map Prod.fst ↔ Declaration.Settles twoClassesSource
        (TypeScript.Declares ["class_declaration"] twoClassesTree) each) ∧
      declared.map (fun noted => noted.1.identity twoClassesSource "ts" "a.ts") =
        ["ts::a.ts::A", "ts::a.ts::A.m", "ts::a.ts::B"] := by
  obtain ⟨succeeds, defined⟩ :=
    typescript_definitions oneName_twoClasses apart_twoClasses "a.ts" twoClassesSource
  obtain ⟨found, done⟩ := succeeds (by decide)
  obtain ⟨declared, defines, exactly, -⟩ := defined found done
  refine ⟨found, declared, done, defines, exactly, ?_⟩
  rw [defines.identities, identities_twoClasses done]

theorem abstractMethod_twoClasses : ∃ owner name,
    TypeScript.AbstractMethod twoClassesTree owner name ∧
      owner.node.span = (36, 37) ∧ name.node.span = (42, 43) := by
  let place (index : Nat) (node : Node) : Place :=
    ⟨index, node, twoClassesTree.nodes.drop (index + 1)⟩
  let outer := place 8 ⟨1, "abstract_class_declaration", none, 21, 50⟩
  let owner := place 9 ⟨2, "type_identifier", some "name", 36, 37⟩
  let body := place 10 ⟨2, "class_body", some "body", 38, 50⟩
  let definition := place 11 ⟨3, "method_definition", none, 42, 48⟩
  let name := place 12 ⟨4, "property_identifier", some "name", 42, 43⟩
  have named : twoClassesTree.Holds "abstract_class_declaration" "name" "type_identifier" outer
      owner := ⟨by decide +kernel, rfl, rfl, rfl⟩
  have holds : twoClassesTree.Holds "abstract_class_declaration" "body" "class_body" outer body :=
    ⟨by decide, rfl, rfl, rfl⟩
  have inside : twoClassesTree.Child body definition := by decide +kernel
  have method : TypeScript.NamesMethod twoClassesTree definition name :=
    ⟨by decide, rfl, rfl, rfl⟩
  exact ⟨owner, name, ⟨definition, ⟨outer, body, named, holds, by decide, inside⟩, method⟩, rfl,
    rfl⟩

/-- The tree declares the method of the abstract class, and yet nothing defines it. -/
theorem typescript_definitions_abstract :
    (∀ kind ∈ TypeScript.classKinds, twoClassesTree.OneName kind) ∧
    Declaration.Apart (TypeScript.Declares TypeScript.classKinds twoClassesTree) ∧
    Declaration.Settles twoClassesSource
      (TypeScript.Declares TypeScript.classKinds twoClassesTree) ⟨(42, 43), "func", some "B"⟩ ∧
    ∃ found, typescript.findings "a.ts" twoClassesSource (some twoClassesTree) = .ok found ∧
      ∀ mark ∈ found.marks, mark.identity ≠ some "ts::a.ts::B.n" := by
  obtain ⟨owner, name, abstract_method, around, here⟩ := abstractMethod_twoClasses
  have declares : TypeScript.Declares TypeScript.classKinds twoClassesTree
      ⟨name, "func", some owner⟩ :=
    TypeScript.declares_iff.2 (.inr ⟨owner, abstract_method, rfl⟩)
  obtain ⟨found, done⟩ := exists_findings_of_forward .typescript "a.ts" twoClassesSource
    twoClassesTree (by decide)
  refine ⟨oneName_twoClasses, apart_twoClasses,
    ⟨by decide, ⟨_, declares, here, rfl, ?_⟩, nofun⟩, found, done, ?_⟩
  · rw [Declaration.container, Option.map_some, around]
    rfl
  · have none_named : "ts::a.ts::B.n" ∉ found.marks.filterMap Occurrence.identity := by
      rw [identities_twoClasses done]
      decide
    intro mark member same
    exact none_named (List.mem_filterMap.2 ⟨mark, member, same⟩)

end CodeNav.Grammar
