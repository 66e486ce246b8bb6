import CodeNav.Proofs.Evaluation
import CodeNav.Proofs.Grammar.Reading

/-! The definitions of Go. A method is declared under the type that its receiver names, which may be
generic and behind a pointer; of the names of a constant declaration only the first one counts. -/
namespace CodeNav.Grammar

open Syntax Pattern
open CodeNav.Text.Utf8 (Bytes)

namespace Go

inductive Named (tree : Tree) : Place → Place → Prop where
  | plain {name : Place} : name.node.kind = "type_identifier" → Named tree name name
  | generic {type name : Place} : tree.Holds "generic_type" "type" "type_identifier" type name →
      Named tree type name

inductive TypeName (tree : Tree) (type name : Place) : Prop where
  | direct : Named tree type name → TypeName tree type name
  | pointer {target : Place} : type.node.kind = "pointer_type" → tree.Child type target →
      Named tree target name → TypeName tree type name

def Receives (tree : Tree) (method list owner : Place) : Prop :=
  tree.Holds "method_declaration" "receiver" "parameter_list" method list ∧
    ∃ parameter type, tree.Child list parameter ∧ parameter.node.kind = "parameter_declaration" ∧
      tree.Child parameter type ∧ type.node.field = some "type" ∧ TypeName tree type owner

inductive Declares (tree : Tree) : Declaration → Prop where
  | function {definition name : Place} :
      tree.Holds "function_declaration" "name" "identifier" definition name →
      Declares tree ⟨name, "func", none⟩
  | method {definition list owner name : Place} : Receives tree definition list owner →
      tree.Holds "method_declaration" "name" "field_identifier" definition name →
      list.index < name.index → Declares tree ⟨name, "func", some owner⟩
  | typeName {definition name : Place} :
      tree.Holds "type_spec" "name" "type_identifier" definition name →
      Declares tree ⟨name, "type", none⟩
  | var {definition name : Place} : tree.Holds "var_spec" "name" "identifier" definition name →
      Declares tree ⟨name, "var", none⟩
  | const {definition name : Place} : tree.Holds "const_spec" "name" "identifier" definition name →
      tree.FirstIn "name" definition name → Declares tree ⟨name, "const", none⟩

variable {tree : Tree} {place : Place} {entries : List (String × Node)}

def plainType : Pattern := ofKind "type_identifier" [] |>.captured "method.container"

def genericType : Pattern := ofKind "generic_type" [plainType.inField "type"]

theorem yields_plainType : plainType.Yields place entries ↔
    place.node.kind = "type_identifier" ∧ entries = [("method.container", place.node)] := by
  rw [plainType, yields_captured rfl]
  simp only [yields_leaf]
  constructor
  · rintro ⟨_, ⟨kind, rfl⟩, rfl⟩
    exact ⟨kind, rfl⟩
  · rintro ⟨kind, rfl⟩
    exact ⟨[], ⟨kind, rfl⟩, rfl⟩

theorem yields_genericType (inside : place ∈ tree.places) : genericType.Yields place entries ↔
    ∃ name, tree.Holds "generic_type" "type" "type_identifier" place name ∧
      entries = [("method.container", name.node)] :=
  Tree.yields_naming inside

theorem exists_yields_receiver (inside : place ∈ tree.places) :
    (∃ receiver ∈ receiverTypes, receiver.Yields place entries) ↔
      ∃ owner, TypeName tree place owner ∧ entries = [("method.container", owner.node)] := by
  have forms : receiverTypes = [plainType, ofKind "pointer_type" [plainType], genericType,
      ofKind "pointer_type" [genericType]] := rfl
  rw [forms]
  constructor
  · rintro ⟨receiver, listed, yields⟩
    simp only [List.mem_cons, List.not_mem_nil, or_false] at listed
    rcases listed with rfl | rfl | rfl | rfl
    · obtain ⟨kind, rfl⟩ := yields_plainType.1 yields
      exact ⟨place, .direct (.plain kind), rfl⟩
    · obtain ⟨kind, name, below, yields⟩ := (Tree.yields_one inside).1 yields
      obtain ⟨name_kind, rfl⟩ := yields_plainType.1 ((yieldsAmong_of_anywhere rfl).1 yields)
      exact ⟨name, .pointer kind below (.plain name_kind), rfl⟩
    · obtain ⟨name, holds, rfl⟩ := (yields_genericType inside).1 yields
      exact ⟨name, .direct (.generic holds), rfl⟩
    · obtain ⟨kind, applied, below, yields⟩ := (Tree.yields_one inside).1 yields
      obtain ⟨name, holds, rfl⟩ :=
        (yields_genericType below.below).1 ((yieldsAmong_of_anywhere rfl).1 yields)
      exact ⟨name, .pointer kind below (.generic holds), rfl⟩
  · rintro ⟨owner, named, rfl⟩
    cases named with
    | direct named =>
      cases named with
      | plain kind => exact ⟨_, .head _, yields_plainType.2 ⟨kind, rfl⟩⟩
      | generic holds =>
        exact ⟨_, .tail _ (.tail _ (.head _)), (yields_genericType inside).2 ⟨owner, holds, rfl⟩⟩
    | pointer kind below named =>
      cases named with
      | plain name_kind =>
        exact ⟨_, .tail _ (.head _), (Tree.yields_one inside).2 ⟨kind, owner, below,
          (yieldsAmong_of_anywhere rfl).2 (yields_plainType.2 ⟨name_kind, rfl⟩)⟩⟩
      | generic holds =>
        exact ⟨_, .tail _ (.tail _ (.tail _ (.head _))), (Tree.yields_one inside).2 ⟨kind, _, below,
          (yieldsAmong_of_anywhere rfl).2 ((yields_genericType below.below).2 ⟨owner, holds, rfl⟩)⟩⟩

def parameterOf (receiver : Pattern) : Pattern :=
  ofKind "parameter_declaration" [receiver.inField "type"]

theorem yields_parameterOf {receiver : Pattern} (any : receiver.test.firstOfField = false)
    (inside : place ∈ tree.places) : (parameterOf receiver).Yields place entries ↔
      place.node.kind = "parameter_declaration" ∧ ∃ type, tree.Child place type ∧
        type.node.field = some "type" ∧ receiver.Yields type entries := by
  rw [parameterOf, Tree.yields_one inside]
  simp only [yieldsAmong_inField any]

theorem yields_method {receiver : Pattern} (any : receiver.test.firstOfField = false)
    (inside : place ∈ tree.places) : (method receiver).Yields place entries ↔
      ∃ list parameter type name below,
        tree.Holds "method_declaration" "receiver" "parameter_list" place list ∧
          tree.Holds "method_declaration" "name" "field_identifier" place name ∧
            list.index < name.index ∧ tree.Child list parameter ∧
              parameter.node.kind = "parameter_declaration" ∧ tree.Child parameter type ∧
                type.node.field = some "type" ∧ receiver.Yields type below ∧
                  entries = ("method.def", place.node) ::
                    (below ++ [("method.name", name.node)]) := by
  rw [method, yields_captured rfl]
  simp only [Tree.yields_two inside]
  constructor
  · rintro ⟨_, ⟨kind, list, name, receives, named, before, here, _, first, second, rfl⟩, rfl⟩
    obtain ⟨list_held, parameters⟩ := (yieldsAmong_inField rfl).1 first
    obtain ⟨name_held, name_kind, rfl⟩ := yieldsAmong_leaf.1 second
    obtain ⟨list_kind, parameter, below, yields⟩ := (Tree.yields_one receives.below).1 parameters
    obtain ⟨parameter_kind, type, type_below, type_held, type_yields⟩ :=
      (yields_parameterOf any below.below).1 ((yieldsAmong_of_anywhere rfl).1 yields)
    exact ⟨list, parameter, type, name, here, ⟨receives, kind, list_held, list_kind⟩,
      ⟨named, kind, name_held, name_kind⟩, before, below, parameter_kind, type_below, type_held,
      type_yields, rfl⟩
  · rintro ⟨list, parameter, type, name, here, receives, named, before, below, parameter_kind,
      type_below, type_held, type_yields, rfl⟩
    have yields : YieldsAmong list.children (parameterOf receiver) parameter here :=
      (yieldsAmong_of_anywhere rfl).2 ((yields_parameterOf any below.below).2
        ⟨parameter_kind, type, type_below, type_held, type_yields⟩)
    have parameters := (Tree.yields_one receives.isChild.below).2
      ⟨receives.childKind, parameter, below, yields⟩
    exact ⟨_, ⟨receives.kind, list, name, receives.isChild, named.isChild, before, here, _,
      (yieldsAmong_inField rfl).2 ⟨receives.field, parameters⟩,
      yieldsAmong_leaf.2 ⟨named.field, named.childKind, rfl⟩, rfl⟩, rfl⟩

theorem exists_yields_method : (∃ receiver ∈ receiverTypes, ∃ definition ∈ tree.places,
      (method receiver).Yields definition entries) ↔
    ∃ definition list owner name, Receives tree definition list owner ∧
      tree.Holds "method_declaration" "name" "field_identifier" definition name ∧
        list.index < name.index ∧ entries = [("method.def", definition.node),
          ("method.container", owner.node), ("method.name", name.node)] := by
  have any : ∀ receiver ∈ receiverTypes, receiver.test.firstOfField = false := by decide
  constructor
  · rintro ⟨receiver, listed, definition, inside, yields⟩
    obtain ⟨list, parameter, type, name, below, holds, named, before, child, kind, type_below, held,
      here, rfl⟩ := (yields_method (any receiver listed) inside).1 yields
    obtain ⟨owner, names, rfl⟩ :=
      (exists_yields_receiver type_below.below).1 ⟨receiver, listed, here⟩
    exact ⟨definition, list, owner, name, ⟨holds, parameter, type, child, kind, type_below, held,
      names⟩, named, before, rfl⟩
  · rintro ⟨definition, list, owner, name, ⟨holds, parameter, type, child, kind, type_below, held,
      names⟩, named, before, rfl⟩
    obtain ⟨receiver, listed, here⟩ :=
      (exists_yields_receiver type_below.below).2 ⟨owner, names, rfl⟩
    have inside := holds.isChild.above
    exact ⟨receiver, listed, definition, inside, (yields_method (any receiver listed) inside).2
      ⟨list, parameter, type, name, _, holds, named, before, child, kind, type_below, held, here,
        rfl⟩⟩

theorem yields_constant (inside : place ∈ tree.places) : constant.Yields place entries ↔
    ∃ name, tree.Holds "const_spec" "name" "identifier" place name ∧
      tree.FirstIn "name" place name ∧
        entries = [("const.def", place.node), ("const.name", name.node)] := by
  rw [constant, yields_captured rfl]
  simp only [Tree.yields_one inside]
  constructor
  · rintro ⟨_, ⟨kind, name, below, yields⟩, rfl⟩
    obtain ⟨_, uncaptured, rfl⟩ := (yieldsAmong_captured rfl).1 yields
    obtain ⟨held, first, leaf⟩ := yieldsAmong_firstInField.1 uncaptured
    obtain ⟨name_kind, rfl⟩ := yields_leaf.1 leaf
    exact ⟨name, ⟨below, kind, held, name_kind⟩, (Tree.firstIn_iff below held).1 first, rfl⟩
  · rintro ⟨name, holds, first, rfl⟩
    exact ⟨_, ⟨holds.kind, name, holds.isChild, (yieldsAmong_captured rfl).2 ⟨[],
      yieldsAmong_firstInField.2 ⟨holds.field, (Tree.firstIn_iff holds.isChild holds.field).2 first,
        yields_leaf.2 ⟨holds.childKind, rfl⟩⟩, rfl⟩⟩, rfl⟩

theorem rules_eq : go.definitions.rules.flatten =
    declaration "function_declaration" "identifier" "fn" :: (receiverTypes.map method ++
      [declaration "type_spec" "type_identifier" "type", declaration "var_spec" "identifier" "var",
        constant]) :=
  rfl

theorem exists_declares (yields : go.definitions.Yields tree entries) :
    ∃ declaration, Declares tree declaration ∧ declaration.ShownBy entries := by
  obtain ⟨pattern, known, place, inside, here⟩ := Query.yields_iff.1 yields
  rw [rules_eq, List.mem_cons, List.mem_append, List.mem_map] at known
  simp only [List.mem_cons, List.not_mem_nil, or_false] at known
  rcases known with rfl | ⟨receiver, listed, rfl⟩ | rfl | rfl | rfl
  · obtain ⟨name, holds, shown⟩ := exists_shown_of_yields "fn" (by decide) inside here
    exact ⟨_, .function holds, shown⟩
  · obtain ⟨definition, list, owner, name, receives, holds, before, rfl⟩ :=
      exists_yields_method.1 ⟨receiver, listed, place, inside, here⟩
    exact ⟨_, .method receives holds before,
      (Declaration.shownBy_method _ _ _).perm (.swap _ _ _)⟩
  · obtain ⟨name, holds, shown⟩ :=
      exists_shown_of_yields "type" (by decide) inside here
    exact ⟨_, .typeName holds, shown⟩
  · obtain ⟨name, holds, shown⟩ := exists_shown_of_yields "var" (by decide) inside here
    exact ⟨_, .var holds, shown⟩
  · obtain ⟨name, holds, first, rfl⟩ := (yields_constant inside).1 here
    exact ⟨_, .const holds first, Declaration.shownBy_plain "const" (by decide) _ _⟩

theorem exists_yields_of_declares {declaration : Declaration}
    (declared : Declares tree declaration) :
    ∃ entries, go.definitions.Yields tree entries ∧ declaration.ShownBy entries := by
  cases declared with
  | function holds =>
    have known : Go.declaration "function_declaration" "identifier" "fn" ∈
        go.definitions.rules.flatten := by simp [rules_eq]
    exact exists_yields_of_holds _ (by decide) known holds
  | method receives holds before =>
    obtain ⟨receiver, listed, place, inside, yields⟩ :=
      exists_yields_method.2 ⟨_, _, _, _, receives, holds, before, rfl⟩
    have known : method receiver ∈ go.definitions.rules.flatten := by
      rw [rules_eq]
      exact .tail _ (List.mem_append_left _ (List.mem_map_of_mem listed))
    exact ⟨_, Query.yields_iff.2 ⟨_, known, place, inside, yields⟩,
      (Declaration.shownBy_method _ _ _).perm (.swap _ _ _)⟩
  | typeName holds =>
    have known : Go.declaration "type_spec" "type_identifier" "type" ∈
        go.definitions.rules.flatten := by simp [rules_eq]
    exact exists_yields_of_holds _ (by decide) known holds
  | var holds =>
    have known : Go.declaration "var_spec" "identifier" "var" ∈
        go.definitions.rules.flatten := by simp [rules_eq]
    exact exists_yields_of_holds _ (by decide) known holds
  | const holds first =>
    have known : constant ∈ go.definitions.rules.flatten := by simp [rules_eq]
    have inside := holds.isChild.above
    exact ⟨_, Query.yields_iff.2 ⟨_, known, _, inside,
      (yields_constant inside).2 ⟨_, holds, first, rfl⟩⟩,
      Declaration.shownBy_plain "const" (by decide) _ _⟩

theorem reads (tree : Tree) : go.Reads tree (Declares tree) :=
  ⟨fun _ => exists_declares, fun _ => exists_yields_of_declares⟩

def kindBelow : String → String
  | "function_declaration" => "func"
  | "method_declaration" => "func"
  | "type_spec" => "type"
  | "var_spec" => "var"
  | _ => "const"

theorem Declares.parent {declaration : Declaration} (declared : Declares tree declaration) :
    ∃ parent, tree.Child parent declaration.name ∧
      declaration.kind = kindBelow parent.node.kind ∧
        ∀ owner ∈ declaration.owner, ∃ list, Receives tree parent list owner := by
  cases declared with
  | function holds => exact ⟨_, holds.isChild, by rw [holds.kind]; rfl, nofun⟩
  | method receives holds before =>
    refine ⟨_, holds.isChild, by rw [holds.kind]; rfl, ?_⟩
    rintro _ ⟨⟩
    exact ⟨_, receives⟩
  | typeName holds => exact ⟨_, holds.isChild, by rw [holds.kind]; rfl, nofun⟩
  | var holds => exact ⟨_, holds.isChild, by rw [holds.kind]; rfl, nofun⟩
  | const holds _ => exact ⟨_, holds.isChild, by rw [holds.kind]; rfl, nofun⟩

theorem Declares.inside {declaration : Declaration} (declared : Declares tree declaration) :
    declaration.name ∈ tree.places ∧ declaration.name.node.kind ∈
      ["identifier", "type_identifier", "field_identifier"] := by
  cases declared with
  | function holds => exact ⟨holds.isChild.below, by simp [holds.childKind]⟩
  | method _ holds => exact ⟨holds.isChild.below, by simp [holds.childKind]⟩
  | typeName holds => exact ⟨holds.isChild.below, by simp [holds.childKind]⟩
  | var holds => exact ⟨holds.isChild.below, by simp [holds.childKind]⟩
  | const holds _ => exact ⟨holds.isChild.below, by simp [holds.childKind]⟩

def OneReceiver (tree : Tree) : Prop :=
  ∀ method list other owner another, Receives tree method list owner →
    Receives tree method other another → owner = another

theorem Named.kind {type name : Place} (named : Named tree type name) :
    type.node.kind ∈ ["type_identifier", "generic_type"] := by
  cases named with
  | plain kind => simp [kind]
  | generic holds => simp [holds.kind]

/-- The shape that receivers have in the trees of files: a method has one receiver list with one
parameter of one type, a pointer is to one type, and a generic type has one name. -/
structure Shaped (tree : Tree) : Prop where
  list : ∀ method ∈ tree.places, method.node.kind = "method_declaration" →
    Tree.Single (fun node => node.field = some "receiver") method.children
  parameter : ∀ method ∈ tree.places, method.node.kind = "method_declaration" →
    ∀ list ∈ method.children, list.node.field = some "receiver" →
      Tree.Single (fun node => node.kind = "parameter_declaration") list.children
  type : ∀ parameter ∈ tree.places, parameter.node.kind = "parameter_declaration" →
    Tree.Single (fun node => node.field = some "type") parameter.children
  pointer : ∀ type ∈ tree.places, type.node.kind = "pointer_type" →
    Tree.Single (fun _ => true) type.children
  generic : ∀ type ∈ tree.places, type.node.kind = "generic_type" →
    Tree.Single (fun node => node.field = some "type") type.children

theorem Named.unique (shaped : Shaped tree) {type name other : Place}
    (first : Named tree type name) (second : Named tree type other) : name = other := by
  cases first with
  | plain kind =>
    cases second with
    | plain _ => rfl
    | generic holds => exact absurd (kind.symm.trans holds.kind) (by decide)
  | generic holds =>
    cases second with
    | plain kind => exact absurd (kind.symm.trans holds.kind) (by decide)
    | generic also_holds =>
      have single := shaped.generic type holds.isChild.above holds.kind
      exact single.unique holds.isChild also_holds.isChild (decide_eq_true holds.field)
        (decide_eq_true also_holds.field)

theorem TypeName.unique (shaped : Shaped tree) {type name other : Place}
    (first : TypeName tree type name) (second : TypeName tree type other) : name = other := by
  cases first with
  | direct named =>
    cases second with
    | direct also_named => exact named.unique shaped also_named
    | pointer kind _ _ => exact absurd (kind ▸ named.kind) (by decide)
  | pointer kind below named =>
    cases second with
    | direct also_named => exact absurd (kind ▸ also_named.kind) (by decide)
    | pointer _ also_below also_named =>
      obtain rfl := (shaped.pointer type below.above kind).unique below also_below rfl rfl
      exact named.unique shaped also_named

theorem oneReceiver_of_shaped (shaped : Shaped tree) : OneReceiver tree := by
  rintro method list other owner another ⟨holds, parameter, type, below, kind, type_below, held,
    named⟩ ⟨also_holds, also_parameter, also_type, also_below, also_kind, also_type_below,
      also_held, also_named⟩
  have inside := holds.isChild.above
  have one_list := shaped.list method inside holds.kind
  obtain rfl := one_list.unique holds.isChild also_holds.isChild (decide_eq_true holds.field)
    (decide_eq_true also_holds.field)
  have one_parameter := shaped.parameter method inside holds.kind list
    (Tree.child_iff.1 holds.isChild).2 holds.field
  obtain rfl := one_parameter.unique below also_below (decide_eq_true kind)
    (decide_eq_true also_kind)
  obtain rfl := (shaped.type parameter below.below kind).unique type_below also_type_below
    (decide_eq_true held) (decide_eq_true also_held)
  exact named.unique shaped also_named

theorem unambiguous (one : OneReceiver tree) : Declaration.Unambiguous (Declares tree) := by
  apply Declaration.unambiguous_of_parent kindBelow fun _ => Declares.parent
  rintro owner other definition ⟨list, receives⟩ ⟨_, also_receives⟩
  exact one definition list _ owner other receives also_receives

end Go

open Go in
/-- The definitions of Go, where no two names that are declared share their bytes. A tree in which
no node ends before it starts has findings. They define a name once at each span at which the tree
declares one that is not empty, as one of the declarations says, and nowhere else. Where the
receiver of a method names one type, there is just one way to do so. -/
theorem go_definitions {tree : Tree} (apart : Declaration.Apart (Declares tree)) (path : String)
    (source : Bytes) :
    ((∀ node ∈ tree.nodes, node.start ≤ node.stop) →
      ∃ found, go.findings path source (some tree) = .ok found) ∧
    ∀ found, go.findings path source (some tree) = .ok found →
      ∃ declared, found.Defines source "go" path declared ∧
        (∀ each ∈ declared.map Prod.fst, Declaration.Settles source (Declares tree) each) ∧
        (∀ declaration, Declares tree declaration →
          Source.text source declaration.name.node.span ≠ "" →
            ∃ each ∈ declared.map Prod.fst, each.span = declaration.name.node.span) ∧
        (OneReceiver tree → ∀ each, each ∈ declared.map Prod.fst ↔
          Declaration.Settles source (Declares tree) each) := by
  refine ⟨exists_findings_of_forward .go path source tree, ?_⟩
  intro found done
  obtain ⟨declared, defines, settled, defined⟩ := (reads tree).exists_settled .go done
  refine ⟨declared, defines, settled, defined, ?_⟩
  intro one
  exact Declaration.mem_iff_settles apart (unambiguous one) settled defined

/-- A method of a generic type behind a pointer, two variables within a function, and two constants
that are declared together. -/
def twoConstantsSource : Bytes :=
  ("package p\nfunc (l *List[K]) Len() \x7b\x7d\n" ++
    "func f() \x7b\n\tvar a, b int\n\x7d\nconst c, d = 1, 2\n").toList.map
      fun c => c.toNat.toUInt8

def twoConstantsTree : Tree := ⟨[
  ⟨0, "source_file", none, 0, 82⟩,
  ⟨1, "package_clause", none, 0, 9⟩,
  ⟨2, "package_identifier", none, 8, 9⟩,
  ⟨1, "method_declaration", none, 10, 36⟩,
  ⟨2, "parameter_list", some "receiver", 15, 27⟩,
  ⟨3, "parameter_declaration", none, 16, 26⟩,
  ⟨4, "identifier", some "name", 16, 17⟩,
  ⟨4, "pointer_type", some "type", 18, 26⟩,
  ⟨5, "generic_type", none, 19, 26⟩,
  ⟨6, "type_identifier", some "type", 19, 23⟩,
  ⟨6, "type_arguments", some "type_arguments", 23, 26⟩,
  ⟨7, "type_elem", none, 24, 25⟩,
  ⟨8, "type_identifier", none, 24, 25⟩,
  ⟨2, "field_identifier", some "name", 28, 31⟩,
  ⟨2, "parameter_list", some "parameters", 31, 33⟩,
  ⟨2, "block", some "body", 34, 36⟩,
  ⟨1, "function_declaration", none, 37, 63⟩,
  ⟨2, "identifier", some "name", 42, 43⟩,
  ⟨2, "parameter_list", some "parameters", 43, 45⟩,
  ⟨2, "block", some "body", 46, 63⟩,
  ⟨3, "statement_list", none, 49, 62⟩,
  ⟨4, "var_declaration", none, 49, 61⟩,
  ⟨5, "var_spec", none, 53, 61⟩,
  ⟨6, "identifier", some "name", 53, 54⟩,
  ⟨6, "identifier", some "name", 56, 57⟩,
  ⟨6, "type_identifier", some "type", 58, 61⟩,
  ⟨1, "const_declaration", none, 64, 81⟩,
  ⟨2, "const_spec", none, 70, 81⟩,
  ⟨3, "identifier", some "name", 70, 71⟩,
  ⟨3, "identifier", some "name", 73, 74⟩,
  ⟨3, "expression_list", some "value", 77, 81⟩,
  ⟨4, "int_literal", none, 77, 78⟩,
  ⟨4, "int_literal", none, 80, 81⟩]⟩

theorem identities_twoConstants {found : Findings}
    (done : go.findings "p.go" twoConstantsSource (some twoConstantsTree) = .ok found) :
    found.marks.filterMap Occurrence.identity = ["go::p.go::List.Len", "go::p.go::f",
      "go::p.go::a", "go::p.go::b", "go::p.go::c"] :=
  view_of_evaluated (fun found => found.marks.filterMap Occurrence.identity) (by decide +kernel)
    done

/-- Both variables are defined, and of the constants the first one. -/
theorem go_definitions_twoConstants :
    ∃ found declared,
      go.findings "p.go" twoConstantsSource (some twoConstantsTree) = .ok found ∧
      found.Defines twoConstantsSource "go" "p.go" declared ∧
      (∀ each, each ∈ declared.map Prod.fst ↔
        Declaration.Settles twoConstantsSource (Go.Declares twoConstantsTree) each) ∧
      declared.map (fun noted => noted.1.identity twoConstantsSource "go" "p.go") =
        ["go::p.go::List.Len", "go::p.go::f", "go::p.go::a", "go::p.go::b", "go::p.go::c"] := by
  have apart : Declaration.Apart (Go.Declares twoConstantsTree) :=
    Declaration.apart_of_distinct (fun _ => Go.Declares.inside) (by decide)
  have shaped : Go.Shaped twoConstantsTree := ⟨by decide, by decide,
    by decide, by decide, by decide⟩
  obtain ⟨succeeds, defined⟩ := go_definitions apart "p.go" twoConstantsSource
  obtain ⟨found, done⟩ := succeeds (by decide)
  obtain ⟨declared, defines, -, -, exactly⟩ := defined found done
  refine ⟨found, declared, done, defines, exactly (Go.oneReceiver_of_shaped shaped), ?_⟩
  rw [defines.identities, identities_twoConstants done]

end CodeNav.Grammar
