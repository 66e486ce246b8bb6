import CodeNav.Proofs.Evaluation
import CodeNav.Proofs.Grammar.Reading
import CodeNav.Proofs.Syntax.Holding

/-! The definitions of Python. Functions and classes are declared anywhere, a function directly in
the body of a class is a method of it, and a module declares the names that it assigns. -/
namespace CodeNav.Grammar

open Syntax Pattern
open CodeNav.Text.Utf8 (Bytes)

namespace Python

def InClass (tree : Tree) : Place → Place → Prop :=
  tree.Encloses "class_definition" "identifier" "block"

def NamesFunction (tree : Tree) : Place → Place → Prop :=
  tree.Holds "function_definition" "name" "identifier"

inductive Method (tree : Tree) (owner : Place) : Place → Prop where
  | direct {function : Place} : InClass tree owner function → Method tree owner function
  | decorated {decorated function : Place} : InClass tree owner decorated →
      tree.Holds "decorated_definition" "definition" "function_definition" decorated function →
      Method tree owner function

inductive Declares (tree : Tree) : Declaration → Prop where
  | function {function name : Place} : NamesFunction tree function name →
      Declares tree ⟨name, "func", none⟩
  | method {owner function name : Place} : Method tree owner function →
      NamesFunction tree function name → Declares tree ⟨name, "func", some owner⟩
  | cls {definition name : Place} :
      tree.Holds "class_definition" "name" "identifier" definition name →
      Declares tree ⟨name, "class", none⟩
  | assigned {top statement assignment name : Place} : top.node.kind = "module" →
      tree.Child top statement → statement.node.kind = "expression_statement" →
      tree.Child statement assignment →
      tree.Holds "assignment" "left" "identifier" assignment name →
      Declares tree ⟨name, "var", none⟩

variable {tree : Tree} {place : Place} {entries : List (String × Node)}

theorem yields_methodDefinition (inside : place ∈ tree.places) :
    methodDefinition.Yields place entries ↔
      ∃ name, NamesFunction tree place name ∧ entries = [("method.name", name.node)] :=
  Tree.yields_naming inside

theorem exists_yields_method : (∃ definition ∈ tree.places,
      (classAround (methodDefinition.captured "method.def")).Yields definition entries) ↔
    ∃ owner function name, InClass tree owner function ∧ NamesFunction tree function name ∧
      entries = [("method.container", owner.node), ("method.def", function.node),
        ("method.name", name.node)] := by
  rw [classAround, nameOf, Tree.exists_yields_around rfl]
  constructor
  · rintro ⟨owner, function, _, encloses, yields, rfl⟩
    obtain ⟨_, method, rfl⟩ := (yields_captured rfl).1 yields
    obtain ⟨name, named, rfl⟩ := (yields_methodDefinition encloses.inside).1 method
    exact ⟨owner, function, name, encloses, named, rfl⟩
  · rintro ⟨owner, function, name, encloses, named, rfl⟩
    have method := (yields_methodDefinition encloses.inside).2 ⟨name, named, rfl⟩
    exact ⟨owner, function, _, encloses, (yields_captured rfl).2 ⟨_, method, rfl⟩, rfl⟩

def decoratedMethod : Pattern :=
  ofKind "decorated_definition" [methodDefinition.inField "definition" |>.captured "method.def"]

theorem yields_decoratedMethod (inside : place ∈ tree.places) :
    decoratedMethod.Yields place entries ↔ ∃ function name,
      tree.Holds "decorated_definition" "definition" "function_definition" place function ∧
        NamesFunction tree function name ∧
          entries = [("method.def", function.node), ("method.name", name.node)] := by
  rw [decoratedMethod, Tree.yields_one inside]
  constructor
  · rintro ⟨known, function, below, yields⟩
    obtain ⟨_, uncaptured, rfl⟩ := (yieldsAmong_captured rfl).1 yields
    obtain ⟨held, method⟩ := (yieldsAmong_inField rfl).1 uncaptured
    obtain ⟨name, named, rfl⟩ := (yields_methodDefinition below.below).1 method
    exact ⟨function, name, ⟨below, known, held, named.kind⟩, named, rfl⟩
  · rintro ⟨function, name, holds, named, rfl⟩
    have method := (yields_methodDefinition holds.isChild.below).2 ⟨name, named, rfl⟩
    exact ⟨holds.kind, function, holds.isChild, (yieldsAmong_captured rfl).2
      ⟨_, (yieldsAmong_inField rfl).2 ⟨holds.field, method⟩, rfl⟩⟩

theorem exists_yields_decorated : (∃ definition ∈ tree.places,
      (classAround decoratedMethod).Yields definition entries) ↔
    ∃ owner decorated function name, InClass tree owner decorated ∧
      tree.Holds "decorated_definition" "definition" "function_definition" decorated function ∧
        NamesFunction tree function name ∧
          entries = [("method.container", owner.node), ("method.def", function.node),
            ("method.name", name.node)] := by
  rw [classAround, nameOf, Tree.exists_yields_around rfl]
  constructor
  · rintro ⟨owner, decorated, _, encloses, yields, rfl⟩
    obtain ⟨function, name, holds, named, rfl⟩ := (yields_decoratedMethod encloses.inside).1 yields
    exact ⟨owner, decorated, function, name, encloses, holds, named, rfl⟩
  · rintro ⟨owner, decorated, function, name, encloses, holds, named, rfl⟩
    exact ⟨owner, decorated, _, encloses,
      (yields_decoratedMethod encloses.inside).2 ⟨function, name, holds, named, rfl⟩, rfl⟩

def assignmentStatement : Pattern :=
  ofKind "expression_statement" [
    ofKind "assignment" [ofKind "identifier" [] |>.inField "left" |>.captured "var.name"]
      |>.captured "var.def"]

theorem yields_assignmentStatement (inside : place ∈ tree.places) :
    assignmentStatement.Yields place entries ↔ place.node.kind = "expression_statement" ∧
      ∃ assignment name, tree.Child place assignment ∧
        tree.Holds "assignment" "left" "identifier" assignment name ∧
          entries = [("var.def", assignment.node), ("var.name", name.node)] := by
  rw [assignmentStatement, Tree.yields_one inside]
  refine and_congr_right fun _ => exists_congr fun assignment => ?_
  constructor
  · rintro ⟨below, yields⟩
    obtain ⟨name, holds, rfl⟩ :=
      (Tree.yields_holding below.below).1 ((yieldsAmong_of_anywhere rfl).1 yields)
    exact ⟨name, below, holds, rfl⟩
  · rintro ⟨name, below, holds, rfl⟩
    exact ⟨below,
      (yieldsAmong_of_anywhere rfl).2 ((Tree.yields_holding below.below).2 ⟨name, holds, rfl⟩)⟩

theorem rules_eq : python.definitions.rules.flatten = [
    ofKind "function_definition" [nameOf "fn.name"] |>.captured "fn.def",
    ofKind "class_definition" [nameOf "cls.name"] |>.captured "cls.def",
    classAround (methodDefinition.captured "method.def"),
    classAround decoratedMethod, ofKind "module" [assignmentStatement]] := rfl

theorem exists_declares (yields : python.definitions.Yields tree entries) :
    ∃ declaration, Declares tree declaration ∧ declaration.ShownBy entries := by
  obtain ⟨pattern, known, place, inside, here⟩ := Query.yields_iff.1 yields
  rw [rules_eq] at known
  simp only [List.mem_cons, List.not_mem_nil, or_false] at known
  rcases known with rfl | rfl | rfl | rfl | rfl
  · obtain ⟨name, named, shown⟩ :=
      exists_shown_of_yields "fn" (by decide) inside here
    exact ⟨_, .function named, shown⟩
  · obtain ⟨name, named, shown⟩ :=
      exists_shown_of_yields "cls" (by decide) inside here
    exact ⟨_, .cls named, shown⟩
  · obtain ⟨owner, function, name, encloses, named, rfl⟩ :=
      exists_yields_method.1 ⟨place, inside, here⟩
    exact ⟨_, .method (.direct encloses) named, Declaration.shownBy_method _ _ _⟩
  · obtain ⟨owner, decorated, function, name, encloses, holds, named, rfl⟩ :=
      exists_yields_decorated.1 ⟨place, inside, here⟩
    exact ⟨_, .method (.decorated encloses holds) named,
      Declaration.shownBy_method _ _ _⟩
  · obtain ⟨top, statement, child, yields⟩ := (Tree.yields_one inside).1 here
    obtain ⟨statement_kind, assignment, name, below, holds, rfl⟩ :=
      (yields_assignmentStatement child.below).1 ((yieldsAmong_of_anywhere rfl).1 yields)
    exact ⟨_, .assigned top child statement_kind below holds,
      Declaration.shownBy_plain "var" (by decide) _ _⟩

theorem exists_yields_of_declares {declaration : Declaration}
    (declared : Declares tree declaration) :
    ∃ entries, python.definitions.Yields tree entries ∧ declaration.ShownBy entries := by
  cases declared with
  | function named =>
    exact exists_yields_of_holds "fn" (by decide) (rules_eq ▸ .head _) named
  | cls named =>
    exact exists_yields_of_holds "cls" (by decide) (rules_eq ▸ .tail _ (.head _)) named
  | method member named =>
    cases member with
    | direct encloses =>
      obtain ⟨place, inside, yields⟩ := exists_yields_method.2 ⟨_, _, _, encloses, named, rfl⟩
      exact ⟨_, Query.yields_iff.2
        ⟨_, rules_eq ▸ .tail _ (.tail _ (.head _)), place, inside, yields⟩,
        Declaration.shownBy_method _ _ _⟩
    | decorated encloses holds =>
      obtain ⟨place, inside, yields⟩ :=
        exists_yields_decorated.2 ⟨_, _, _, _, encloses, holds, named, rfl⟩
      exact ⟨_, Query.yields_iff.2
        ⟨_, rules_eq ▸ .tail _ (.tail _ (.tail _ (.head _))), place, inside, yields⟩,
        Declaration.shownBy_method _ _ _⟩
  | assigned top child statement_kind below holds =>
    have yields := (yields_assignmentStatement child.below).2
      ⟨statement_kind, _, _, below, holds, rfl⟩
    exact ⟨_, Query.yields_iff.2
      ⟨_, rules_eq ▸ .tail _ (.tail _ (.tail _ (.tail _ (.head _)))), _, child.above,
        (Tree.yields_one child.above).2 ⟨top, _, child, (yieldsAmong_of_anywhere rfl).2 yields⟩⟩,
      Declaration.shownBy_plain "var" (by decide) _ _⟩

theorem reads (tree : Tree) : python.Reads tree (Declares tree) :=
  ⟨fun _ => exists_declares, fun _ => exists_yields_of_declares⟩

theorem Method.unique (one : tree.OneName "class_definition") {owner other function : Place}
    (first : Method tree owner function) (second : Method tree other function) : owner = other := by
  -- A decorated definition is no body, so a method is not both of a class and behind decorators.
  have apart {upper decorated : Place} (direct : InClass tree upper function)
      (holds : tree.Holds "decorated_definition" "definition" "function_definition" decorated
        function) : False := by
    obtain ⟨_, body, _, block, _, child⟩ := direct
    obtain rfl := child.unique holds.isChild
    exact absurd (block.childKind.symm.trans holds.kind) (by decide)
  cases first with
  | direct encloses =>
    cases second with
    | direct also_encloses => exact encloses.unique one also_encloses
    | decorated _ holds => exact (apart encloses holds).elim
  | decorated encloses holds =>
    cases second with
    | direct also_encloses => exact (apart also_encloses holds).elim
    | decorated also_encloses also_holds =>
      obtain rfl := holds.unique_parent also_holds
      exact encloses.unique one also_encloses

def kindBelow : String → String
  | "function_definition" => "func"
  | "class_definition" => "class"
  | _ => "var"

theorem Declares.parent {declaration : Declaration} (declared : Declares tree declaration) :
    ∃ parent, tree.Child parent declaration.name ∧
      declaration.kind = kindBelow parent.node.kind ∧
        ∀ owner ∈ declaration.owner, Method tree owner parent := by
  cases declared with
  | function named => exact ⟨_, named.isChild, by rw [named.kind]; rfl, nofun⟩
  | method member named =>
    refine ⟨_, named.isChild, by rw [named.kind]; rfl, ?_⟩
    rintro _ ⟨⟩
    exact member
  | cls named => exact ⟨_, named.isChild, by rw [named.kind]; rfl, nofun⟩
  | assigned _ _ _ _ holds => exact ⟨_, holds.isChild, by rw [holds.kind]; rfl, nofun⟩

theorem Declares.inside {declaration : Declaration} (declared : Declares tree declaration) :
    declaration.name ∈ tree.places ∧ declaration.name.node.kind ∈ ["identifier"] := by
  cases declared with
  | function named => exact ⟨named.isChild.below, List.mem_singleton.2 named.childKind⟩
  | method _ named => exact ⟨named.isChild.below, List.mem_singleton.2 named.childKind⟩
  | cls named => exact ⟨named.isChild.below, List.mem_singleton.2 named.childKind⟩
  | assigned _ _ _ _ holds => exact ⟨holds.isChild.below, List.mem_singleton.2 holds.childKind⟩

theorem unambiguous (one : tree.OneName "class_definition") :
    Declaration.Unambiguous (Declares tree) :=
  Declaration.unambiguous_of_parent kindBelow (fun _ => Declares.parent)
    fun _ _ _ => Method.unique one

end Python

/-- The definitions of Python, where a class has one name and no two names that are declared share
their bytes. A tree in which no node ends before it starts has findings. They define a name just
where the tree declares one that is not empty: once at its span, of the kind that is declared, as a
method of its class if that has a name, and without container otherwise. -/
theorem python_definitions {tree : Tree} (one : tree.OneName "class_definition")
    (apart : Declaration.Apart (Python.Declares tree)) (path : String) (source : Bytes) :
    ((∀ node ∈ tree.nodes, node.start ≤ node.stop) →
      ∃ found, python.findings path source (some tree) = .ok found) ∧
    ∀ found, python.findings path source (some tree) = .ok found →
      ∃ declared, found.Defines source "py" path declared ∧
        ∀ each, each ∈ declared.map Prod.fst ↔
          Declaration.Settles source (Python.Declares tree) each := by
  refine ⟨exists_findings_of_forward .python path source tree, ?_⟩
  intro found done
  obtain ⟨declared, defines, settled, defined⟩ :=
    (Python.reads tree).exists_settled .python done
  exact ⟨declared, defines,
    Declaration.mem_iff_settles apart (Python.unambiguous one) settled defined⟩

def decoratedSource : Bytes :=
  "x = 1\nclass C:\n @d\n def f(): pass\n if x:\n  def g(): pass\ndef f(): pass\n".toList.map
    fun c => c.toNat.toUInt8

def decoratedTree : Tree := ⟨[
  ⟨0, "module", none, 0, 71⟩,
  ⟨1, "expression_statement", none, 0, 5⟩,
  ⟨2, "assignment", none, 0, 5⟩,
  ⟨3, "identifier", some "left", 0, 1⟩,
  ⟨3, "integer", some "right", 4, 5⟩,
  ⟨1, "class_definition", none, 6, 56⟩,
  ⟨2, "identifier", some "name", 12, 13⟩,
  ⟨2, "block", some "body", 16, 56⟩,
  ⟨3, "decorated_definition", none, 16, 33⟩,
  ⟨4, "decorator", none, 16, 18⟩,
  ⟨5, "identifier", none, 17, 18⟩,
  ⟨4, "function_definition", some "definition", 20, 33⟩,
  ⟨5, "identifier", some "name", 24, 25⟩,
  ⟨5, "parameters", some "parameters", 25, 27⟩,
  ⟨5, "block", some "body", 29, 33⟩,
  ⟨6, "pass_statement", none, 29, 33⟩,
  ⟨3, "if_statement", none, 35, 56⟩,
  ⟨4, "identifier", some "condition", 38, 39⟩,
  ⟨4, "block", some "consequence", 43, 56⟩,
  ⟨5, "function_definition", none, 43, 56⟩,
  ⟨6, "identifier", some "name", 47, 48⟩,
  ⟨6, "parameters", some "parameters", 48, 50⟩,
  ⟨6, "block", some "body", 52, 56⟩,
  ⟨7, "pass_statement", none, 52, 56⟩,
  ⟨1, "function_definition", none, 57, 70⟩,
  ⟨2, "identifier", some "name", 61, 62⟩,
  ⟨2, "parameters", some "parameters", 62, 64⟩,
  ⟨2, "block", some "body", 66, 70⟩,
  ⟨3, "pass_statement", none, 66, 70⟩]⟩

theorem identities_decorated {found : Findings}
    (done : python.findings "m.py" decoratedSource (some decoratedTree) = .ok found) :
    found.marks.filterMap Occurrence.identity = ["py::m.py::x", "py::m.py::C",
      "py::m.py::C.f", "py::m.py::g", "py::m.py::f"] :=
  view_of_evaluated (fun found => found.marks.filterMap Occurrence.identity) (by decide +kernel)
    done

/-- The decorated function is a method, and the one behind a condition is none. -/
theorem python_definitions_decorated :
    ∃ found declared, python.findings "m.py" decoratedSource (some decoratedTree) = .ok found ∧
      found.Defines decoratedSource "py" "m.py" declared ∧
      (∀ each, each ∈ declared.map Prod.fst ↔
        Declaration.Settles decoratedSource (Python.Declares decoratedTree) each) ∧
      declared.map (fun noted => noted.1.identity decoratedSource "py" "m.py") =
        ["py::m.py::x", "py::m.py::C", "py::m.py::C.f", "py::m.py::g", "py::m.py::f"] := by
  have apart : Declaration.Apart (Python.Declares decoratedTree) :=
    Declaration.apart_of_distinct (fun _ => Python.Declares.inside) (by decide)
  obtain ⟨succeeds, defined⟩ :=
    python_definitions (by decide) apart "m.py" decoratedSource
  obtain ⟨found, done⟩ := succeeds (by decide)
  obtain ⟨declared, defines, exactly⟩ := defined found done
  refine ⟨found, declared, done, defines, exactly, ?_⟩
  rw [defines.identities, identities_decorated done]

end CodeNav.Grammar
