import CodeNav.Proofs.Grammar.Coverage
import CodeNav.Proofs.Syntax.Children
import CodeNav.Proofs.Text.Cut

/-! What a tree declares, and the definitions that are made of it. The declarations are told by the
tree alone. Where the patterns of a language read off just these, its findings define every span at
which a name is declared once, in a container wherever a declaration there has one. -/
namespace CodeNav

open Syntax
open CodeNav.Text.Utf8 (Bytes)

structure Declaration where
  name : Place
  kind : String
  owner : Option Place

structure Declared where
  span : Nat × Nat
  kind : String
  container : Option String

namespace Declared

def text (source : Bytes) (declared : Declared) : String := Source.text source declared.span

def identity (source : Bytes) (lang path : String) (declared : Declared) : Identity :=
  Identity.of lang path (declared.text source) declared.container

def mark (source : Bytes) (lang path : String) (noted : Declared × Range) : Occurrence :=
  ⟨noted.1.text source, .definition, noted.2, some (noted.1.identity source lang path)⟩

def stored (source : Bytes) (lang path : String) (noted : Declared × Range) :
    Identity × Definition :=
  (noted.1.identity source lang path,
    ⟨lang, Path.normalize path, noted.2, noted.1.text source, noted.1.kind⟩)

end Declared

/-- The findings define just these names. They stand in the order of their spans, no span twice;
each is marked at its range, and under an identity stands the last that has it. -/
structure Findings.Defines (found : Findings) (source : Bytes) (lang path : String)
    (declared : List (Declared × Range)) : Prop where
  ordered : declared.Pairwise fun a b => Survey.Before a.1.span b.1.span
  ranges : ∀ noted ∈ declared, Source.range source noted.1.span = .ok noted.2
  marks : found.marks = declared.map (Declared.mark source lang path)
  definitions : found.definitions = .ofList (declared.map (Declared.stored source lang path))

theorem Findings.Defines.identities {found : Findings} {source : Bytes} {lang path : String}
    {declared : List (Declared × Range)} (defines : found.Defines source lang path declared) :
    declared.map (fun noted => noted.1.identity source lang path) =
      found.marks.filterMap Occurrence.identity := by
  rw [defines.marks, List.filterMap_map]
  exact (congrFun List.filterMap_eq_map' _).symm

namespace Declaration

def container (source : Bytes) (declaration : Declaration) : Option String :=
  (declaration.owner.map fun owner => Source.text source owner.node.span).filter (· ≠ "")

/-- The declarations settle the definition at a span, of a name that is not empty. One of them is
as it says, and it has no container only if none of them has one. -/
structure Settles (source : Bytes) (declares : Declaration → Prop) (declared : Declared) :
    Prop where
  written : declared.text source ≠ ""
  declaration : ∃ declaration, declares declaration ∧
    declaration.name.node.span = declared.span ∧ declaration.kind = declared.kind ∧
      declaration.container source = declared.container
  uncontained : declared.container = none → ∀ declaration, declares declaration →
    declaration.name.node.span = declared.span → declaration.container source = none

def Apart (declares : Declaration → Prop) : Prop :=
  ∀ first second, declares first → declares second →
    first.name.node.span = second.name.node.span → first.name = second.name

/-- The declarations of a name agree on its kind, and on what is around it where they tell. -/
def Unambiguous (declares : Declaration → Prop) : Prop :=
  ∀ first second, declares first → declares second → first.name = second.name →
    first.kind = second.kind ∧
      ∀ outer ∈ first.owner, ∀ other ∈ second.owner, outer = other

theorem Apart.mono {declares others : Declaration → Prop} (apart : Apart declares)
    (fewer : ∀ declaration, others declaration → declares declaration) : Apart others :=
  fun first second here there => apart first second (fewer first here) (fewer second there)

theorem apart_of_distinct {tree : Tree} {kinds : List String} {declares : Declaration → Prop}
    (inside : ∀ declaration, declares declaration →
      declaration.name ∈ tree.places ∧ declaration.name.node.kind ∈ kinds)
    (distinct : ∀ first ∈ tree.places, ∀ second ∈ tree.places, first.node.kind ∈ kinds →
      second.node.kind ∈ kinds → first.node.span = second.node.span → first = second) :
    Apart declares := by
  intro first second here there
  obtain ⟨member, kind⟩ := inside first here
  obtain ⟨also_member, also_kind⟩ := inside second there
  exact distinct _ member _ also_member kind also_kind

/-- Names are declared alike if the node above a name tells the kind and has at most one owner. -/
theorem unambiguous_of_parent {tree : Tree} {declares : Declaration → Prop}
    {owns : Place → Place → Prop} (kindBelow : String → String)
    (parent : ∀ declaration, declares declaration →
      ∃ parent, tree.Child parent declaration.name ∧
        declaration.kind = kindBelow parent.node.kind ∧
          ∀ owner ∈ declaration.owner, owns owner parent)
    (once : ∀ owner other inner, owns owner inner → owns other inner → owner = other) :
    Unambiguous declares := by
  intro first second here there same
  obtain ⟨above, child, kind, owned⟩ := parent first here
  obtain ⟨other, also_child, also_kind, also_owned⟩ := parent second there
  obtain rfl := child.unique (same ▸ also_child)
  refine ⟨kind.trans also_kind.symm, ?_⟩
  intro outer around another also_around
  exact once outer another above (owned outer around) (also_owned another also_around)

theorem container_eq_of_some {source : Bytes} {first second : Declaration}
    (agree : ∀ outer ∈ first.owner, ∀ other ∈ second.owner, outer = other) {title name : String}
    (here : first.container source = some title) (there : second.container source = some name) :
    title = name := by
  rw [container, Option.filter_eq_some_iff, Option.map_eq_some_iff] at here there
  obtain ⟨⟨outer, known, rfl⟩, -⟩ := here
  obtain ⟨⟨other, also_known, rfl⟩, -⟩ := there
  rw [agree outer known other also_known]

theorem Settles.unique {source : Bytes} {declares : Declaration → Prop} (apart : Apart declares)
    (unambiguous : Unambiguous declares) {first second : Declared}
    (settles : Settles source declares first) (also_settles : Settles source declares second)
    (same : first.span = second.span) : first = second := by
  obtain ⟨-, ⟨declaration, declared, here, kind, container⟩, uncontained⟩ := settles
  obtain ⟨-, ⟨other, also_declared, there, also_kind, also_container⟩, also_uncontained⟩ :=
    also_settles
  have name := apart declaration other declared also_declared
    (here.trans (same.trans there.symm))
  obtain ⟨kinds, owners⟩ := unambiguous declaration other declared also_declared name
  have containers : first.container = second.container := by
    cases known : first.container with
    | none => rw [← also_container, uncontained known other also_declared (there.trans same.symm)]
    | some title =>
      cases also_known : second.container with
      | none =>
        rw [← container, also_uncontained also_known declaration declared (here.trans same)]
          at known
        cases known
      | some text =>
        rw [container_eq_of_some owners (container.trans known) (also_container.trans also_known)]
  cases first
  cases second
  rw [Declared.mk.injEq]
  exact ⟨same, kind.symm.trans (kinds.trans also_kind), containers⟩

theorem exists_settles {source : Bytes} {declares : Declaration → Prop} {declaration : Declaration}
    (declared : declares declaration)
    (written : Source.text source declaration.name.node.span ≠ "") :
    ∃ each, Settles source declares each ∧ each.span = declaration.name.node.span := by
  by_cases contained : ∃ other title, declares other ∧
      other.name.node.span = declaration.name.node.span ∧ other.container source = some title
  · obtain ⟨other, title, also_declared, same, container⟩ := contained
    exact ⟨⟨declaration.name.node.span, other.kind, some title⟩,
      ⟨written, ⟨other, also_declared, same, rfl, container⟩, nofun⟩, rfl⟩
  · have uncontained (other : Declaration) (also_declared : declares other)
        (same : other.name.node.span = declaration.name.node.span) :
        other.container source = none := by
      rw [Option.eq_none_iff_forall_ne_some]
      intro title container
      exact contained ⟨other, title, also_declared, same, container⟩
    exact ⟨⟨declaration.name.node.span, declaration.kind, none⟩,
      ⟨written, ⟨declaration, declared, rfl, rfl, uncontained declaration declared rfl⟩,
        fun _ => uncontained⟩, rfl⟩

theorem Settles.of_written {source : Bytes} {declares others : Declaration → Prop}
    (same : ∀ declaration, Source.text source declaration.name.node.span ≠ "" →
      (declares declaration ↔ others declaration)) {each : Declared}
    (settles : Settles source declares each) : Settles source others each := by
  obtain ⟨written, ⟨declaration, declared, here, told⟩, uncontained⟩ := settles
  refine ⟨written, ⟨declaration, (same declaration (here ▸ written)).1 declared, here, told⟩, ?_⟩
  intro bare other also_declared there
  exact uncontained bare other ((same other (there ▸ written)).2 also_declared) there

def NamesContainer (label : String) : Prop := (Survey.labelParts label).2 = "container"

instance (label : String) : Decidable (NamesContainer label) :=
  inferInstanceAs (Decidable ((Survey.labelParts label).2 = "container"))

structure ShownBy (declaration : Declaration) (entries : List (String × Node)) : Prop where
  name : ∃ label, entries.filter (fun entry => Survey.NamesDefinition entry.1) =
      [(label, declaration.name.node)] ∧
    Survey.kindOf (Survey.labelParts label).1 = declaration.kind
  owner : (entries.filter fun entry => NamesContainer entry.1).map Prod.snd =
    (declaration.owner.map Place.node).toList

theorem ShownBy.perm {declaration : Declaration} {entries others : List (String × Node)}
    (shown : ShownBy declaration entries) (perm : entries.Perm others) :
    ShownBy declaration others := by
  obtain ⟨⟨label, only, kind⟩, around⟩ := shown
  refine ⟨⟨label, ?_, kind⟩, ?_⟩
  · have same := perm.filter fun entry => Survey.NamesDefinition entry.1
    rw [only] at same
    exact (List.singleton_perm.1 same).symm
  · have same := (perm.filter fun entry => NamesContainer entry.1).map Prod.snd
    rw [around] at same
    cases owner : declaration.owner with
    | none =>
      rw [owner] at same
      exact List.nil_perm.1 same
    | some outer =>
      rw [owner] at same
      exact (List.singleton_perm.1 same).symm

theorem labelParts_append {label : String} (plain : '.' ∉ label.toList) (role : String) :
    Survey.labelParts (label ++ ("." ++ role)) = (label, role) := by
  have dot : ".".toList = ['.'] := rfl
  have parts : Text.cut? ['.'] (label ++ ("." ++ role)).toList =
      some (label.toList, role.toList) := by
    rw [String.toList_append, String.toList_append, dot]
    exact Text.cut?_append plain role.toList
  rw [Survey.labelParts, parts]
  simp

theorem shownBy_plain (label : String) (plain : '.' ∉ label.toList) (whole : Node) (name : Place) :
    ShownBy ⟨name, Survey.kindOf label, none⟩
      [(label ++ ".def", whole), (label ++ ".name", name.node)] := by
  have definition : Survey.labelParts (label ++ ".def") = (label, "def") :=
    labelParts_append plain "def"
  have named : Survey.labelParts (label ++ ".name") = (label, "name") :=
    labelParts_append plain "name"
  refine ⟨⟨label ++ ".name", ?_, by rw [named]⟩, ?_⟩
  · simp [Survey.NamesDefinition, definition, named]
  · simp [NamesContainer, definition, named]

theorem labelParts_method : Survey.labelParts "method.container" = ("method", "container") ∧
    Survey.labelParts "method.def" = ("method", "def") ∧
    Survey.labelParts "method.name" = ("method", "name") := by
  decide

theorem shownBy_method (outer name : Place) (whole : Node) :
    ShownBy ⟨name, "func", some outer⟩ [("method.container", outer.node), ("method.def", whole),
      ("method.name", name.node)] := by
  obtain ⟨container, definition, named⟩ := labelParts_method
  refine ⟨⟨"method.name", ?_, by rw [named]; rfl⟩, ?_⟩
  · simp [Survey.NamesDefinition, container, definition, named]
  · simp [NamesContainer, container, definition, named]

end Declaration
end CodeNav
