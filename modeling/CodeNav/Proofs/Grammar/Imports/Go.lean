import CodeNav.Grammar.Go
import CodeNav.Proofs.Grammar.Import
import CodeNav.Proofs.Syntax.Holding
import CodeNav.Proofs.Syntax.Parts
import CodeNav.Proofs.Text.Cut
import Mathlib.Data.List.DropRight

/-! The imports of Go: paths, each with a name in front of it or without one. A blank name, a dot
and an empty path bind nothing. -/
namespace CodeNav.Grammar.Go

open Syntax Pattern
open CodeNav.Text.Utf8 (Bytes)

def pathOf (source : Bytes) (path : Place) : List Char :=
  ((path.text source).toList.dropWhile isPathQuote).rdropWhile isPathQuote

structure Gives (source : Bytes) (tree : Tree) (spec path : Place) : Prop where
  kind : spec.node.kind = "import_spec"
  isChild : tree.Child spec path
  field : path.node.field = some "path"
  written : pathOf source path ≠ []

inductive SpecBinds (source : Bytes) (tree : Tree) (spec : Place) : Import → Prop where
  | named {own path : Place} : Gives source tree spec path → tree.Child spec own →
      own.node.field = some "name" → own.index < path.index → own.text source ∉ ["_", "."] →
      SpecBinds source tree spec
        ⟨own.text source, String.ofList (pathOf source path), own, path⟩
  | plain {path : Place} : Gives source tree spec path →
      (∀ child, tree.Child spec child → child.node.field ≠ some "name") →
      SpecBinds source tree spec ⟨String.ofList ((pathOf source path).rtakeWhile (· ≠ '/')),
        String.ofList (pathOf source path), path, path⟩

def Binds (source : Bytes) (tree : Tree) (each : Import) : Prop :=
  ∃ spec, SpecBinds source tree spec each

variable {source : Bytes} {tree : Tree} {spec own path : Place} {found : Match}

theorem lastSegment_eq (path : List Char) : lastSegment path = path.rtakeWhile (· ≠ '/') := by
  rw [lastSegment]
  cases known : Text.cutLast? ['/'] path with
  | none =>
    rw [Text.cutLast?_eq_none (List.cons_ne_nil _ _), List.singleton_infix_iff] at known
    refine (List.rtakeWhile_eq_self_iff.2 fun c member => decide_eq_true ?_).symm
    rintro rfl
    exact known member
  | some parts =>
    obtain ⟨before, after⟩ := parts
    obtain ⟨rfl, absent⟩ := Text.cutLast?_singleton.1 known
    have within : ∀ c ∈ after.reverse, decide (c ≠ '/') = true := by
      intro c member
      refine decide_eq_true ?_
      rintro rfl
      exact absent (List.mem_reverse.1 member)
    rw [List.rtakeWhile, List.reverse_append, List.reverse_cons, List.append_assoc,
      List.takeWhile_append_of_pos within]
    simp

def shownNamed (spec own path : Place) : Match :=
  ⟨[spec.index, own.index, path.index],
    [("import.stmt", spec.node), ("import.alias", own.node), ("import.module", path.node)]⟩

def shownPlain (spec path : Place) : Match :=
  ⟨[spec.index, path.index], [("import.stmt", spec.node), ("import.module", path.node)]⟩

def namedImport : Pattern :=
  ofKind "import_spec" [
    anyNode.inField "name" |>.captured "import.alias",
    anyNode.inField "path" |>.captured "import.module"]
  |>.captured "import.stmt"

def plainImport : Pattern :=
  ofKind "import_spec" [anyNode.inField "path" |>.captured "import.module"]
  |>.lacking "name" |>.captured "import.stmt"

theorem satisfied_namedImport (inside : spec ∈ tree.places) :
    namedImport.Satisfied spec found ↔ spec.node.kind = "import_spec" ∧
      ∃ own path, tree.Child spec own ∧ tree.Child spec path ∧ own.index < path.index ∧
        own.node.field = some "name" ∧ path.node.field = some "path" ∧
          found = shownNamed spec own path := by
  rw [namedImport, Tree.satisfied_whole_two inside]
  simp only [satisfiedAmong_any]
  refine and_congr_right fun _ => ?_
  constructor
  · rintro ⟨own, path, child, also_child, before, _, _, ⟨held, rfl⟩, ⟨also_held, rfl⟩, rfl⟩
    exact ⟨own, path, child, also_child, before, held, also_held, rfl⟩
  · rintro ⟨own, path, child, also_child, before, held, also_held, rfl⟩
    exact ⟨own, path, child, also_child, before, _, _, ⟨held, rfl⟩, ⟨also_held, rfl⟩, rfl⟩

theorem satisfied_plainImport (inside : spec ∈ tree.places) :
    plainImport.Satisfied spec found ↔ spec.node.kind = "import_spec" ∧
      (∀ child, tree.Child spec child → child.node.field ≠ some "name") ∧
        ∃ path, tree.Child spec path ∧ path.node.field = some "path" ∧
          found = shownPlain spec path := by
  rw [plainImport, satisfied_captured rfl]
  simp only [satisfied_lacking, Tree.satisfied_one inside, satisfiedAmong_any, Tree.child_iff,
    and_iff_right inside]
  constructor
  · rintro ⟨_, ⟨⟨kind, path, _, child, ⟨held, rfl⟩, rfl⟩, unnamed⟩, rfl⟩
    exact ⟨kind, unnamed, path, child, held, rfl⟩
  · rintro ⟨kind, unnamed, path, child, held, rfl⟩
    exact ⟨_, ⟨⟨kind, path, _, child, ⟨held, rfl⟩, rfl⟩, unnamed⟩, rfl⟩

theorem finds_iff : imports.Finds tree found ↔ ∃ spec path, spec.node.kind = "import_spec" ∧
    tree.Child spec path ∧ path.node.field = some "path" ∧
      ((∃ own, tree.Child spec own ∧ own.index < path.index ∧ own.node.field = some "name" ∧
          found = shownNamed spec own path) ∨
        (∀ child, tree.Child spec child → child.node.field ≠ some "name") ∧
          found = shownPlain spec path) := by
  have rules : imports.rules.flatten = [namedImport, plainImport] := rfl
  rw [Query.Finds, rules]
  constructor
  · rintro ⟨_, listed, spec, inside, satisfied⟩
    rcases List.mem_pair.1 listed with rfl | rfl
    · obtain ⟨kind, own, path, child, also_child, before, held, also_held, rfl⟩ :=
        (satisfied_namedImport inside).1 satisfied
      exact ⟨spec, path, kind, also_child, also_held, .inl ⟨own, child, before, held, rfl⟩⟩
    · obtain ⟨kind, unnamed, path, child, held, rfl⟩ :=
        (satisfied_plainImport inside).1 satisfied
      exact ⟨spec, path, kind, child, held, .inr ⟨unnamed, rfl⟩⟩
  · rintro ⟨spec, path, kind, child, held, ⟨own, also_child, before, also_held, rfl⟩ |
      ⟨unnamed, rfl⟩⟩
    · exact ⟨namedImport, .head _, spec, child.above, (satisfied_namedImport child.above).2
        ⟨kind, own, path, also_child, child, before, also_held, held, rfl⟩⟩
    · exact ⟨plainImport, .tail _ (.head _), spec, child.above,
        (satisfied_plainImport child.above).2 ⟨kind, unnamed, path, child, held, rfl⟩⟩

theorem binding_named {imported : Binding} :
    go.binding ((shownNamed spec own path).captured source) = .ok (some imported) ↔
      pathOf source path ≠ [] ∧ own.text source ∉ ["_", "."] ∧
        imported = ⟨own.text source, String.ofList (pathOf source path),
          Capture.ofNode source "import.alias" own.node⟩ := by
  have module : ((shownNamed spec own path).captured source).get? "import.module" =
      some (Capture.ofNode source "import.module" path.node) := by
    simp [Match.get?_captured_eq, shownNamed]
  have own_name : ((shownNamed spec own path).captured source).get? "import.alias" =
      some (Capture.ofNode source "import.alias" own.node) := by
    simp [Match.get?_captured_eq, shownNamed]
  have target : Text.trimBoth isPathQuote
      (Capture.ofNode source "import.module" path.node).text.toList = pathOf source path := rfl
  have text : (Capture.ofNode source "import.alias" own.node).text = own.text source := rfl
  have bound : go.binding = fun captures => .ok (binding captures) := rfl
  rw [bound, Except.ok.injEq, binding, module, own_name, Option.bind_eq_bind, Option.bind_some]
  simp only [target, text, List.isEmpty_iff, List.mem_pair]
  split
  · next empty => simp [empty]
  · next written =>
    split
    · next blank => simp [blank]
    · next clear =>
      rw [Option.some.injEq, and_iff_right written, and_iff_right clear, eq_comm]

theorem binding_plain {imported : Binding} :
    go.binding ((shownPlain spec path).captured source) = .ok (some imported) ↔
      pathOf source path ≠ [] ∧
        imported = ⟨String.ofList ((pathOf source path).rtakeWhile (· ≠ '/')),
          String.ofList (pathOf source path), Capture.ofNode source "import.module" path.node⟩ := by
  have module : ((shownPlain spec path).captured source).get? "import.module" =
      some (Capture.ofNode source "import.module" path.node) := by
    simp [Match.get?_captured_eq, shownPlain]
  have own_name : ((shownPlain spec path).captured source).get? "import.alias" = none := by
    simp [Match.get?_captured_eq, shownPlain]
  have target : Text.trimBoth isPathQuote
      (Capture.ofNode source "import.module" path.node).text.toList = pathOf source path := rfl
  have bound : go.binding = fun captures => .ok (binding captures) := rfl
  rw [bound, Except.ok.injEq, binding, module, own_name, Option.bind_eq_bind, Option.bind_some]
  simp only [target, List.isEmpty_iff, lastSegment_eq]
  split
  · next empty => simp [empty]
  · next written => rw [Option.some.injEq, and_iff_right written, eq_comm]

theorem last_shownNamed (child : tree.Child spec own) (before : own.index < path.index) :
    (shownNamed spec own path).last = path.index := by
  have behind := child.isParent.1
  simp only [shownNamed, Match.last, List.foldl_cons, List.foldl_nil]
  omega

theorem last_shownPlain (child : tree.Child spec path) :
    (shownPlain spec path).last = path.index := by
  have behind := child.isParent.1
  simp only [shownPlain, Match.last, List.foldl_cons, List.foldl_nil]
  omega

theorem readsImports (source : Bytes) (tree : Tree) :
    go.ReadsImports source tree (Binds source tree) where
  sound := by
    intro found finds imported bound
    obtain ⟨spec, path, kind, child, held, ⟨own, also_child, before, also_held, rfl⟩ |
      ⟨unnamed, rfl⟩⟩ := finds_iff.1 finds
    · obtain ⟨written, clear, rfl⟩ := binding_named.1 bound
      exact ⟨_, ⟨spec, .named ⟨kind, child, held, written⟩ also_child also_held before clear⟩,
        last_shownNamed also_child before, _, bound, _, rfl⟩
    · obtain ⟨written, rfl⟩ := binding_plain.1 bound
      exact ⟨_, ⟨spec, .plain ⟨kind, child, held, written⟩ unnamed⟩, last_shownPlain child, _,
        bound, _, rfl⟩
  complete := by
    rintro each ⟨spec, binds⟩
    cases binds with
    | named gives also_child also_held before clear =>
      exact ⟨_, finds_iff.2 ⟨_, _, gives.kind, gives.isChild, gives.field,
        .inl ⟨_, also_child, before, also_held, rfl⟩⟩, last_shownNamed also_child before, _,
        binding_named.2 ⟨gives.written, clear, rfl⟩, _, rfl⟩
    | plain gives unnamed =>
      exact ⟨_, finds_iff.2 ⟨_, _, gives.kind, gives.isChild, gives.field,
        .inr ⟨unnamed, rfl⟩⟩, last_shownPlain gives.isChild, _,
        binding_plain.2 ⟨gives.written, rfl⟩, _, rfl⟩

structure ImportsShaped (tree : Tree) : Prop where
  path : ∀ spec ∈ tree.places, spec.node.kind = "import_spec" →
    Tree.Single (fun node => node.field = some "path") spec.children
  name : tree.OneName "import_spec"

theorem SpecBinds.gives {each : Import} (binds : SpecBinds source tree spec each) :
    Gives source tree spec each.last := by
  cases binds with
  | named gives _ _ _ _ => exact gives
  | plain gives _ => exact gives

theorem SpecBinds.located {each : Import} (binds : SpecBinds source tree spec each) :
    tree.Child spec each.located ∧ each.located.index ≤ each.last.index := by
  cases binds with
  | named _ child _ before _ => exact ⟨child, Nat.le_of_lt before⟩
  | plain gives _ => exact ⟨gives.isChild, Nat.le_refl _⟩

theorem Binds.inside {each : Import} (binds : Binds source tree each) :
    each.located ∈ tree.places ∧
      ∃ field ∈ ["name", "path"], each.located.node.field = some field := by
  obtain ⟨spec, binds⟩ := binds
  cases binds with
  | named _ child held _ _ => exact ⟨child.below, "name", .head _, held⟩
  | plain gives _ => exact ⟨gives.isChild.below, "path", .tail _ (.head _), gives.field⟩

theorem SpecBinds.unique (shaped : ImportsShaped tree) {first second : Import}
    (here : SpecBinds source tree spec first) (there : SpecBinds source tree spec second) :
    first = second := by
  have one_path := shaped.path spec here.gives.isChild.above here.gives.kind
  have one_name := shaped.name spec here.gives.isChild.above here.gives.kind
  have same := one_path.unique here.gives.isChild there.gives.isChild
    (decide_eq_true here.gives.field) (decide_eq_true there.gives.field)
  cases here with
  | named _ child held _ _ =>
    cases there with
    | named _ also_child also_held _ _ =>
      obtain rfl := one_name.unique child also_child (decide_eq_true held)
        (decide_eq_true also_held)
      subst same
      rfl
    | plain _ unnamed => exact absurd held (unnamed _ child)
  | plain _ unnamed =>
    cases there with
    | named _ also_child also_held _ _ => exact absurd also_held (unnamed _ also_child)
    | plain _ _ =>
      subst same
      rfl

theorem distinct (shaped : ImportsShaped tree) : Import.Distinct (Binds source tree) where
  located := by
    rintro first second ⟨spec, here⟩ ⟨other, there⟩ same
    obtain rfl := here.located.1.unique (same ▸ there.located.1)
    exact here.unique shaped there
  last := by
    rintro first second ⟨spec, here⟩ ⟨other, there⟩ same
    have same := Tree.eq_of_index here.gives.isChild.below there.gives.isChild.below same
    obtain rfl := here.gives.isChild.unique (same ▸ there.gives.isChild)
    exact here.unique shaped there

/-- Where no spec stands below another one, the imports of two specs do not overlap. -/
theorem SpecBinds.before (flat : tree.Flat "import_spec") {other : Place} {first second : Import}
    (here : SpecBinds source tree spec first) (there : SpecBinds source tree other second)
    (less : spec.index < other.index) : first.last.index < second.located.index := by
  have inside := there.gives.isChild.above
  have apart : first.last.index < other.index := by
    by_contra overlap
    exact flat spec here.gives.isChild.above other inside here.gives.kind there.gives.kind
      (here.gives.isChild.above_of_le inside less (Nat.le_of_not_lt overlap))
  exact Nat.lt_trans apart there.located.1.isParent.1

theorem Binds.located_lt (shaped : ImportsShaped tree) (flat : tree.Flat "import_spec")
    {first second : Import} (here : Binds source tree first) (there : Binds source tree second)
    (less : first.last.index < second.last.index) : first.located.index < second.located.index := by
  obtain ⟨spec, here⟩ := here
  obtain ⟨other, there⟩ := there
  have upTo := here.located.2
  have also_upTo := there.located.2
  obtain before | same | behind := Nat.lt_trichotomy spec.index other.index
  · have apart := here.before flat there before
    omega
  · obtain rfl := Tree.eq_of_index here.gives.isChild.above there.gives.isChild.above same
    obtain rfl := here.unique shaped there
    omega
  · have apart := there.before flat here behind
    omega

end CodeNav.Grammar.Go
