import CodeNav.Grammar.Python
import CodeNav.Proofs.Grammar.Import
import CodeNav.Proofs.Syntax.Holding
import CodeNav.Proofs.Syntax.Parts

/-! The imports of Python: modules, and names from modules, each with a name of its own or without
one. Of a statement with several of them each is an import by itself. -/
namespace CodeNav.Grammar.Python

open Syntax Pattern
open CodeNav.Text.Utf8 (Bytes)

inductive Item (tree : Tree) (item : Place) : Place → Option Place → Prop where
  | plain : item.node.kind = "dotted_name" → Item tree item item none
  | renamed {name own : Place} : tree.Holds "aliased_import" "name" "dotted_name" item name →
      tree.Holds "aliased_import" "alias" "identifier" item own → name.index < own.index →
      Item tree item name (some own)

def firstPart (module : String) : String := String.ofList (module.toList.takeWhile (· ≠ '.'))

def within (module name : String) : String :=
  module ++ (if module.toList.getLast? = some '.' then "" else ".") ++ name

def ofModule (source : Bytes) (name : Place) (own : Option Place) : Import where
  localName := (own.map (·.text source)).getD (firstPart (name.text source))
  target := name.text source
  located := own.getD name
  last := own.getD name

def ofName (source : Bytes) (origin name : Place) (own : Option Place) : Import where
  localName := (own.getD name).text source
  target := within (origin.text source) (name.text source)
  located := own.getD name
  last := own.getD name

structure Lists (tree : Tree) (kind : String) (statement item name : Place) (own : Option Place) :
    Prop where
  kind : statement.node.kind = kind
  isChild : tree.Child statement item
  field : item.node.field = some "name"
  item : Item tree item name own

inductive Binds (source : Bytes) (tree : Tree) : Import → Prop where
  | module {statement item name : Place} {own : Option Place} :
      Lists tree "import_statement" statement item name own →
      Binds source tree (ofModule source name own)
  | name {statement origin item name : Place} {own : Option Place} :
      Lists tree "import_from_statement" statement item name own →
      tree.Child statement origin → origin.node.field = some "module_name" →
      origin.index < item.index → Binds source tree (ofName source origin name own)

variable {source : Bytes} {tree : Tree} {statement origin item name : Place} {own : Option Place}
  {siblings : List Place} {found : Match} {label : String}

def shown (label : String) (item name : Place) (own : Option Place) : Match :=
  match own with
  | none => ⟨[item.index], [(label, name.node)]⟩
  | some own => ⟨[item.index, name.index, own.index],
      [(label, name.node), ("import.alias", own.node)]⟩

theorem satisfiedAmong_renamed (inside : item ∈ tree.places) :
    SatisfiedAmong siblings (renamed label) item found ↔ item.node.field = some "name" ∧
      ∃ name own, tree.Holds "aliased_import" "name" "dotted_name" item name ∧
        tree.Holds "aliased_import" "alias" "identifier" item own ∧ name.index < own.index ∧
          found = shown label item name (some own) := by
  rw [renamed, satisfiedAmong_inField rfl, Tree.satisfied_two inside]
  refine and_congr_right fun _ => ?_
  simp only [dottedName, satisfiedAmong_leaf]
  constructor
  · rintro ⟨kind, name, own, child, also_child, before, _, _, ⟨held, named, rfl⟩,
      ⟨also_held, also_named, rfl⟩, rfl⟩
    exact ⟨name, own, ⟨child, kind, held, named⟩, ⟨also_child, kind, also_held, also_named⟩,
      before, rfl⟩
  · rintro ⟨name, own, holds, also_holds, before, rfl⟩
    exact ⟨holds.kind, name, own, holds.isChild, also_holds.isChild, before, _, _,
      ⟨holds.field, holds.childKind, rfl⟩, ⟨also_holds.field, also_holds.childKind, rfl⟩, rfl⟩

theorem exists_satisfiedAmong (inside : item ∈ tree.places) :
    (∃ pattern ∈ [dottedName label, renamed label],
        SatisfiedAmong siblings pattern item found) ↔
      item.node.field = some "name" ∧
        ∃ name own, Item tree item name own ∧ found = shown label item name own := by
  simp only [List.exists_mem_cons_iff, List.not_mem_nil, false_and, exists_false, or_false,
    satisfiedAmong_renamed inside]
  rw [dottedName, satisfiedAmong_leaf, ← and_or_left]
  refine and_congr_right fun _ => ?_
  constructor
  · rintro (⟨kind, rfl⟩ | ⟨name, own, holds, also_holds, before, rfl⟩)
    · exact ⟨item, none, .plain kind, rfl⟩
    · exact ⟨name, some own, .renamed holds also_holds before, rfl⟩
  · rintro ⟨name, own, read, rfl⟩
    cases read with
    | plain kind => exact .inl ⟨kind, rfl⟩
    | renamed holds also_holds before => exact .inr ⟨_, _, holds, also_holds, before, rfl⟩

def moduleImport (item : Pattern) : Pattern :=
  ofKind "import_statement" [item] |>.captured "import.stmt"

def nameImport (item : Pattern) : Pattern :=
  ofKind "import_from_statement" [fromModule, item] |>.captured "import.stmt"

def shownFrom (origin item name : Place) (own : Option Place) : Match :=
  Match.append ⟨[origin.index], [("import.module", origin.node)]⟩
    (shown "import.name" item name own)

theorem exists_satisfied_moduleImport (inside : statement ∈ tree.places) :
    (∃ pattern ∈ [dottedName label, renamed label],
        (moduleImport pattern).Satisfied statement found) ↔
      ∃ item name own, Lists tree "import_statement" statement item name own ∧
        found = (shown label item name own).under statement (some "import.stmt") := by
  simp only [moduleImport, Tree.satisfied_whole_one inside]
  constructor
  · rintro ⟨pattern, listed, kind, item, below, child, here, rfl⟩
    obtain ⟨held, name, own, read, rfl⟩ :=
      (exists_satisfiedAmong child.below).1 ⟨pattern, listed, here⟩
    exact ⟨item, name, own, ⟨kind, child, held, read⟩, rfl⟩
  · rintro ⟨item, name, own, ⟨kind, child, held, read⟩, rfl⟩
    obtain ⟨pattern, listed, here⟩ :=
      (exists_satisfiedAmong child.below).2 ⟨held, name, own, read, rfl⟩
    exact ⟨pattern, listed, kind, item, _, child, here, rfl⟩

theorem exists_satisfied_nameImport (inside : statement ∈ tree.places) :
    (∃ pattern ∈ [dottedName "import.name", renamed "import.name"],
        (nameImport pattern).Satisfied statement found) ↔
      ∃ origin item name own, Lists tree "import_from_statement" statement item name own ∧
        tree.Child statement origin ∧ origin.node.field = some "module_name" ∧
          origin.index < item.index ∧
            found = (shownFrom origin item name own).under statement (some "import.stmt") := by
  simp only [nameImport, fromModule, Tree.satisfied_whole_two inside, satisfiedAmong_any]
  constructor
  · rintro ⟨pattern, listed, kind, origin, item, also_child, child, before, _, below,
      ⟨also_held, rfl⟩, here, rfl⟩
    obtain ⟨held, name, own, read, rfl⟩ :=
      (exists_satisfiedAmong child.below).1 ⟨pattern, listed, here⟩
    exact ⟨origin, item, name, own, ⟨kind, child, held, read⟩, also_child, also_held, before, rfl⟩
  · rintro ⟨origin, item, name, own, ⟨kind, child, held, read⟩, also_child, also_held, before, rfl⟩
    obtain ⟨pattern, listed, here⟩ :=
      (exists_satisfiedAmong child.below).2 ⟨held, name, own, read, rfl⟩
    exact ⟨pattern, listed, kind, origin, item, also_child, child, before, _, _,
      ⟨also_held, rfl⟩, here, rfl⟩

theorem finds_iff : imports.Finds tree found ↔
    (∃ statement item name own, Lists tree "import_statement" statement item name own ∧
      found = (shown "import.module" item name own).under statement (some "import.stmt")) ∨
    ∃ statement origin item name own,
      Lists tree "import_from_statement" statement item name own ∧
        tree.Child statement origin ∧ origin.node.field = some "module_name" ∧
          origin.index < item.index ∧
            found = (shownFrom origin item name own).under statement (some "import.stmt") := by
  have rules : imports.rules.flatten =
      [dottedName "import.module", renamed "import.module"].map moduleImport ++
        [dottedName "import.name", renamed "import.name"].map nameImport := rfl
  rw [Query.Finds, rules]
  simp only [List.mem_append, or_and_right, exists_or]
  refine or_congr ?_ ?_
  · constructor
    · rintro ⟨_, listed, statement, inside, satisfied⟩
      obtain ⟨pattern, known, rfl⟩ := List.mem_map.1 listed
      exact ⟨statement, (exists_satisfied_moduleImport inside).1 ⟨pattern, known, satisfied⟩⟩
    · rintro ⟨statement, item, name, own, lists, shows⟩
      have inside := lists.isChild.above
      obtain ⟨pattern, known, satisfied⟩ :=
        (exists_satisfied_moduleImport inside).2 ⟨item, name, own, lists, shows⟩
      exact ⟨_, List.mem_map_of_mem known, statement, inside, satisfied⟩
  · constructor
    · rintro ⟨_, listed, statement, inside, satisfied⟩
      obtain ⟨pattern, known, rfl⟩ := List.mem_map.1 listed
      exact ⟨statement, (exists_satisfied_nameImport inside).1 ⟨pattern, known, satisfied⟩⟩
    · rintro ⟨statement, origin, item, name, own, lists, shows⟩
      have inside := lists.isChild.above
      obtain ⟨pattern, known, satisfied⟩ :=
        (exists_satisfied_nameImport inside).2 ⟨origin, item, name, own, lists, shows⟩
      exact ⟨_, List.mem_map_of_mem known, statement, inside, satisfied⟩

theorem Item.upTo (read : Item tree item name own) : item.index ≤ (own.getD name).index := by
  cases read with
  | plain _ => exact Nat.le_refl _
  | renamed _ holds _ => exact Nat.le_of_lt holds.isChild.isParent.1

theorem Item.last_shown (read : Item tree item name own) :
    (shown label item name own).last = (own.getD name).index := by
  cases read with
  | plain _ => exact Nat.zero_max _
  | renamed holds _ before =>
    have inner := holds.isChild.isParent.1
    simp only [shown, Match.last, List.foldl_cons, List.foldl_nil, Option.getD_some]
    omega

theorem Lists.last {kind : String} (lists : Lists tree kind statement item name own) :
    ((shown label item name own).under statement (some "import.stmt")).last =
      (own.getD name).index := by
  have before := lists.isChild.isParent.1
  have upTo := lists.item.upTo
  rw [Match.last_under, lists.item.last_shown]
  omega

structure Shows (source : Bytes) (captures : Captures) (module : Place) (name own : Option Place) :
    Prop where
  module : captures.get? "import.module" =
    some (Capture.ofNode source "import.module" module.node)
  name : captures.get? "import.name" =
    name.map fun name => Capture.ofNode source "import.name" name.node
  own : captures.get? "import.alias" =
    own.map fun own => Capture.ofNode source "import.alias" own.node

theorem shows_module (source : Bytes) (statement item name : Place) (own : Option Place) :
    Shows source (((shown "import.module" item name own).under statement
      (some "import.stmt")).captured source) name none own := by
  cases own with
  | none => constructor <;> simp [Match.get?_captured_eq, Match.under, shown]
  | some own => constructor <;> simp [Match.get?_captured_eq, Match.under, shown]

theorem shows_name (source : Bytes) (statement origin item name : Place) (own : Option Place) :
    Shows source (((shownFrom origin item name own).under statement
      (some "import.stmt")).captured source) origin (some name) own := by
  cases own with
  | none =>
    constructor <;> simp [Match.get?_captured_eq, Match.under, Match.append, shownFrom, shown]
  | some own =>
    constructor <;> simp [Match.get?_captured_eq, Match.under, Match.append, shownFrom, shown]

theorem Shows.binds {captures : Captures} {origin : Place} {name own : Option Place}
    (shows : Shows source captures origin name own) :
    ∃ imported, python.binding captures = .ok (some imported) ∧
      (name.elim (ofModule source origin own) fun name => ofName source origin name own).Binds
        source imported := by
  obtain ⟨module, named, own_name⟩ := shows
  have bound : python.binding captures = .ok (binding captures) := rfl
  rw [bound, binding, module, named, own_name]
  cases own with
  | none => cases name <;> exact ⟨_, rfl, _, rfl⟩
  | some own => cases name <;> exact ⟨_, rfl, "import.alias", rfl⟩

theorem shownBy_ofModule (lists : Lists tree "import_statement" statement item name own) :
    (ofModule source name own).ShownBy python source
      ((shown "import.module" item name own).under statement (some "import.stmt")) where
  last := lists.last
  binds := (shows_module source statement item name own).binds

theorem shownBy_ofName (lists : Lists tree "import_from_statement" statement item name own)
    (child : tree.Child statement origin) (before : origin.index < item.index) :
    (ofName source origin name own).ShownBy python source
      ((shownFrom origin item name own).under statement (some "import.stmt")) where
  last := by
    have behind := child.isParent.1
    have upTo := lists.item.upTo
    have first : Match.last ⟨[origin.index], [("import.module", origin.node)]⟩ = origin.index :=
      Nat.zero_max _
    rw [Match.last_under, shownFrom, Match.last_append, lists.item.last_shown, first]
    dsimp only [ofName]
    omega
  binds := (shows_name source statement origin item name own).binds

theorem readsImports (source : Bytes) (tree : Tree) :
    python.ReadsImports source tree (Binds source tree) where
  sound := by
    intro found finds imported bound
    rcases finds_iff.1 finds with ⟨statement, item, name, own, lists, rfl⟩ |
      ⟨statement, origin, item, name, own, lists, child, held, before, rfl⟩
    · exact ⟨_, .module lists, shownBy_ofModule lists⟩
    · exact ⟨_, .name lists child held before, shownBy_ofName lists child before⟩
  complete := by
    intro each binds
    cases binds with
    | module lists =>
      exact ⟨_, finds_iff.2 (.inl ⟨_, _, _, _, lists, rfl⟩), shownBy_ofModule lists⟩
    | name lists child held before =>
      exact ⟨_, finds_iff.2 (.inr ⟨_, _, _, _, _, lists, child, held, before, rfl⟩),
        shownBy_ofName lists child before⟩

structure ImportsShaped (tree : Tree) : Prop where
  origin : ∀ statement ∈ tree.places, statement.node.kind = "import_from_statement" →
    Tree.Single (fun node => node.field = some "module_name") statement.children
  name : tree.OneName "aliased_import"
  own : ∀ item ∈ tree.places, item.node.kind = "aliased_import" →
    Tree.Single (fun node => node.field = some "alias") item.children

theorem Lists.unique (shaped : ImportsShaped tree) {kind otherKind : String}
    {other another otherName : Place} {otherOwn : Option Place}
    (first : Lists tree kind statement item name own)
    (second : Lists tree otherKind other another otherName otherOwn)
    (kinds : kind ≠ "aliased_import") (also_kinds : otherKind ≠ "aliased_import")
    (same : own.getD name = otherOwn.getD otherName) :
    statement = other ∧ item = another ∧ name = otherName ∧ own = otherOwn := by
  obtain ⟨known, child, -, read⟩ := first
  obtain ⟨also_known, also_child, -, also_read⟩ := second
  cases read with
  | plain _ =>
    cases also_read with
    | plain _ =>
      have same : item = another := same
      subst same
      exact ⟨child.unique also_child, rfl, rfl, rfl⟩
    | renamed _ holds _ =>
      have same : item = _ := same
      subst same
      obtain rfl := child.unique holds.isChild
      exact absurd (known.symm.trans holds.kind) kinds
  | renamed holds own_holds _ =>
    cases also_read with
    | plain _ =>
      have same : _ = another := same
      subst same
      obtain rfl := also_child.unique own_holds.isChild
      exact absurd (also_known.symm.trans own_holds.kind) also_kinds
    | renamed also_holds also_own_holds _ =>
      have same : _ = _ := same
      subst same
      obtain rfl := own_holds.unique_parent also_own_holds
      obtain rfl := shaped.name.unique holds also_holds
      exact ⟨child.unique also_child, rfl, rfl, rfl⟩

theorem Binds.unique (shaped : ImportsShaped tree) {first second : Import}
    (here : Binds source tree first) (there : Binds source tree second)
    (same : first.located = second.located) : first = second := by
  cases here with
  | module lists =>
    cases there with
    | module also_lists =>
      obtain ⟨-, -, rfl, rfl⟩ := lists.unique shaped also_lists (by decide) (by decide) same
      rfl
    | name also_lists _ _ _ =>
      obtain ⟨rfl, -⟩ := lists.unique shaped also_lists (by decide) (by decide) same
      exact absurd (lists.kind.symm.trans also_lists.kind) (by decide)
  | name lists child held _ =>
    cases there with
    | module also_lists =>
      obtain ⟨rfl, -⟩ := lists.unique shaped also_lists (by decide) (by decide) same
      exact absurd (lists.kind.symm.trans also_lists.kind) (by decide)
    | name also_lists also_child also_held _ =>
      obtain ⟨rfl, -, rfl, rfl⟩ := lists.unique shaped also_lists (by decide) (by decide) same
      obtain rfl := (shaped.origin _ child.above lists.kind).unique child also_child
        (decide_eq_true held) (decide_eq_true also_held)
      rfl

theorem Lists.inside {kind : String} (lists : Lists tree kind statement item name own) :
    own.getD name ∈ tree.places ∧
      ∃ field ∈ ["name", "alias"], (own.getD name).node.field = some field := by
  obtain ⟨-, child, held, read⟩ := lists
  cases read with
  | plain _ => exact ⟨child.below, "name", .head _, held⟩
  | renamed _ holds _ => exact ⟨holds.isChild.below, "alias", .tail _ (.head _), holds.field⟩

theorem Binds.inside {each : Import} (binds : Binds source tree each) :
    each.located ∈ tree.places ∧
      ∃ field ∈ ["name", "alias"], each.located.node.field = some field := by
  cases binds with
  | module lists => exact lists.inside
  | name lists _ _ _ => exact lists.inside

theorem Binds.last_eq {each : Import} (binds : Binds source tree each) :
    each.last = each.located := by
  cases binds with
  | module _ => rfl
  | name _ _ _ _ => rfl

theorem distinct (shaped : ImportsShaped tree) : Import.Distinct (Binds source tree) where
  located _ _ := Binds.unique shaped
  last := by
    intro first second here there same
    rw [here.last_eq, there.last_eq] at same
    exact here.unique shaped there (Tree.eq_of_index here.inside.1 there.inside.1 same)

end CodeNav.Grammar.Python
