import CodeNav.Proofs.Grammar.Names

/-! The query for references has one match for each node that is a name, in document order, and of
these a survey notes just the uses. -/
namespace CodeNav.Grammar

open Syntax
open CodeNav.Text.Utf8 (Bytes)

theorem flatMap_ite {α β : Type} (holds : α → Prop) [DecidablePred holds] (value : α → β)
    (items : List α) :
    items.flatMap (fun item => if holds item then [value item] else []) =
      (items.filter holds).map value := by
  induction items with
  | nil => rfl
  | cons item rest ih =>
    rw [List.flatMap_cons, ih, List.filter_cons]
    by_cases here : holds item
    · simp [here]
    · simp [here]

def nameMatch (place : Place) : Match := ⟨[place.index], [("ref", place.node)]⟩

theorem matchesAt_name (kind : String) (place : Place) :
    ((Pattern.ofKind kind []).captured "ref").matchesAt place =
      if kind = place.node.kind then [nameMatch place] else [] := by
  have holds : NodeTest.holds { kind := some kind } place = decide (kind = place.node.kind) := by
    simp [NodeTest.holds]
  rw [Pattern.ofKind, Pattern.captured, Pattern.matchesAt, holds, matchesBelow]
  by_cases same : kind = place.node.kind
  · rw [if_pos same, if_pos (decide_eq_true same)]
    rfl
  · rw [if_neg same, if_neg (by simpa using same)]

theorem matchesOf_names {kinds : List String} (distinct : kinds.Nodup) (rule : Nat)
    (place : Place) :
    Query.matchesOf rule (kinds.map fun kind => (Pattern.ofKind kind []).captured "ref") place =
      if place.node.kind ∈ kinds then [⟨rule, nameMatch place⟩] else [] := by
  have each (kind : String) : (((Pattern.ofKind kind []).captured "ref").matchesAt place).map
      (Query.Ranked.mk rule) =
        if kind = place.node.kind then [⟨rule, nameMatch place⟩] else [] := by
    rw [matchesAt_name]
    split
    · rfl
    · rfl
  rw [Query.matchesOf, List.flatMap_map]
  simp only [each]
  rw [flatMap_ite (· = place.node.kind) fun _ => (⟨rule, nameMatch place⟩ : Query.Ranked)]
  rw [List.filter_eq, List.map_replicate]
  by_cases known : place.node.kind ∈ kinds
  · rw [List.count_eq_one_of_mem distinct known, if_pos known, List.replicate_one]
  · rw [List.count_eq_zero.2 known, if_neg known, List.replicate_zero]

theorem keyUpTo_of_lt {first second : Place} (before : first.index < second.index) :
    Query.keyUpTo (Query.Ranked.key ⟨0, nameMatch first⟩)
      (Query.Ranked.key ⟨0, nameMatch second⟩) = true := by
  have last (place : Place) : (nameMatch place).last = place.index := Nat.zero_max _
  rw [Query.Ranked.key, Query.Ranked.key]
  dsimp only [nameMatch] at last ⊢
  rw [last, last, Query.keyUpTo]
  simp [before]

theorem run_namesOf {kinds : List String} (distinct : kinds.Nodup) (tree : Tree) :
    (namesOf kinds).run tree =
      (tree.places.filter fun place => place.node.kind ∈ kinds).map nameMatch := by
  have listed : (namesOf kinds).allMatches tree =
      (tree.places.filter fun place => place.node.kind ∈ kinds).map
        fun place => ⟨0, nameMatch place⟩ := by
    rw [namesOf, Query.allMatches, List.zipIdx_singleton, List.flatMap_singleton]
    rw [funext (matchesOf_names distinct 0)]
    exact flatMap_ite (fun place : Place => place.node.kind ∈ kinds)
      (fun place => (⟨0, nameMatch place⟩ : Query.Ranked)) tree.places
  -- The matches are listed place by place, so they stand in the order of their keys already.
  rw [Query.run, listed, List.mergeSort_of_pairwise, List.map_map]
  · rfl
  · rw [List.pairwise_map]
    exact ((Tree.pairwise_places tree).filter _).imp keyUpTo_of_lt

variable {grammar : Grammar} {kinds : List String}

theorem references_captures (names : NameKinds grammar kinds) (source : Bytes) (tree : Tree) :
    (grammar.references.captures source tree).filterMap (fun captures => captures.get? "ref") =
      (tree.places.filter fun place => place.node.kind ∈ kinds).map
        fun place => Capture.ofNode source "ref" place.node := by
  have each (place : Place) : ((nameMatch place).captured source).get? "ref" =
      some (Capture.ofNode source "ref" place.node) := rfl
  rw [names.references_eq, Query.captures, run_namesOf names.nodup, List.map_map,
    List.filterMap_map]
  simp only [Function.comp_def, each]
  exact congrFun List.filterMap_eq_map' _

theorem isUse_iff (names : NameKinds grammar kinds) {source : Bytes} {tree : Tree}
    {capture : Capture} :
    Survey.isUse (Survey.namesOf (grammar.definitions.captures source tree))
        (Survey.statementSpans (grammar.imports.captures source tree)) capture = true ↔
      ¬ grammar.Defines source tree capture.span ∧
        ¬ ∃ statement, grammar.imports.CapturesAs tree "import.stmt" statement ∧
          statement.start ≤ capture.start ∧ capture.stop ≤ statement.stop := by
  rw [Survey.isUse, Bool.and_eq_true, Bool.not_eq_true', Bool.not_eq_true', ← Bool.not_eq_true,
    ← Bool.not_eq_true, Table.contains_iff, ← Survey.mem_spansOf, mem_spansOf_iff names,
    List.any_eq_true]
  simp only [mem_statementSpans names, Bool.and_eq_true, decide_eq_true_eq]
  refine and_congr_right fun _ => not_congr ?_
  constructor
  · rintro ⟨_, ⟨statement, captured, rfl⟩, within⟩
    exact ⟨statement, captured, within⟩
  · rintro ⟨statement, captured, within⟩
    exact ⟨_, ⟨statement, captured, rfl⟩, within⟩

theorem usesOf_eq (names : NameKinds grammar kinds) (source : Bytes) (tree : Tree) :
    Survey.usesOf (Survey.namesOf (grammar.definitions.captures source tree))
        (Survey.statementSpans (grammar.imports.captures source tree))
        (grammar.references.captures source tree) =
      (grammar.uses kinds source tree).map fun place => Capture.ofNode source "ref" place.node := by
  rw [Survey.usesOf, references_captures names, List.filter_map, List.filter_filter, uses]
  congr 1
  apply List.filter_congr
  intro place _
  rw [Bool.eq_iff_iff, Bool.and_eq_true, Function.comp_apply, isUse_iff names, decide_eq_true_eq,
    decide_eq_true_eq, and_comm]
  rfl

end CodeNav.Grammar
