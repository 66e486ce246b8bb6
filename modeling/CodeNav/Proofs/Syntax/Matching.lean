import CodeNav.Proofs.Matched
import CodeNav.Proofs.Syntax.Places
import CodeNav.Syntax.Query

/-! What a query matches. The matches that are listed are just those that satisfy a pattern of the
query, and each captures the nodes that its pattern names, in the order of the pattern. -/
namespace CodeNav.Syntax

theorem mem_choose_cons {here : Place → List Match} {later : List Place → List Match}
    {place : Place} {rest : List Place} {found : Match} :
    found ∈ choose here later (place :: rest) ↔
      (∃ first ∈ here place, ∃ more ∈ later rest, found = first.append more) ∨
        found ∈ choose here later rest := by
  rw [choose, List.mem_append, List.mem_flatMap]
  simp only [List.mem_map, eq_comm]

theorem satisfiedBelow_cons {pattern : Pattern} {others : List Pattern}
    {siblings rest : List Place} {place : Place} {found : Match} :
    SatisfiedBelow (pattern :: others) siblings (place :: rest) found ↔
      (∃ first more, pattern.test.sits siblings place = true ∧ pattern.Satisfied place first ∧
        SatisfiedBelow others siblings rest more ∧ found = first.append more) ∨
      SatisfiedBelow (pattern :: others) siblings rest found := by
  constructor
  · intro satisfied
    cases satisfied with
    | skip later => exact .inr later
    | take sits here later => exact .inl ⟨_, _, sits, here, later, rfl⟩
  · rintro (⟨first, more, sits, here, later, rfl⟩ | later)
    · exact .take sits here later
    · exact .skip later

mutual

/-- The matches at a place are the ways to satisfy the pattern there. -/
theorem Pattern.mem_matchesAt : (pattern : Pattern) → (place : Place) → (found : Match) →
    (found ∈ pattern.matchesAt place ↔ pattern.Satisfied place found)
  | .node test capture children, place, found => by
    have below := mem_matchesBelow children place.children place.children
    rw [Pattern.matchesAt]
    split
    · next holds =>
      simp only [List.mem_map, below]
      constructor
      · rintro ⟨under, satisfied, rfl⟩
        exact .node holds satisfied
      · rintro ⟨_, satisfied⟩
        exact ⟨_, satisfied, rfl⟩
    · next fails =>
      constructor
      · intro none_there
        cases none_there
      · rintro ⟨holds, _⟩
        exact absurd holds fails

theorem mem_matchesBelow : (patterns : List Pattern) → (siblings left : List Place) →
    (found : Match) →
    (found ∈ matchesBelow patterns siblings left ↔ SatisfiedBelow patterns siblings left found)
  | [], siblings, left, found => by
    rw [matchesBelow, List.mem_singleton]
    constructor
    · rintro rfl
      exact .nil
    · rintro ⟨⟩
      rfl
  | pattern :: others, siblings, left, found => by
    have here := pattern.mem_matchesAt
    have later := mem_matchesBelow others siblings
    rw [matchesBelow]
    -- The induction is on the places that are left; for fewer patterns the fact is known.
    induction left with
    | nil =>
      constructor
      · intro none_left
        cases none_left
      · rintro ⟨⟩
    | cons place rest ih =>
      rw [mem_choose_cons, satisfiedBelow_cons]
      refine or_congr ?_ ih
      simp only [List.mem_ite_nil_right, here, later]
      constructor
      · rintro ⟨first, ⟨sits, taken⟩, more, behind, rfl⟩
        exact ⟨first, more, sits, taken, behind, rfl⟩
      · rintro ⟨first, more, sits, taken, behind, rfl⟩
        exact ⟨first, ⟨sits, taken⟩, more, behind, rfl⟩

end

mutual

def Pattern.sites : Pattern → List (String × NodeTest)
  | .node test capture children => (capture.map (·, test)).toList ++ sitesBelow children

def sitesBelow : List Pattern → List (String × NodeTest)
  | [] => []
  | pattern :: others => pattern.sites ++ sitesBelow others

end

structure Takes (among : Place → Prop) (site : String × NodeTest) (entry : String × Node) :
    Prop where
  label : site.1 = entry.1
  node : ∃ place, among place ∧ site.2.holds place = true ∧ place.node = entry.2

variable {among : Place → Prop}

mutual

/-- A match captures one node for each site of its pattern, among whatever places hold their own
children. -/
theorem Pattern.Satisfied.takes (closed : ∀ place, among place → ∀ child ∈ place.children,
    among child) : {pattern : Pattern} → {place : Place} → {found : Match} →
    pattern.Satisfied place found → among place →
      List.Forall₂ (Takes among) pattern.sites found.captures
  | .node test capture children, place, _, .node holds below, inside => by
    have later := below.takes closed (closed place inside)
    cases capture with
    | none => exact later
    | some name => exact .cons ⟨rfl, place, inside, holds, rfl⟩ later

theorem SatisfiedBelow.takes (closed : ∀ place, among place → ∀ child ∈ place.children,
    among child) : {patterns : List Pattern} → {siblings left : List Place} → {found : Match} →
    SatisfiedBelow patterns siblings left found → (∀ place ∈ left, among place) →
      List.Forall₂ (Takes among) (sitesBelow patterns) found.captures
  | _, _, _, _, .nil, _ => .nil
  | _, _, _, _, .skip later, inside =>
    later.takes closed fun place member => inside place (List.mem_cons_of_mem _ member)
  | _, _, _, _, .take _ here later, inside =>
    List.rel_append (here.takes closed (inside _ List.mem_cons_self))
      (later.takes closed fun place member => inside place (List.mem_cons_of_mem _ member))

end

namespace Query

variable {query : Query} {tree : Tree} {found : Match} {name : String} {node : Node}

def Finds (query : Query) (tree : Tree) (found : Match) : Prop :=
  ∃ pattern ∈ query.rules.flatten, ∃ place ∈ tree.places, pattern.Satisfied place found

theorem exists_mem_allMatches :
    (∃ ranked ∈ query.allMatches tree, ranked.found = found) ↔ query.Finds tree found := by
  simp only [allMatches, List.mem_flatMap, matchesOf, List.mem_map, Pattern.mem_matchesAt, Finds,
    List.mem_flatten]
  constructor
  · rintro ⟨_, ⟨rule, ranked, place, inside, pattern, member, _, satisfied, rfl⟩, rfl⟩
    exact ⟨pattern, ⟨rule.1, List.fst_mem_of_mem_zipIdx ranked, member⟩, place, inside, satisfied⟩
  · rintro ⟨pattern, ⟨alternatives, rule, member⟩, place, inside, satisfied⟩
    obtain ⟨number, at_number⟩ := List.mem_iff_getElem?.1 rule
    exact ⟨⟨number, found⟩, ⟨(alternatives, number), List.mk_mem_zipIdx_iff_getElem?.2 at_number,
      place, inside, pattern, member, found, satisfied, rfl⟩, rfl⟩

theorem mem_run : found ∈ query.run tree ↔ query.Finds tree found := by
  rw [run, List.mem_map, ← exists_mem_allMatches]
  simp only [List.mem_mergeSort]

def CapturesAs (query : Query) (tree : Tree) (name : String) (node : Node) : Prop :=
  ∃ found, query.Finds tree found ∧ (name, node) ∈ found.captures

theorem exists_capturesAs (holds : String → Node → Prop) :
    (∃ name node, query.CapturesAs tree name node ∧ holds name node) ↔
      ∃ ranked ∈ query.allMatches tree, ∃ entry ∈ ranked.found.captures, holds entry.1 entry.2 := by
  simp only [CapturesAs, ← exists_mem_allMatches, Prod.exists]
  constructor
  · rintro ⟨name, node, ⟨_, ⟨ranked, member, rfl⟩, captured⟩, here⟩
    exact ⟨ranked, member, name, node, captured, here⟩
  · rintro ⟨ranked, member, name, node, captured, here⟩
    exact ⟨name, node, ⟨ranked.found, ⟨ranked, member, rfl⟩, captured⟩, here⟩

def Distinct (query : Query) : Prop :=
  ∀ pattern ∈ query.rules.flatten, (pattern.sites.map Prod.fst).Nodup

instance (query : Query) : Decidable query.Distinct :=
  inferInstanceAs (Decidable (∀ pattern ∈ query.rules.flatten, (pattern.sites.map Prod.fst).Nodup))

theorem Finds.takes (finds : query.Finds tree found) : ∃ pattern ∈ query.rules.flatten,
    List.Forall₂ (Takes (· ∈ tree.places)) pattern.sites found.captures := by
  obtain ⟨pattern, member, place, inside, satisfied⟩ := finds
  exact ⟨pattern, member, satisfied.takes (fun _ inside _ => Tree.children_subset inside) inside⟩

theorem map_fst_of_takes {among : Place → Prop} {sites : List (String × NodeTest)}
    {entries : List (String × Node)} (taken : List.Forall₂ (Takes among) sites entries) :
    entries.map Prod.fst = sites.map Prod.fst := by
  induction taken with
  | nil => rfl
  | cons here _ ih => rw [List.map_cons, List.map_cons, here.label, ih]

theorem Finds.nodup (distinct : query.Distinct) (finds : query.Finds tree found) :
    (found.captures.map Prod.fst).Nodup := by
  obtain ⟨pattern, member, taken⟩ := finds.takes
  rw [map_fst_of_takes taken]
  exact distinct pattern member

theorem CapturesAs.mem_nodes (captured : query.CapturesAs tree name node) : node ∈ tree.nodes := by
  obtain ⟨found, finds, member⟩ := captured
  obtain ⟨pattern, _, taken⟩ := finds.takes
  obtain ⟨site, _, _, place, inside, _, rfl⟩ := exists_of_forall₂_right taken member
  exact Tree.mem_nodes inside

end Query
end CodeNav.Syntax
