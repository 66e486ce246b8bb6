import CodeNav.Proofs.Syntax.Capture
import CodeNav.Proofs.Syntax.Matching

/-! The captures of a match whose pattern gives every name once: the table has what the match
captured, name by name. -/
namespace CodeNav.Syntax

open CodeNav.Text.Utf8 (Bytes)

namespace Match

theorem entries_captured (source : Bytes) {found : Match}
    (distinct : (found.captures.map Prod.fst).Nodup) :
    (found.captured source).entries =
      found.captures.map fun entry => (entry.1, Capture.ofNode source entry.1 entry.2) := by
  have adds (entries : List (String × Node)) (captures : Captures)
      (distinct : (entries.map Prod.fst).Nodup)
      (absent : ∀ entry ∈ entries, entry.1 ∉ captures.keys) :
      entries.foldl (fun captures entry => if captures.contains entry.1 then captures
        else captures.insert entry.1 (Capture.ofNode source entry.1 entry.2)) captures =
      (entries.map fun entry => (entry.1, Capture.ofNode source entry.1 entry.2)).foldl
        (fun table entry => table.insert entry.1 entry.2) captures := by
    induction entries generalizing captures with
    | nil => rfl
    | cons entry rest ih =>
      rw [List.map_cons, List.nodup_cons] at distinct
      have fresh := absent entry List.mem_cons_self
      rw [← Table.contains_iff] at fresh
      rw [List.foldl_cons, List.map_cons, List.foldl_cons, if_neg fresh, ih _ distinct.2]
      -- What was just written is under a name that does not come again.
      intro other member known
      rcases Table.mem_keys_insert.1 known with same | before
      · exact distinct.1 (same ▸ List.mem_map_of_mem member)
      · exact absent other (List.mem_cons_of_mem _ member) before
  rw [captured, adds _ _ distinct fun _ _ known => (List.not_mem_nil known).elim,
    Table.entries_foldl_insert _ fun _ _ known => (List.not_mem_nil known).elim]
  · rfl
  · rwa [List.map_map]

theorem get?_captured_eq (source : Bytes) (found : Match) (name : String) :
    (found.captured source).get? name =
      (found.captures.find? fun entry => entry.1 = name).map fun entry =>
        Capture.ofNode source entry.1 entry.2 := by
  have adds (entries : List (String × Node)) (captures : Captures) :
      (entries.foldl (fun captures entry => if captures.contains entry.1 then captures
        else captures.insert entry.1 (Capture.ofNode source entry.1 entry.2)) captures).get? name =
      (captures.get? name).or ((entries.find? fun entry => entry.1 = name).map fun entry =>
        Capture.ofNode source entry.1 entry.2) := by
    induction entries generalizing captures with
    | nil => simp
    | cons entry rest ih =>
      rw [List.foldl_cons, ih, Table.get?_insert_missing, Option.or_assoc, List.find?_cons]
      by_cases same : entry.1 = name
      · simp [same]
      · simp [same]
  rw [captured, adds, Table.get?_empty, Option.none_or]

theorem values_captured (source : Bytes) {found : Match}
    (distinct : (found.captures.map Prod.fst).Nodup) :
    (found.captured source).values =
      found.captures.map fun entry => Capture.ofNode source entry.1 entry.2 := by
  rw [Table.values, entries_captured source distinct, List.map_map]
  rfl

theorem get?_captured (source : Bytes) {found : Match}
    (distinct : (found.captures.map Prod.fst).Nodup) {name : String} {capture : Capture} :
    (found.captured source).get? name = some capture ↔
      ∃ node, (name, node) ∈ found.captures ∧ capture = Capture.ofNode source name node := by
  rw [Table.get?_eq_some, entries_captured source distinct, List.mem_map]
  simp only [Prod.mk.injEq, Prod.exists]
  constructor
  · rintro ⟨_, node, member, rfl, rfl⟩
    exact ⟨node, member, rfl⟩
  · rintro ⟨node, member, rfl⟩
    exact ⟨name, node, member, rfl, rfl⟩

end Match

namespace Query

variable {query : Query} {source : Bytes} {tree : Tree}

theorem exists_captures_get? (distinct : query.Distinct) {name : String} {capture : Capture} :
    (∃ captures ∈ query.captures source tree, captures.get? name = some capture) ↔
      ∃ node, query.CapturesAs tree name node ∧ capture = Capture.ofNode source name node := by
  constructor
  · rintro ⟨captures, member, stored⟩
    obtain ⟨found, matched, rfl⟩ := List.mem_map.1 member
    have finds := mem_run.1 matched
    obtain ⟨node, here, rfl⟩ := (Match.get?_captured source (finds.nodup distinct)).1 stored
    exact ⟨node, ⟨found, finds, here⟩, rfl⟩
  · rintro ⟨node, ⟨found, finds, here⟩, rfl⟩
    exact ⟨found.captured source, List.mem_map_of_mem (mem_run.2 finds),
      (Match.get?_captured source (finds.nodup distinct)).2 ⟨node, here, rfl⟩⟩

theorem exists_node_of_mem_values (distinct : query.Distinct) {captures : Captures}
    (member : captures ∈ query.captures source tree) {capture : Capture}
    (inside : capture ∈ captures.values) :
    ∃ name, ∃ node ∈ tree.nodes, capture = Capture.ofNode source name node := by
  obtain ⟨found, matched, rfl⟩ := List.mem_map.1 member
  have finds := mem_run.1 matched
  rw [Match.values_captured source (finds.nodup distinct), List.mem_map] at inside
  obtain ⟨⟨name, node⟩, here, rfl⟩ := inside
  exact ⟨name, node, CapturesAs.mem_nodes ⟨found, finds, here⟩, rfl⟩

end Query
end CodeNav.Syntax
