import CodeNav.Analyzer.Basic
import CodeNav.Proofs.Fold

/-! The analyzer of a file is the first that says it takes care of it. -/
namespace CodeNav.Analyzer

def Steady (analyzer : Analyzer) : Prop := ∀ path, ∃ handled, analyzer.handles path = .ok handled

theorem steady_ofGrammar (grammar : Grammar) : (ofGrammar grammar).Steady := by
  intro path
  exact ⟨_, rfl⟩

theorem pick_cases {analyzers : List Analyzer} (steady : ∀ analyzer ∈ analyzers, analyzer.Steady)
    (path : String) :
    (pick analyzers path = .ok none ∧
      ∀ analyzer ∈ analyzers, analyzer.handles path = .ok false) ∨
    ∃ analyzer ∈ analyzers, pick analyzers path = .ok (some analyzer) ∧
      analyzer.handles path = .ok true := by
  induction analyzers with
  | nil => exact .inl ⟨rfl, nofun⟩
  | cons first others ih =>
    obtain ⟨handled, answer⟩ := steady first List.mem_cons_self path
    have picked : pick (first :: others) path =
        if handled then .ok (some first) else pick others path := by
      rw [pick, answer]
      rfl
    cases handled with
    | true => exact .inr ⟨first, List.mem_cons_self, picked, answer⟩
    | false =>
      obtain ⟨none_there, all⟩ | ⟨analyzer, member, found, handles⟩ :=
        ih fun other member => steady other (List.mem_cons_of_mem _ member)
      · refine .inl ⟨picked.trans none_there, ?_⟩
        intro other member
        rw [List.mem_cons] at member
        obtain rfl | later := member
        · exact answer
        · exact all other later
      · exact .inr ⟨analyzer, List.mem_cons_of_mem _ member, picked.trans found, handles⟩

theorem mem_of_pick {analyzers : List Analyzer} {analyzer : Analyzer} {path : String}
    (picked : pick analyzers path = .ok (some analyzer)) : analyzer ∈ analyzers := by
  induction analyzers with
  | nil => cases picked
  | cons first others ih =>
    rw [pick, bind_eq_ok] at picked
    obtain ⟨handled, _, picked⟩ := picked
    split at picked
    · cases picked
      exact List.mem_cons_self
    · exact List.mem_cons_of_mem _ (ih picked)

end CodeNav.Analyzer
