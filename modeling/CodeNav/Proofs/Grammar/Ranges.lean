import CodeNav.Proofs.Grammar.Coverage
import CodeNav.Proofs.Source.Columns

/-! Byte spans and position ranges agree. Whatever is captured has a range, and the definitions of a
file, which stand in the order of their bytes, stand in the order of their ranges as well. -/
namespace CodeNav.Grammar

open Syntax
open CodeNav.Text.Utf8 (Bytes)

variable {grammar : Grammar} {kinds : List String}

/-- The definitions stand in the strict order of their spans, and their ranges start in order. -/
theorem exists_spans_of_marks {path : String} {source : Bytes} {tree : Tree} {found : Findings}
    (done : grammar.findings path source (some tree) = .ok found) :
    ∃ spans : List (Nat × Nat), spans.Pairwise Survey.Before ∧
      List.Forall₂ (found.DefinesAt source) spans found.marks ∧
      found.marks.Pairwise fun a b => a.range.start ≤ b.range.start := by
  obtain ⟨transcript, transcript_of, rfl⟩ := Survey.exists_transcript done
  have of := Survey.ofTree_of grammar source tree
  refine ⟨Survey.spansOf (grammar.definitions.captures source tree), Survey.pairwise_spansOf _, ?_,
    transcript.pairwise_marks of transcript_of grammar path⟩
  rw [Survey.Transcript.marks_findings]
  exact Survey.Transcript.definesAt of transcript_of grammar path

/-- Rows count line feeds, and columns the bytes behind the last one. A node within the source has a
range, which holds the position of an offset just where the node encloses it. A tree in which no
node ends before it starts has findings, and in them the order of the definitions by their bytes is
that of their ranges. -/
theorem spans_agree (names : NameKinds grammar kinds) (source : Bytes) :
    (∀ offset, Source.pointAt source offset = ⟨(source.take offset).count Source.lineFeed,
      (Source.lastLine (source.take offset)).length⟩) ∧
    (∀ name (node : Node), node.start ≤ node.stop → node.stop ≤ source.length →
      ∃ range, (Capture.ofNode source name node).range = .ok range ∧ ∀ offset ≤ source.length,
        (range.contains (Source.pointAt source offset).position = true ↔
          node.start ≤ offset ∧ offset ≤ node.stop)) ∧
    ∀ path (tree : Tree), (∀ node ∈ tree.nodes, node.start ≤ node.stop) →
      ∃ found spans, grammar.findings path source (some tree) = .ok found ∧
        spans.Pairwise Survey.Before ∧
        List.Forall₂ (found.DefinesAt source) spans found.marks ∧
        found.marks.Pairwise fun a b => a.range.start ≤ b.range.start := by
  refine ⟨Source.pointAt_eq source, fun name _ => Capture.exists_range_ofNode name, ?_⟩
  intro path tree forward
  obtain ⟨found, done⟩ := Survey.exists_findings names.locates (names.ranged source forward) path
  obtain ⟨spans, ordered, defines, sorted⟩ := exists_spans_of_marks done
  exact ⟨found, spans, done, ordered, defines, sorted⟩

/-- The class stands on two lines of the damaged file, and ends where the second one does. -/
theorem spans_agree_damaged :
    NameKinds python ["identifier"] ∧ (∀ node ∈ damagedTree.nodes, node.start ≤ node.stop) ∧
      (∃ range, (Capture.ofNode damagedSource "cls.def"
          ⟨1, "class_definition", none, 9, 33⟩).range = .ok range ∧
        range.start = ⟨2, 1⟩ ∧ range.stop = ⟨3, 16⟩ ∧
        ∀ offset ≤ damagedSource.length,
          (range.contains (Source.pointAt damagedSource offset).position = true ↔
            9 ≤ offset ∧ offset ≤ 33)) ∧
      ∃ found spans, python.findings "m.py" damagedSource (some damagedTree) = .ok found ∧
        spans.Pairwise Survey.Before ∧
        List.Forall₂ (found.DefinesAt damagedSource) spans found.marks ∧
        found.marks.Pairwise fun a b => a.range.start ≤ b.range.start := by
  have forward : ∀ node ∈ damagedTree.nodes, node.start ≤ node.stop := by decide
  obtain ⟨-, ranged, found⟩ := spans_agree .python damagedSource
  obtain ⟨range, known, encloses⟩ := ranged "cls.def" ⟨1, "class_definition", none, 9, 33⟩
    (by decide) (by decide)
  obtain ⟨starts, stops⟩ := Capture.range_eq_ok.1 known
  refine ⟨.python, forward, ⟨range, known, ?_, ?_, encloses⟩, found "m.py" damagedTree forward⟩
  · rw [starts]
    rfl
  · rw [stops]
    rfl

end CodeNav.Grammar
