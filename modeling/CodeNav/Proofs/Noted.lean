import CodeNav.Analyzer.Lines
import CodeNav.Project.Indexing
import CodeNav.Proofs.Analyzer
import CodeNav.Proofs.Marks
import CodeNav.Proofs.Survey

/-! What an analyzer finds in a file is noted for that file and no other. So an examination gives
findings of the file that was examined, however its path was spelled. -/
namespace CodeNav

def Findings.NotedFor (found : Findings) (path : String) : Prop :=
  ∃ lang items, found = ofList lang path items

def Findings.NotedIn (found : Findings) (lang path : String) : Prop :=
  ∃ items, found = ofList lang path items

namespace Findings.NotedIn

variable {found : Findings} {lang path : String}

theorem start (lang path : String) : (Findings.start lang path).NotedIn lang path := ⟨[], rfl⟩

theorem add (noted : found.NotedIn lang path) (item : Finding) :
    (found.add item).NotedIn lang path := by
  obtain ⟨items, rfl⟩ := noted
  refine ⟨items ++ [item], ?_⟩
  rw [ofList, ofList, List.foldl_append]
  rfl

theorem notedFor (noted : found.NotedIn lang path) : found.NotedFor path := ⟨lang, noted⟩

theorem lang_eq (noted : found.NotedIn lang path) : found.lang = lang := by
  obtain ⟨items, rfl⟩ := noted
  exact lang_ofList lang path items

end Findings.NotedIn

namespace Findings.NotedFor

variable {found : Findings} {path : String}

theorem recorded (noted : found.NotedFor path) : found.Recorded := by
  obtain ⟨lang, items, rfl⟩ := noted
  exact ⟨lang, path, items, rfl⟩

theorem file (noted : found.NotedFor path) : found.file = Path.normalize path := by
  obtain ⟨lang, items, rfl⟩ := noted
  exact file_ofList lang path items

end Findings.NotedFor

namespace Analyzer

def Notes (analyzer : Analyzer) : Prop :=
  ∀ path document found, analyzer.read path document = .found found → found.NotedFor path

def Addresses (analyzer : Analyzer) : Prop :=
  ∀ path document found, analyzer.read path document = .found found →
    found.file = Path.normalize path

theorem Notes.addresses {analyzer : Analyzer} (notes : analyzer.Notes) : analyzer.Addresses :=
  fun path document found done => (notes path document found done).file

def Labels (analyzer : Analyzer) : Prop :=
  ∀ path document found, analyzer.read path document = .found found →
    found.NotedIn analyzer.lang path

theorem Labels.notes {analyzer : Analyzer} (labels : analyzer.Labels) : analyzer.Notes :=
  fun path document found done => (labels path document found done).notedFor

theorem labels_ofGrammar (grammar : Grammar) : (ofGrammar grammar).Labels := by
  intro path document found done
  simp only [ofGrammar] at done
  split at done
  · cases done
  · split at done
    · next surveyed =>
      cases done
      obtain ⟨transcript, _, rfl⟩ := Survey.exists_transcript surveyed
      exact ⟨_, rfl⟩
    · cases done

namespace Lines

variable {lang path : String}

theorem noted_defineWord {defined next : Survey.Defined} {word : Word}
    (done : defineWord defined word = .ok next) (noted : defined.found.NotedIn lang path) :
    next.found.NotedIn lang path := by
  rw [defineWord, bind_eq_ok] at done
  obtain ⟨range, _, same⟩ := done
  cases same
  exact noted.add (.definition _ "func" range none)

theorem noted_referWord {own : Table String Identity} {found next : Findings} {word : Word}
    (done : referWord own found word = .ok next) (noted : found.NotedIn lang path) :
    next.NotedIn lang path := by
  rw [referWord, bind_eq_ok] at done
  obtain ⟨range, _, same⟩ := done
  cases same
  exact noted.add (.reference _ range _)

theorem noted_findings {lines : List (List Char)} {found : Findings}
    (done : findings lang path lines = .ok found) : found.NotedIn lang path := by
  rw [findings, bind_eq_ok] at done
  obtain ⟨defined, defines, uses⟩ := done
  have begun := foldlM_preserves (fun defined : Survey.Defined => defined.found.NotedIn lang path)
    (fun _ _ _ => noted_defineWord) (.start lang path) defines
  exact foldlM_preserves (fun found => found.NotedIn lang path) (fun _ _ _ => noted_referWord)
    begun uses

end Lines

theorem labels_lines : lines.Labels := by
  intro path document found done
  simp only [lines, Lines.read] at done
  split at done
  · cases done
  · cases done
  · split at done
    · cases done
    · split at done
      · next noted =>
        cases done
        exact Lines.noted_findings noted
      · cases done

theorem labels_failing : failing.Labels := nofun

end Analyzer

variable {files : FileSystem} {analyzers : List Analyzer} {config : Config}

theorem examine_normalize (path : String) :
    examine files analyzers config (Path.normalize path) = examine files analyzers config path := by
  rw [examine, examine, Path.normalize_normalize]

theorem examineWith_eq_indexed {analyzer : Analyzer} {maxFileSize : Int} {file : String}
    {found : Findings} :
    examineWith analyzer files maxFileSize file = .indexed found ↔
      ∃ size document, files.sizeAt file = .ok size ∧ (size : Int) ≤ maxFileSize ∧
        files.read file = .ok document ∧ analyzer.read file document = .found found := by
  rw [examineWith]
  cases files.sizeAt file with
  | error error => cases error <;> simp
  | ok size =>
    by_cases large : maxFileSize < size
    · simp [large]
    · cases files.read file with
      | error error => simp [large]
      | ok document => cases reading : analyzer.read file document <;>
          simp [large, Outcome.ofReading, reading, Int.not_lt.1 large]

theorem examine_eq_indexed {path : String} {found : Findings} :
    examine files analyzers config path = .indexed found ↔
      ∃ analyzer, Analyzer.pick analyzers (Path.normalize path) = .ok (some analyzer) ∧
        config.covers analyzer.lang = true ∧
        examineWith analyzer files config.maxFileSize (Path.normalize path) = .indexed found := by
  rw [examine]
  cases Analyzer.pick analyzers (Path.normalize path) with
  | error failure => simp
  | ok picked =>
    cases picked with
    | none => simp
    | some analyzer => by_cases covered : config.covers analyzer.lang = true <;> simp [covered]

theorem exists_reading_of_examine {path : String} {found : Findings}
    (examined : examine files analyzers config path = .indexed found) :
    ∃ analyzer document, Analyzer.pick analyzers (Path.normalize path) = .ok (some analyzer) ∧
      analyzer.read (Path.normalize path) document = .found found := by
  obtain ⟨analyzer, picked, _, examined⟩ := examine_eq_indexed.1 examined
  obtain ⟨_, document, _, _, _, reading⟩ := examineWith_eq_indexed.1 examined
  exact ⟨analyzer, document, picked, reading⟩

theorem file_of_examine (addresses : ∀ analyzer ∈ analyzers, analyzer.Addresses) {path : String}
    {found : Findings} (examined : examine files analyzers config path = .indexed found) :
    found.file = Path.normalize path := by
  obtain ⟨analyzer, document, picked, reading⟩ := exists_reading_of_examine examined
  rw [addresses analyzer (Analyzer.mem_of_pick picked) _ document found reading,
    Path.normalize_normalize]

/-- A file that is examined twice gives the same findings, however its path is spelled. -/
theorem eq_of_examine (addresses : ∀ analyzer ∈ analyzers, analyzer.Addresses)
    {path other : String} {found again : Findings}
    (examined : examine files analyzers config path = .indexed found)
    (examined_again : examine files analyzers config other = .indexed again)
    (same : Path.normalize found.file = Path.normalize again.file) : found = again := by
  rw [file_of_examine addresses examined, file_of_examine addresses examined_again] at same
  simp only [Path.normalize_normalize] at same
  rw [← examine_normalize, same, examine_normalize, examined_again] at examined
  exact (Outcome.indexed.inj examined).symm

theorem notedFor_of_examine (notes : ∀ analyzer ∈ analyzers, analyzer.Notes) {path : String}
    {found : Findings} (examined : examine files analyzers config path = .indexed found) :
    found.NotedFor (Path.normalize path) := by
  obtain ⟨analyzer, document, picked, reading⟩ := exists_reading_of_examine examined
  exact notes analyzer (Analyzer.mem_of_pick picked) _ document found reading

end CodeNav
