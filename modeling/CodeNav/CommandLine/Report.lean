import CodeNav.Answer
import CodeNav.Project.Indexing
import CodeNav.Text.Json

/-! How answers are printed: as lines of text, or as one value in JSON notation. -/
namespace CodeNav.CommandLine

def pad (width : Nat) (text : String) : String :=
  text ++ String.ofList (List.replicate (width - text.length) ' ')

def location (file : String) (range : Range) : String :=
  s!"{file}:{range.start.line}:{range.start.col}"

def positionJson (position : Position) : Json :=
  .object [("line", .whole position.line), ("col", .whole position.col)]

def rangeJson (range : Range) : Json :=
  .object [("start", positionJson range.start), ("end", positionJson range.stop)]

def definitionJson (definition : Definition) : Json :=
  .object [("lang", .text definition.lang), ("file", .text definition.file),
    ("range", rangeJson definition.range), ("name", .text definition.name),
    ("kind", .text definition.kind)]

def referenceJson (reference : Reference) : Json :=
  .object [("lang", .text reference.lang), ("file", .text reference.file),
    ("range", rangeJson reference.range)]

def countsJson (counts : Counts) : Json :=
  .object [("files_scanned", .whole counts.scanned), ("files_indexed", .whole counts.indexed),
    ("files_skipped", .whole counts.skipped), ("errors", .whole counts.errors),
    ("definitions", .whole counts.definitions), ("references", .whole counts.references),
    ("occurrences", .whole counts.occurrences), ("elapsed_seconds", .tenths 0),
    ("by_language", .object (counts.languages.entries.map fun entry =>
      (entry.1, .whole entry.2)))]

def languageLines (languages : List (String × Nat)) : List String :=
  if languages.isEmpty then []
  else ["", "  Languages:"] ++
    languages.map fun entry => s!"    {pad 15 entry.1} {entry.2} files"

def countsLines (counts : Counts) : List String :=
  [s!"  Files scanned:   {counts.scanned}", s!"  Files indexed:   {counts.indexed}",
    s!"  Files skipped:   {counts.skipped}", s!"  Definitions:     {counts.definitions}",
    s!"  References:      {counts.references}", s!"  Errors:          {counts.errors}",
    "  Time:            0.00s"] ++
    languageLines (Index.sortCounts counts.languages)

def answerJson (answer : Answer) : Json :=
  .object [("definition", .ofOption definitionJson answer.definition),
    ("candidates", .ofOption (fun tried => .list (tried.map .text)) answer.candidates),
    ("error", .ofOption (fun miss => .text miss.message) answer.miss)]

def definitionLine (definition : Definition) : String :=
  s!"{definition.name}  {definition.kind}  {location definition.file definition.range}"

def complaintLines (complaint : Complaint) : List String :=
  s!"No definition: {complaint.message}" ::
    (complaint.candidates.getD []).map fun identity => s!"  candidate: {identity}"

def listingJson (listing : List (Identity × Definition)) : Json :=
  .object (listing.map fun entry => (entry.1, definitionJson entry.2))

def listingLine (identity : Identity) (definition : Definition) : String :=
  s!"  L{pad 5 (toString definition.range.start.line)} {pad 10 definition.kind} " ++
    s!"{pad 30 definition.name} {identity}"

def listingLinesAfter (current : Option String) : List (Identity × Definition) → List String
  | [] => []
  | (identity, definition) :: rest =>
    let heading := if current = some definition.file then [] else [s!"{definition.file}:"]
    heading ++ listingLine identity definition :: listingLinesAfter (some definition.file) rest

def listingLines (listing : List (Identity × Definition)) : List String :=
  if listing.isEmpty then ["No definitions found"] else listingLinesAfter none listing

def referenceLines (identity : Identity) (references : List Reference) : List String :=
  if references.isEmpty then [s!"No references to '{identity}'"]
  else [s!"{references.length} references to {identity}:", ""] ++
    references.map fun reference => "  " ++ location reference.file reference.range

end CodeNav.CommandLine
