import CodeNav.Analyzer.Basic
import CodeNav.Text.Blank

/-! An analyzer that needs no parser. In its files a line `def NAME` defines NAME, and every word
of a line that does not start with `def` refers to the name that it is. -/
namespace CodeNav.Analyzer.Lines

open CodeNav.Text (placeOf?)
open CodeNav.Text.Utf8 (Bytes)

structure Word where
  line : Nat
  before : Nat
  text : List Char
deriving DecidableEq, Repr

def Word.range (word : Word) : Except RangeError Range :=
  Range.between ⟨word.line, word.before + 1⟩ ⟨word.line, word.before + word.text.length⟩

def keyword : List Char := ['d', 'e', 'f']

def definedWord (line : Nat) (text : List Char) : Option Word :=
  match Text.words text with
  | [first, name] =>
    if first = keyword then (placeOf? name text).map fun before => ⟨line, before, name⟩ else none
  | _ => none

/-- The words of a text, each looked for behind the one before. `passed` characters of the line
stand before the text. -/
def locate (line passed : Nat) (text : List Char) : List (List Char) → List Word
  | [] => []
  | word :: others =>
    match placeOf? word text with
    | none => []
    | some gap =>
      ⟨line, passed + gap, word⟩ ::
        locate line (passed + gap + word.length) (text.drop (gap + word.length)) others

def usedWords (line : Nat) (text : List Char) : List Word :=
  let words := Text.words text
  if words.head? = some keyword then [] else locate line 0 text words

def defineWord (defined : Survey.Defined) (word : Word) : Except Failure Survey.Defined := do
  let range ← word.range.mapError Failure.badRange
  let name := String.ofList word.text
  return {
    found := defined.found.define name "func" range none
    own := if defined.own.contains name then defined.own
      else defined.own.insert name (defined.found.identify name none) }

def referWord (own : Table String Identity) (found : Findings) (word : Word) :
    Except Failure Findings := do
  let range ← word.range.mapError Failure.badRange
  let name := String.ofList word.text
  return found.refer name range (own.get? name)

def findings (lang path : String) (lines : List (List Char)) : Except Failure Findings := do
  let numbered := lines.zipIdx 1
  let defined ← (numbered.filterMap fun line => definedWord line.2 line.1).foldlM defineWord
    ⟨Findings.start lang path, .empty⟩
  (numbered.flatMap fun line => usedWords line.2 line.1).foldlM (referWord defined.own)
    defined.found

def mentions (bytes : Bytes) (text : String) : Bool :=
  (placeOf? (Text.Utf8.encode text) bytes).isSome

def parse (bytes : Bytes) : Except Failure (Option (List (List Char))) :=
  if mentions bytes "SYNTAX ERROR" then .error (.refused "unexpected token")
  else if mentions bytes "NO TREE" then .ok none
  else match Text.Utf8.decode bytes with
    | .ok text => .ok (some (Text.lines text.toList))
    | .error fault => .error (.badText fault)

def read (lang path : String) (document : Document) : Reading :=
  match parse document.bytes with
  | .error failure => .unparsed failure
  | .ok none => .treeless
  | .ok (some lines) =>
    if mentions document.bytes "EXPLODE" then .unreadable (.crashed "extractor crashed")
    else match findings lang path lines with
      | .ok found => .found found
      | .error failure => .unreadable failure

end Lines

def lines : Analyzer where
  lang := "toy"
  title := "ToyAdapter"
  handles := fun path => .ok (path.endsWith ".toy")
  read := Lines.read "toy"
  importedName := none

def failing : Analyzer where
  lang := "broken"
  title := "BrokenAdapter"
  handles := fun path =>
    if path.endsWith ".broken" then .error (.crashed "can_handle crashed") else .ok false
  read := fun _ _ => .treeless
  importedName := none

end CodeNav.Analyzer
