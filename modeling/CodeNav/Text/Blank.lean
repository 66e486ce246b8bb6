import CodeNav.Text.Ranges

/-! Blank characters and line ends, and the words and lines of a text that they separate. -/
namespace CodeNav.Text

def blankRanges : Ranges := [
  (0x9, 0xD), (0x1C, 0x20), (0x85, 0x85), (0xA0, 0xA0), (0x1680, 0x1680), (0x2000, 0x200A),
  (0x2028, 0x2029), (0x202F, 0x202F), (0x205F, 0x205F), (0x3000, 0x3000)
]

def isBlank (c : Char) : Bool := blankRanges.covers c.toNat

def lineEndRanges : Ranges := [
  (0xA, 0xD), (0x1C, 0x1E), (0x85, 0x85), (0x2028, 0x2029)
]

def isLineEnd (c : Char) : Bool := lineEndRanges.covers c.toNat

def wordsFrom (word : List Char) : List Char → List (List Char)
  | [] => if word.isEmpty then [] else [word.reverse]
  | c :: rest =>
    if isBlank c then
      if word.isEmpty then wordsFrom [] rest else word.reverse :: wordsFrom [] rest
    else wordsFrom (c :: word) rest

def words (text : List Char) : List (List Char) := wordsFrom [] text

/-- The lines of a text without their ends. `line` is the line under way, its last character
first; `afterReturn` says that the character before was a carriage return, whose line feed
belongs to the same end. -/
def linesFrom (line : List Char) (afterReturn : Bool) : List Char → List (List Char)
  | [] => if line.isEmpty then [] else [line.reverse]
  | c :: rest =>
    if afterReturn && c == '\n' then linesFrom line false rest
    else if isLineEnd c then line.reverse :: linesFrom [] (c == '\r') rest
    else linesFrom (c :: line) false rest

def lines (text : List Char) : List (List Char) := linesFrom [] false text

end CodeNav.Text
