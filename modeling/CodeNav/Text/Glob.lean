import CodeNav.Text.Cut

/-! Name patterns: `*` stands for any characters, `?` for one, and a set in square brackets for
one of its members. A set that starts with `!` stands for one character outside it. -/
namespace CodeNav.Text

inductive GlobItem where
  | anyRun
  | anyOne
  | one (c : Char)
  | oneOf (negated : Bool) (members : List (Char × Char))
deriving DecidableEq, Repr

abbrev Glob := List GlobItem

/-- What stands between the brackets of a set and what follows it, from the text after the
opening bracket. A closing bracket right at the start, or right after `!`, is a member. -/
def setBody? (text : List Char) : Option (List Char × List Char) :=
  let kept := match text with
    | '!' :: ']' :: _ => 2
    | '!' :: _ => 1
    | ']' :: _ => 1
    | _ => 0
  (cut? [']'] (text.drop kept)).map fun parts => (text.take kept ++ parts.1, parts.2)

theorem length_of_setBody? {text body rest : List Char} (h : setBody? text = some (body, rest)) :
    rest.length < text.length := by
  simp only [setBody?, Option.map_eq_some_iff, Prod.exists, Prod.mk.injEq] at h
  obtain ⟨before, after, found, _, rfl⟩ := h
  have size := congrArg List.length (cut?_eq_some found)
  simp only [List.length_drop, List.length_append, List.length_cons, List.length_nil] at size
  omega

/-- The pieces of a set between the hyphens that make ranges. The first piece has at least
`least` characters, so a hyphen among them is a member; each later piece has two. -/
def setPieces (least : Nat) (body : List Char) : List (List Char) :=
  match _found : cut? ['-'] (body.drop least) with
  | some (before, after) => (body.take least ++ before) :: setPieces 2 after
  | none => [body]
termination_by body.length
decreasing_by
  have size := congrArg List.length (cut?_eq_some _found)
  simp only [List.length_drop, List.length_append, List.length_cons, List.length_nil] at size
  omega

def closePieces : List (List Char) → List (List Char)
  | [piece, []] => [piece ++ ['-']]
  | piece :: others => piece :: closePieces others
  | [] => []

/-- Puts a piece in front of others. A range that runs backwards is empty: its two ends and the
hyphen go, and the pieces around it become one. -/
def attachPiece (piece : List Char) : List (List Char) → List (List Char)
  | [] => [piece]
  | next :: others =>
    match piece.getLast?, next.head? with
    | some low, some high =>
      if high < low then (piece.dropLast ++ next.tail) :: others else piece :: next :: others
    | _, _ => piece :: next :: others

def setMembers (piece : List Char) : List (List Char) → List (Char × Char)
  | [] => piece.map fun c => (c, c)
  | next :: others =>
    match piece.getLast?, next with
    | some low, high :: tail =>
      piece.dropLast.map (fun c => (c, c)) ++ (low, high) :: setMembers tail others
    | _, _ => ('-', '-') :: setMembers next others

/-- The element that the text between two brackets writes. A set without members stands for
nothing, its complement for any one character. -/
def setItem (body : List Char) : GlobItem :=
  let least := if body.head? = some '!' then 2 else 1
  let pieces := if body.contains '-'
    then (closePieces (setPieces least body)).foldr attachPiece []
    else [body]
  match pieces with
  | [] => .oneOf false []
  | ['!'] :: [] => .anyOne
  | ('!' :: piece) :: others => .oneOf true (setMembers piece others)
  | piece :: others => .oneOf false (setMembers piece others)

def globItems : List Char → Glob
  | [] => []
  | '*' :: rest => .anyRun :: globItems rest
  | '?' :: rest => .anyOne :: globItems rest
  | '[' :: rest =>
    match _found : setBody? rest with
    | some (body, after) => setItem body :: globItems after
    | none => .one '[' :: globItems rest
  | c :: rest => .one c :: globItems rest
termination_by text => text.length
decreasing_by
  · simp
  · simp
  · have := length_of_setBody? _found
    simp; omega
  · simp
  · simp

def Glob.ofString (pattern : String) : Glob := globItems pattern.toList

def inSet (members : List (Char × Char)) (c : Char) : Bool :=
  members.any fun range => range.1 ≤ c && c ≤ range.2

def GlobItem.holds (c : Char) : GlobItem → Bool
  | .anyRun => false
  | .anyOne => true
  | .one expected => c == expected
  | .oneOf negated members => inSet members c != negated

namespace Glob

inductive Stands : Glob → List Char → Prop where
  | nil : Stands [] []
  | skip {items : Glob} {text : List Char} : Stands items text → Stands (.anyRun :: items) text
  | run {items : Glob} {c : Char} {text : List Char} :
      Stands (.anyRun :: items) text → Stands (.anyRun :: items) (c :: text)
  | item {item : GlobItem} {items : Glob} {c : Char} {text : List Char} :
      item.holds c = true → Stands items text → Stands (item :: items) (c :: text)

def emptyRow : Glob → List Bool
  | [] => [true]
  | item :: items =>
    let below := emptyRow items
    (item = .anyRun && below.headD false) :: below

def nextRow (c : Char) : Glob → List Bool → List Bool
  | [], _ => [false]
  | item :: items, row =>
    let below := nextRow c items row.tail
    let here := if item = .anyRun then below.headD false || row.headD false
      else item.holds c && row.tail.headD false
    here :: below

def row (pattern : Glob) (text : List Char) : List Bool :=
  text.foldr (fun c row => nextRow c pattern row) (emptyRow pattern)

/-- Decides whether the pattern stands for the text. Each character is looked at once for each
element, however many runs the pattern has. -/
def accepts (pattern : Glob) (text : List Char) : Bool := (row pattern text).headD false

end Glob
end CodeNav.Text
