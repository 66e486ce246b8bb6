import CodeNav.Text.Hex

/-! Values in JSON notation. The text is plain ASCII, each value of a list or object has a line of
its own, and the members of an object stand in the order in which they were given. -/
namespace CodeNav

inductive Json where
  | null
  | whole (value : Int)
  | tenths (count : Nat)
  | text (value : String)
  | list (items : List Json)
  | object (members : List (String × Json))

namespace Json

def escapeUnit (unit : Nat) : List Char := '\\' :: 'u' :: Text.hexDigits 4 unit

/-- A character within quotes. Beyond the first 65536 characters it is written as two units. -/
def escapeChar (c : Char) : List Char :=
  match c with
  | '"' => ['\\', '"']
  | '\\' => ['\\', '\\']
  | '\n' => ['\\', 'n']
  | '\r' => ['\\', 'r']
  | '\t' => ['\\', 't']
  | '\x08' => ['\\', 'b']
  | '\x0c' => ['\\', 'f']
  | c =>
    if ' ' ≤ c ∧ c ≤ '~' then [c]
    else if c.toNat < 0x10000 then escapeUnit c.toNat
    else
      let above := c.toNat - 0x10000
      escapeUnit (0xD800 + above / 0x400) ++ escapeUnit (0xDC00 + above % 0x400)

def quote (text : String) : String :=
  "\"" ++ String.ofList (text.toList.flatMap escapeChar) ++ "\""

def newLine (depth : Nat) : String := "\n" ++ String.ofList (List.replicate (2 * depth) ' ')

def enclose (opening closing : String) (depth : Nat) (items : List String) : String :=
  if items.isEmpty then opening ++ closing
  else opening ++ newLine (depth + 1) ++ (("," ++ newLine (depth + 1)).intercalate items) ++
    newLine depth ++ closing

mutual

def render (depth : Nat) : Json → String
  | .null => "null"
  | .whole value => toString value
  | .tenths count => s!"{count / 10}.{count % 10}"
  | .text value => quote value
  | .list items => enclose "[" "]" depth (renderItems (depth + 1) items)
  | .object members => enclose "\x7b" "\x7d" depth (renderMembers (depth + 1) members)

def renderItems (depth : Nat) : List Json → List String
  | [] => []
  | item :: rest => render depth item :: renderItems depth rest

def renderMembers (depth : Nat) : List (String × Json) → List String
  | [] => []
  | (name, value) :: rest => (quote name ++ ": " ++ render depth value) :: renderMembers depth rest

end

def ofOption {α : Type} (of : α → Json) : Option α → Json
  | none => .null
  | some value => of value

end Json
end CodeNav
