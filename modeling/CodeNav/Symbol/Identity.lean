import CodeNav.Path
import CodeNav.Text.Quoted

/-! Identities of symbols, `language::file::name` or `language::file::container.name`. The file
is spelled canonically, so a symbol has one identity however its file was reached. -/
namespace CodeNav

abbrev Identity := String

namespace Identity

def separator : String := "::"

def qualify (name : String) : Option String → String
  | some container => if container = "" then name else container ++ "." ++ name
  | none => name

def of (lang file name : String) (container : Option String) : Identity :=
  lang ++ separator ++ Path.normalize file ++ separator ++ qualify name container

structure Parts where
  lang : String
  file : String
  qualified : String
deriving DecidableEq, Repr

structure Malformed where
  text : String
deriving DecidableEq, Repr

def Malformed.message (error : Malformed) : String :=
  s!"malformed symbol id: {Text.quoted error.text}"

/-- The parts of a text: the language up to the first separator, the name after the last one of
what follows. The language must not be empty. -/
def parts? (text : String) : Option Parts := do
  let (lang, rest) ← Text.cut? separator.toList text.toList
  let (file, qualified) ← Text.cutLast? separator.toList rest
  if lang.isEmpty then none
  else some ⟨String.ofList lang, String.ofList file, String.ofList qualified⟩

def parse (text : String) : Except Malformed Parts :=
  match parts? text with
  | some parts => .ok parts
  | none => .error ⟨text⟩

def lookupKey (lang name : String) : String := lang ++ ":" ++ name

end Identity
end CodeNav
