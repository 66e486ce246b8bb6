import CodeNav.Symbol.Occurrence

/-! Answers to the question where the name at a position is defined. -/
namespace CodeNav

inductive Miss where
  | noIdentifier
  | noAnalyzer
  | undefined
  | other (reason : String)
deriving DecidableEq, Repr

def Miss.message : Miss → String
  | .noIdentifier => "no identifier at position"
  | .noAnalyzer => "no adapter for file"
  | .undefined => "definition not found"
  | .other reason => reason

/-- An answer. The candidates are the identities that the name can mean; they are absent if it
never came to that question. -/
structure Answer where
  definition : Option Definition
  candidates : Option (List Identity)
  miss : Option Miss
  occurrence : Option Occurrence
deriving DecidableEq

structure Complaint where
  message : String
  candidates : Option (List Identity)
deriving DecidableEq, Repr

namespace Answer

def found (answer : Answer) : Bool := answer.miss.isNone && answer.definition.isSome

def complaint (answer : Answer) : Complaint :=
  let message := (answer.miss.map Miss.message).getD ""
  ⟨if message = "" then Miss.undefined.message else message, answer.candidates⟩

def get (answer : Answer) : Except Complaint Definition :=
  match answer.miss, answer.definition with
  | none, some definition => .ok definition
  | _, _ => .error answer.complaint

def describe (answer : Answer) : String :=
  match answer.get with
  | .ok definition =>
    s!"{definition.file}:{definition.range.start.line}:{definition.range.start.col}"
  | .error complaint => complaint.message

end Answer
end CodeNav
