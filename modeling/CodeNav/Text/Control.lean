/-! Control sequences, by which a text changes the colours of a terminal: an escape character, an
opening bracket, parameters and a letter. -/
namespace CodeNav.Text

def isParameter (c : Char) : Bool := c == ';' || c == '?' || c.isDigit

def afterControl? : List Char → Option (List Char)
  | [] => none
  | c :: rest =>
    if isParameter c then afterControl? rest
    else if c.isAlpha then some rest
    else none

theorem length_of_afterControl? {text rest : List Char} (h : afterControl? text = some rest) :
    rest.length < text.length := by
  induction text with
  | nil => cases h
  | cons c text ih =>
    rw [afterControl?] at h
    split at h
    · exact Nat.lt_succ_of_lt (ih h)
    · split at h
      · cases h
        exact Nat.lt_succ_self _
      · cases h

def dropControls : List Char → List Char
  | '\x1b' :: '[' :: rest =>
    match _found : afterControl? rest with
    | some after => dropControls after
    | none => '\x1b' :: '[' :: dropControls rest
  | c :: rest => c :: dropControls rest
  | [] => []
termination_by text => text.length
decreasing_by
  · have := length_of_afterControl? _found
    simp only [List.length_cons]
    omega
  · simp only [List.length_cons]
    omega
  · simp

def plain (text : String) : String := String.ofList (dropControls text.toList)

end CodeNav.Text
