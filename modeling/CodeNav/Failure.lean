import CodeNav.Source.Range
import CodeNav.Text.Utf8

/-! What can go wrong while a file is analyzed. -/
namespace CodeNav

inductive Failure where
  | badRange (error : RangeError)
  | noImportRule
  | badText (fault : Text.Utf8.Fault)
  | refused (reason : String)
  | crashed (reason : String)
  | unusablePath
deriving DecidableEq, Repr

def Failure.message : Failure → String
  | .badRange error => error.message
  | .noImportRule => ""
  | .badText fault => fault.message
  | .refused reason => reason
  | .crashed reason => reason
  | .unusablePath => "embedded null byte"

end CodeNav
