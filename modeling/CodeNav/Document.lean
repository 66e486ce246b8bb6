import CodeNav.Syntax.Tree
import CodeNav.Text.Utf8

/-! The contents of files. -/
namespace CodeNav

structure Document where
  bytes : Text.Utf8.Bytes
  tree : Option Syntax.Tree
deriving DecidableEq, Repr

end CodeNav
