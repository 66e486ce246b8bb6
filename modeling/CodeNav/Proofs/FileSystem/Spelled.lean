import CodeNav.FileSystem.Locate
import CodeNav.Proofs.Path

/-! Paths in their canonical spelling as the file system reads them. One that starts at the current
directory is followed from there, component by component. -/
namespace CodeNav.FileSystem

variable {path : Path}

end CodeNav.FileSystem
