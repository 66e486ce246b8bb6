import CodeNav.Index.Read

/-! From a name in a file to the symbols that it can mean. -/
namespace CodeNav.Index

/-- What follows the symbols of a name itself when the file imports the name: those of the name
that it stands for, as the language tells it from the import's target. -/
def importedCandidates (index : Index) (lang path name : String)
    (importedName : String → Option String) : List Identity :=
  match ((index.imports path).get? name).bind importedName with
  | some meant => if meant ≠ "" ∧ meant ≠ name then index.lookup lang meant else []
  | none => []

/-- The identities that an occurrence can mean, the likeliest first. A defining name means its
own symbol. Any other name means the file's first symbol of that name; failing that, all symbols
of the name in the language, and then those of the name that an import gives it. -/
def resolve (index : Index) (lang path : String) (occurrence : Occurrence)
    (importedName : Option (String → Option String)) : Except Dangling (List Identity) :=
  let own := occurrence.identity.filter fun identity =>
    identity ≠ "" ∧ (index.definition identity).isSome
  match own with
  | some identity => .ok [identity]
  | none => do
    match ← index.localDefinitions lang path occurrence.name with
    | first :: _ => return [first]
    | [] =>
      let named := index.lookup lang occurrence.name
      match importedName with
      | none => return named
      | some importedName =>
        let meant := index.importedCandidates lang path occurrence.name importedName
        return named ++ meant.filter (· ∉ named)

end CodeNav.Index
