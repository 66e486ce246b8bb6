import CodeNav.Proofs.Text.Cut
import CodeNav.Symbol.Identity

/-! Identities, look-up keys and the languages in them. A language without a colon ends at the first
colon of an identity or a key, so it can be read back, whatever the file and the name look like. -/
namespace CodeNav

namespace Identity

theorem toList_lookupKey (lang name : String) :
    (lookupKey lang name).toList = lang.toList ++ ':' :: name.toList := by
  rw [lookupKey, String.toList_append, String.toList_append, List.append_assoc]
  rfl

theorem lookupKey_inj {lang other name title : String} (plain : ':' ∉ lang.toList)
    (plain_other : ':' ∉ other.toList) :
    lookupKey lang name = lookupKey other title ↔ lang = other ∧ name = title := by
  constructor
  · intro same
    have chars := congrArg String.toList same
    rw [toList_lookupKey, toList_lookupKey] at chars
    obtain ⟨langs, names⟩ := Text.append_cons_inj plain plain_other chars
    exact ⟨String.toList_inj.1 langs, String.toList_inj.1 names⟩
  · rintro ⟨rfl, rfl⟩
    rfl

def OfLang (lang : String) (identity : Identity) : Prop :=
  ∃ parts, parse identity = .ok parts ∧ parts.lang = lang

theorem OfLang.unique {lang other : String} {identity : Identity} (first : OfLang lang identity)
    (second : OfLang other identity) : lang = other := by
  obtain ⟨parts, read, rfl⟩ := first
  obtain ⟨others, again, rfl⟩ := second
  rw [read] at again
  rw [Except.ok.inj again]

theorem toList_of (lang file name : String) (container : Option String) :
    (of lang file name container).toList = lang.toList ++ (separator.toList ++
      ((Path.normalize file).toList ++ (separator.toList ++ (qualify name container).toList))) := by
  simp only [of, String.toList_append, List.append_assoc]

theorem ofLang_of {lang : String} (plain : ':' ∉ lang.toList) (tagged : lang ≠ "")
    (file name : String) (container : Option String) :
    OfLang lang (of lang file name container) := by
  have mark : separator.toList = [':', ':'] := rfl
  have first : Text.cut? [':', ':'] (lang.toList ++ ([':', ':'] ++
      ((Path.normalize file).toList ++ ([':', ':'] ++ (qualify name container).toList)))) =
        some (lang.toList, (Path.normalize file).toList ++
          ([':', ':'] ++ (qualify name container).toList)) :=
    Text.cut?_append plain _
  obtain ⟨⟨before, after⟩, last⟩ : ∃ parts,
      Text.cutLast? [':', ':'] ((Path.normalize file).toList ++
        ([':', ':'] ++ (qualify name container).toList)) = some parts :=
    Text.exists_cutLast?_append _ _
  have some_lang : lang.toList ≠ [] := by simpa using tagged
  have parts : parts? (of lang file name container) =
      some ⟨lang, String.ofList before, String.ofList after⟩ := by
    rw [parts?, toList_of, mark, first, Option.bind_eq_bind, Option.bind_some]
    dsimp only
    rw [last]
    simp [some_lang]
  exact ⟨_, by rw [parse, parts], rfl⟩

end Identity
end CodeNav
