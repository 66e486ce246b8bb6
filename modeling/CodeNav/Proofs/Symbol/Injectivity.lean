import CodeNav.Proofs.Symbol.Identity

/-! Identities of different symbols differ. The language ends at the first colon of an identity,
and what the symbol is called in its file starts behind the last one, so the path between them may
look as it likes; and the last dot parts a container from a name. -/
namespace CodeNav

namespace Identity

structure Legible (name : String) (container : Option String) : Prop where
  undotted : '.' ∉ name.toList
  plain : ':' ∉ name.toList
  named : container ≠ some ""
  plain_container : ∀ text, container = some text → ':' ∉ text.toList

variable {lang other file path name title : String} {container outer : Option String}

theorem qualify_none (name : String) : qualify name none = name := rfl

theorem toList_qualify_some {text : String} (named : some text ≠ some "") (name : String) :
    (qualify name (some text)).toList = text.toList ++ '.' :: name.toList := by
  have written : text ≠ "" := fun empty => named (congrArg some empty)
  rw [qualify, if_neg written, String.toList_append, String.toList_append, List.append_assoc]
  rfl

theorem Legible.qualified (legible : Legible name container) :
    ':' ∉ (qualify name container).toList := by
  cases container with
  | none => exact legible.plain
  | some text =>
    rw [toList_qualify_some legible.named, List.mem_append, List.mem_cons, not_or, not_or]
    exact ⟨legible.plain_container text rfl, by decide, legible.plain⟩

/-- Only a name with a container has a dot, and the last one stands before the name. -/
theorem Legible.qualify_inj (legible : Legible name container) (also : Legible title outer)
    (same : qualify name container = qualify title outer) : name = title ∧ container = outer := by
  have chars := congrArg String.toList same
  cases container with
  | none =>
    cases outer with
    | none => exact ⟨same, rfl⟩
    | some text =>
      rw [toList_qualify_some also.named, qualify_none] at chars
      exact absurd (chars ▸ by simp) legible.undotted
  | some inner =>
    cases outer with
    | none =>
      rw [toList_qualify_some legible.named, qualify_none] at chars
      exact absurd (chars ▸ by simp) also.undotted
    | some text =>
      rw [toList_qualify_some legible.named, toList_qualify_some also.named] at chars
      obtain ⟨containers, names⟩ := Text.append_cons_inj_last legible.undotted also.undotted chars
      exact ⟨String.toList_inj.1 names, congrArg some (String.toList_inj.1 containers)⟩

theorem toList_of_colons (lang file name : String) (container : Option String) :
    (of lang file name container).toList = lang.toList ++ ':' :: (':' ::
      (Path.normalize file).toList ++ [':']) ++ ':' :: (qualify name container).toList := by
  have mark : separator.toList = [':', ':'] := rfl
  rw [toList_of, mark]
  simp

theorem of_inj (plain : ':' ∉ lang.toList) (plain_other : ':' ∉ other.toList)
    (legible : Legible name container) (also : Legible title outer) :
    of lang file name container = of other path title outer ↔
      lang = other ∧ Path.normalize file = Path.normalize path ∧ name = title ∧
        container = outer := by
  constructor
  · intro same
    have chars := congrArg String.toList same
    rw [toList_of_colons, toList_of_colons] at chars
    obtain ⟨before, qualified⟩ :=
      Text.append_cons_inj_last legible.qualified also.qualified chars
    obtain ⟨langs, files⟩ := Text.append_cons_inj plain plain_other before
    obtain ⟨names, containers⟩ := legible.qualify_inj also (String.toList_inj.1 qualified)
    have spelled := List.append_cancel_right (List.cons.inj files).2
    exact ⟨String.toList_inj.1 langs, String.toList_inj.1 spelled, names, containers⟩
  · rintro ⟨rfl, files, rfl, rfl⟩
    rw [of, of, files]

end Identity
end CodeNav
