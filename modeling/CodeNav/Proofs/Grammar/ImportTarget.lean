import CodeNav.Grammar.Python
import CodeNav.Grammar.TypeScript
import CodeNav.Proofs.Text.Cut

/-! Targets of imports: a module, or a name behind a module with a mark between them. A target is
read from its last mark on, so a name without a mark is always read back, whatever stands in the
module. A module with a mark in it reads like a name behind another module. -/
namespace CodeNav.Grammar

open Syntax

inductive TargetMark : Grammar → Char → Prop where
  | python : TargetMark python '.'
  | typescript : TargetMark typescript '#'

theorem TargetMark.mark_eq {grammar : Grammar} {mark : Char} (marked : TargetMark grammar mark) :
    mark = '.' ∨ mark = '#' := by
  cases marked with
  | python => exact .inl rfl
  | typescript => exact .inr rfl

theorem TargetMark.plain {grammar : Grammar} {mark : Char} (marked : TargetMark grammar mark) :
    ':' ∉ grammar.tag.toList := by
  cases marked with
  | python => decide
  | typescript => decide

def EndsIn (mark : Char) (target name : String) : Prop :=
  mark ∉ name.toList ∧ ∃ before, target.toList = before ++ mark :: name.toList

variable {mark : Char} {target name other : String}

theorem endsIn_iff : EndsIn mark target name ↔
    ∃ before, Text.cutLast? [mark] target.toList = some (before, name.toList) := by
  rw [EndsIn, ← exists_and_left]
  simp only [Text.cutLast?_singleton, and_comm]

theorem EndsIn.unique (ends : EndsIn mark target name) (also_ends : EndsIn mark target other) :
    name = other := by
  rw [endsIn_iff] at ends also_ends
  obtain ⟨before, found⟩ := ends
  obtain ⟨also_before, also_found⟩ := also_ends
  rw [found] at also_found
  exact String.toList_inj.1 (congrArg Prod.snd (Option.some.inj also_found))

theorem EndsIn.mem (ends : EndsIn mark target name) : mark ∈ target.toList := by
  obtain ⟨before, whole⟩ := ends.2
  rw [whole]
  exact List.mem_append_cons_self

theorem Python.importedName_eq_some : Python.importedName target = some name ↔
    name ≠ "" ∧ (EndsIn '.' target name ∨ '.' ∉ target.toList ∧ name = target) := by
  -- The part that is read: all of the target where no mark stands in it.
  have read (last : List Char) :
      (if last.isEmpty then none else some (String.ofList last)) = some name ↔
        name ≠ "" ∧ last = name.toList := by
    rw [Option.ite_none_left_eq_some, Option.some.injEq, ← String.toList_inj,
      String.toList_ofList, List.isEmpty_iff]
    constructor
    · rintro ⟨written, rfl⟩
      exact ⟨fun empty => written (String.toList_eq_nil_iff.2 empty), rfl⟩
    · rintro ⟨written, rfl⟩
      exact ⟨fun empty => written (String.toList_eq_nil_iff.1 empty), rfl⟩
  rw [Python.importedName, read]
  apply and_congr_right
  intro _
  cases found : Text.cutLast? ['.'] target.toList with
  | none =>
    have unmarked : '.' ∉ target.toList := by
      rw [Text.cutLast?_eq_none (List.cons_ne_nil '.' []), List.singleton_infix_iff] at found
      exact found
    dsimp only
    rw [String.toList_inj, eq_comm]
    exact ⟨fun same => .inr ⟨unmarked, same⟩,
      fun ends => ends.elim (fun ends => absurd ends.mem unmarked) And.right⟩
  | some parts =>
    have ends : EndsIn '.' target (String.ofList parts.2) :=
      endsIn_iff.2 ⟨parts.1, by rw [found, String.toList_ofList]⟩
    dsimp only
    constructor
    · intro same
      rw [same, String.ofList_toList] at ends
      exact .inl ends
    · rintro (also_ends | ⟨unmarked, _⟩)
      · rw [← ends.unique also_ends, String.toList_ofList]
      · exact absurd ends.mem unmarked

theorem TypeScript.importedName_eq_some :
    TypeScript.importedName target = some name ↔ EndsIn '#' target name := by
  have mark : TypeScript.exportMark.toList = ['#'] := rfl
  rw [TypeScript.importedName, mark, endsIn_iff, Option.map_eq_some_iff, Prod.exists]
  apply exists_congr
  intro before
  constructor
  · rintro ⟨after, found, rfl⟩
    rw [found, String.toList_ofList]
  · intro found
    exact ⟨name.toList, found, String.ofList_toList⟩

theorem TargetMark.importedName {grammar : Grammar} (marked : TargetMark grammar mark)
    (ends : EndsIn mark target name) (written : name ≠ "") :
    grammar.importedName target = some name := by
  cases marked with
  | python => exact Python.importedName_eq_some.2 ⟨written, .inl ends⟩
  | typescript => exact TypeScript.importedName_eq_some.2 ends

variable {captures : Captures} {symbol : Capture} {imported : Binding}

theorem Python.binding_target (named : captures.get? "import.name" = some symbol)
    (bound : Python.binding captures = some imported) :
    ∃ before, imported.target.toList = before ++ '.' :: symbol.text.toList := by
  rw [Python.binding, Option.bind_eq_bind, Option.bind_eq_some_iff] at bound
  obtain ⟨source, _, bound⟩ := bound
  rw [named] at bound
  dsimp only at bound
  rw [← Option.some.inj bound]
  dsimp only
  split
  · next ends =>
    -- The mark is the last character of the module.
    obtain ⟨before, whole⟩ := List.getLast?_eq_some_iff.1 ends
    refine ⟨before, ?_⟩
    rw [String.append_empty, String.toList_append, whole, List.append_assoc, List.singleton_append]
  · refine ⟨source.text.toList, ?_⟩
    rw [String.toList_append, String.toList_append, List.append_assoc]
    rfl

theorem TypeScript.binding_target (named : captures.get? "import.name" = some symbol)
    (bound : TypeScript.binding captures = some imported) :
    ∃ before, imported.target.toList = before ++ '#' :: symbol.text.toList := by
  rw [TypeScript.binding, Option.bind_eq_bind, Option.bind_eq_some_iff] at bound
  obtain ⟨source, _, bound⟩ := bound
  rw [named] at bound
  dsimp only at bound
  rw [← Option.some.inj bound]
  refine ⟨Text.trimBoth TypeScript.isSpecifierQuote source.text.toList, ?_⟩
  rw [String.toList_append, String.toList_append, String.toList_ofList, List.append_assoc]
  rfl

theorem TargetMark.importedName_of_named {grammar : Grammar} (marked : TargetMark grammar mark)
    (bound : grammar.binding captures = .ok (some imported))
    (named : captures.get? "import.name" = some symbol) (written : symbol.text ≠ "")
    (unmarked : mark ∉ symbol.text.toList) :
    grammar.importedName imported.target = some symbol.text := by
  apply marked.importedName ⟨unmarked, ?_⟩ written
  cases marked with
  | python => exact Python.binding_target named (Except.ok.inj bound)
  | typescript => exact TypeScript.binding_target named (Except.ok.inj bound)

end CodeNav.Grammar
