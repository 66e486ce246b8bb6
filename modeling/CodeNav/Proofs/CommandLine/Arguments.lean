import CodeNav.CommandLine.Arguments
import Mathlib.Data.List.Basic

/-! How the arguments are read that ask where a name is defined. A file whose path starts with a
hyphen is taken for an option, and then the command is not understood. -/
namespace CodeNav.CommandLine

def asking (file line col root : String) : List String :=
  ["definition", file, line, col, "--root", root]

theorem isOption_iff {text : String} :
    isOption text = true ↔ (∃ rest, text.toList = '-' :: rest) ∧ text ≠ "-" := by
  have hyphen : "-".toList = ['-'] := rfl
  rw [isOption, Bool.and_eq_true, String.startsWith_string_iff, hyphen, decide_eq_true_iff]
  refine and_congr_left' ⟨?_, ?_⟩
  · rintro ⟨rest, same⟩
    exact ⟨rest, same.symm⟩
  · rintro ⟨rest, same⟩
    exact ⟨rest, same.symm⟩

theorem not_isOption_of_head? {text : String} (other : text.toList.head? ≠ some '-') :
    isOption text = false := by
  rw [Bool.eq_false_iff]
  intro option
  obtain ⟨⟨rest, chars⟩, -⟩ := isOption_iff.1 option
  exact other (congrArg List.head? chars)

theorem exists_trimBoth_cons {drop : Char → Bool} {c : Char} (kept : drop c = false)
    (rest : List Char) : ∃ others, Text.trimBoth drop (c :: rest) = c :: others := by
  rw [Text.trimBoth, List.dropWhile_cons_of_neg (by simp [kept]), List.reverse_cons,
    List.dropWhile_append]
  split
  · rw [List.dropWhile_cons_of_neg (by simp [kept])]
    exact ⟨[], rfl⟩
  · rw [List.reverse_append]
    exact ⟨_, rfl⟩

theorem not_isOption_of_positive {text : String} {number : Int}
    (read : positive text = .ok number) : isOption text = false := by
  rw [Bool.eq_false_iff]
  intro option
  obtain ⟨⟨rest, chars⟩, -⟩ := isOption_iff.1 option
  have kept : Text.isNumeralBlank '-' = false := by decide
  obtain ⟨others, trimmed⟩ := exists_trimBoth_cons kept rest
  have value : Text.integer? text = (Text.natural? others).map fun n => -(n : Int) := by
    rw [Text.integer?, chars, trimmed]
    rfl
  rw [positive, value] at read
  cases known : Text.natural? others with
  | none =>
    rw [known] at read
    cases read
  | some n =>
    have below : ¬ 1 ≤ -(n : Int) := by omega
    rw [known] at read
    cases (if_neg below).symm.trans read

section Scanned

variable {forms : List OptionForm} {argument : String} {rest : List String}

theorem scan_argument (plain : isOption argument = false) :
    scan forms true (argument :: rest) = (scan forms true rest).map (.consArgument argument) := by
  have words : argument ≠ "--" := by
    rintro rfl
    cases plain.symm.trans (isOption_iff.2 ⟨⟨['-'], rfl⟩, by decide⟩)
  rw [scan, if_neg words, plain, if_neg Bool.false_ne_true, if_pos rfl]

theorem scan_places {line col : String} (line_plain : isOption line = false)
    (col_plain : isOption col = false) (root : String) :
    scan CommandName.definition.forms true [line, col, "--root", root] =
      .ok ⟨[(.root, root)], [line, col]⟩ := by
  have option : isOption "--root" = true := isOption_iff.2 ⟨⟨_, rfl⟩, by decide⟩
  have read : readOption CommandName.definition.forms "--root" = .ok (.waiting [] .root) := rfl
  have last : scan CommandName.definition.forms true ["--root", root] =
      .ok ⟨[(.root, root)], []⟩ := by
    rw [scan, if_neg (by decide), if_pos option, read]
    rfl
  rw [scan_argument line_plain, scan_argument col_plain, last]
  rfl

end Scanned

theorem request_asking (files : FileSystem) (file line col root : String) :
    request files (asking file line col root) =
      CommandName.definition.request files [file, line, col, "--root", root] := by
  have word : isOption "definition" = false := not_isOption_of_head? (by decide)
  have scanned : scan leadingForms false (asking file line col root) =
      .ok ⟨[], asking file line col root⟩ := by
    rw [asking, scan, if_neg (by decide), word]
    rfl
  rw [request, scanned]
  rfl

def definitionCommand (file root : String) (line col : Int) : Command :=
  ⟨.definition file (line, col) [root], none, false⟩

section Read

variable {files : FileSystem} {file lineText colText root : String} {line col : Int}

theorem existing_directory {names : List String} {entries : List Entry}
    (root_found : files.locate root = .ok (.directory names entries)) : existing files root =
      if names ∈ files.unlisted then .error (.notReadable root) else .ok root := by
  have there : (Except.ok (.directory names entries) : Except FileError Located).isOk = true := rfl
  simp [existing, FileSystem.pathExists, FileSystem.isDirectory, FileSystem.opens, root_found,
    there]

theorem request_definition {place : List String} {document : Document}
    (plain : isOption file = false) (file_found : files.locate file = .ok (.file place document))
    (line_read : positive lineText = .ok line) (col_read : positive colText = .ok col)
    (root : String) : request files (asking file lineText colText root) =
      (existing files root).map fun root => .command (definitionCommand file root line col) := by
  have known : existingFile files file = .ok file := by rw [existingFile, file_found]
  have task : CommandName.definition.task files ⟨[(.root, root)], [file, lineText, colText]⟩ =
      (existing files root).map fun root => .definition file (line, col) [root] := by
    have roots : (Scanned.values ⟨[(.root, root)], [file, lineText, colText]⟩ .root).mapM
        (existing files) = (existing files root).map ([·]) := by
      change [root].mapM (existing files) = _
      rw [List.mapM_cons]
      cases existing files root <;> rfl
    simp only [CommandName.task, known, line_read, col_read, roots]
    cases existing files root <;> rfl
  rw [request_asking, CommandName.request, scan_argument plain, scan_places
    (not_isOption_of_positive line_read) (not_isOption_of_positive col_read)]
  change (CommandName.definition.task files ⟨[(.root, root)], [file, lineText, colText]⟩ >>= _) = _
  rw [task]
  cases existing files root <;> rfl

end Read

theorem forms_definition : ∀ form ∈ CommandName.definition.forms,
    '/' ∉ form.long.toList ∧ form.short ≠ some '/' ∧
      (form.valued = true ∨ form.short ≠ none → form.flag ≠ .help) := by
  decide

def Unhelpful (reading : Except UsageError OptionReading) : Prop :=
  (∃ error, reading = .error error) ∨
    ∃ options, reading = .ok (.whole options) ∧ ∀ option ∈ options, option.1 ≠ .help

theorem readCluster_unhelpful {letters : List Char} (slash : '/' ∈ letters) :
    Unhelpful (readCluster CommandName.definition.forms letters) := by
  induction letters with
  | nil => cases slash
  | cons c rest ih =>
    rw [readCluster]
    cases found : CommandName.definition.forms.find? fun form => form.short = some c with
    | none => exact .inl ⟨_, rfl⟩
    | some form =>
      have here := List.find?_some found
      have short : form.short = some c := of_decide_eq_true here
      obtain ⟨-, no_slash, helpless⟩ := forms_definition form (List.mem_of_find?_eq_some found)
      have flag : form.flag ≠ .help := helpless (.inr (short ▸ nofun))
      have behind : '/' ∈ rest := by
        refine (List.mem_cons.1 slash).resolve_left ?_
        rintro rfl
        exact no_slash short
      dsimp only
      split
      · rw [if_neg (List.ne_nil_of_mem behind)]
        exact .inr ⟨_, rfl, List.forall_mem_singleton.2 flag⟩
      · obtain ⟨error, fails⟩ | ⟨options, whole, others⟩ := ih behind
        · rw [fails]
          exact .inl ⟨error, rfl⟩
        · rw [whole]
          exact .inr ⟨_, rfl, List.forall_mem_cons.2 ⟨flag, others⟩⟩

theorem name_of_splitValue {argument name : String}
    (split : splitValue argument = (name, none)) : name = argument := by
  rw [splitValue] at split
  cases cut : Text.cut? ['='] argument.toList with
  | some parts =>
    rw [cut] at split
    cases split
  | none =>
    rw [cut] at split
    cases split
    rfl

theorem readOption_unhelpful {argument : String} (option : isOption argument = true)
    (slash : '/' ∈ argument.toList) :
    Unhelpful (readOption CommandName.definition.forms argument) := by
  obtain ⟨⟨rest, chars⟩, -⟩ := isOption_iff.1 option
  have behind : '/' ∈ rest := by
    rw [chars] at slash
    exact (List.mem_cons.1 slash).resolve_left nofun
  rw [readOption]
  cases split : splitValue argument with
  | mk name value =>
    dsimp only
    cases found : CommandName.definition.forms.find? fun form => form.long = name with
    | none =>
      dsimp only
      split
      · exact .inl ⟨_, rfl⟩
      · rw [chars]
        exact readCluster_unhelpful behind
    | some form =>
      have here := List.find?_some found
      have long : form.long = name := of_decide_eq_true here
      obtain ⟨no_slash, -, helpless⟩ := forms_definition form (List.mem_of_find?_eq_some found)
      cases value with
      | none =>
        rw [name_of_splitValue split] at long
        exact absurd (long ▸ slash) no_slash
      | some value =>
        cases valued : form.valued with
        | true =>
          simp only [readLong, valued]
          exact .inr ⟨_, rfl, List.forall_mem_singleton.2 (helpless (.inl valued))⟩
        | false =>
          simp only [readLong, valued]
          exact .inl ⟨_, rfl⟩

/-- Such a file is taken for an option, and then an argument is missing. -/
theorem request_of_isOption (files : FileSystem) {file line col : String}
    (option : isOption file = true) (slash : '/' ∈ file.toList)
    (line_plain : isOption line = false) (col_plain : isOption col = false) (root : String) :
    ∃ error, request files (asking file line col root) = .error error := by
  have words : file ≠ "--" := by
    rintro rfl
    revert slash
    decide
  rw [request_asking, CommandName.request, scan, if_neg words, if_pos option]
  obtain ⟨error, fails⟩ | ⟨options, whole, helpless⟩ := readOption_unhelpful option slash
  · rw [fails]
    exact ⟨error, rfl⟩
  · have no_help :
        (options ++ [(Flag.root, root)]).filter (fun option => option.1 = .help) = [] := by
      rw [List.filter_eq_nil_iff]
      intro option member
      obtain given | rfl := (List.mem_append.1 member).imp_right List.mem_singleton.1
      · simpa using helpless option given
      · exact Bool.false_ne_true
    have no_help_asked : Scanned.has ⟨options ++ [(.root, root)], [line, col]⟩ .help = false := by
      rw [Scanned.has, Scanned.values, no_help]
      rfl
    rw [whole, scan_places line_plain col_plain]
    change ∃ error, (if Scanned.has ⟨options ++ [(.root, root)], [line, col]⟩ .help = true then _
      else _) = Except.error error
    rw [no_help_asked]
    exact ⟨_, rfl⟩

end CodeNav.CommandLine
