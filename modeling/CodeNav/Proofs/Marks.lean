import CodeNav.Proofs.Findings
import CodeNav.Proofs.Fold

/-! The names that define. Each definition leaves one of them among the occurrences, and what is
stored under an identity is always the last of its definitions. -/
namespace CodeNav.Findings

def marks (found : Findings) : List Occurrence :=
  found.occurrences.filter fun occurrence => occurrence.role = .definition

def introduced (found : Findings) (name : String) : Option Identity :=
  (found.marks.find? fun mark => mark.name = name).bind Occurrence.identity

def marksOf (found : Findings) (identity : Identity) : List Occurrence :=
  found.marks.filter fun mark => mark.identity = some identity

/-- What the last definition of an identity says is what is stored. -/
def Faithful (found : Findings) : Prop :=
  ∀ identity, (found.definitions.get? identity).map (fun stored => (stored.name, stored.range)) =
    (found.marksOf identity).getLast?.map fun mark => (mark.name, mark.range)

def occurrencesOf (found : Findings) : Finding → List Occurrence
  | .definition name _ range container =>
    [⟨name, .definition, range, some (found.identify name container)⟩]
  | .reference name range _ => [⟨name, .reference, range, none⟩]
  | .binding localName _ range => [⟨localName, .binding, range, none⟩]
  | .noReferences _ => []

theorem occurrences_add (found : Findings) (item : Finding) :
    (found.add item).occurrences = found.occurrences ++ found.occurrencesOf item := by
  cases item with
  | definition name kind range container => rfl
  | reference name range target => cases target <;> rfl
  | binding localName target range => rfl
  | noReferences target => exact (List.append_nil _).symm

@[simp] theorem lang_add (found : Findings) (item : Finding) :
    (found.add item).lang = found.lang := by
  cases item with
  | definition name kind range container => rfl
  | reference name range target => cases target <;> rfl
  | binding localName target range => rfl
  | noReferences target => rfl

@[simp] theorem lang_foldl (items : List Finding) (found : Findings) :
    (items.foldl add found).lang = found.lang := foldl_keeps lang_add items found

@[simp] theorem file_add (found : Findings) (item : Finding) :
    (found.add item).file = found.file := by
  cases item with
  | definition name kind range container => rfl
  | reference name range target => cases target <;> rfl
  | binding localName target range => rfl
  | noReferences target => rfl

@[simp] theorem file_foldl (items : List Finding) (found : Findings) :
    (items.foldl add found).file = found.file := foldl_keeps file_add items found

@[simp] theorem lang_ofList (lang path : String) (items : List Finding) :
    (ofList lang path items).lang = lang := lang_foldl items _

@[simp] theorem file_ofList (lang path : String) (items : List Finding) :
    (ofList lang path items).file = Path.normalize path := file_foldl items _

@[simp] theorem identify_add (found : Findings) (item : Finding) :
    (found.add item).identify = found.identify := by
  funext name container
  rw [identify, identify, lang_add, file_add]

theorem identity?_add (found : Findings) (item : Finding) :
    (found.add item).identity? = found.identity? := by
  funext other
  cases other with
  | definition name kind range container => rw [identity?, identity?, identify_add]
  | reference name range target => rfl
  | binding localName target range => rfl
  | noReferences target => rfl

@[simp] theorem identify_foldl (items : List Finding) (found : Findings) :
    (items.foldl add found).identify = found.identify := foldl_keeps identify_add items found

theorem occurrencesOf_congr {found other : Findings} (same : found.identify = other.identify) :
    found.occurrencesOf = other.occurrencesOf := by
  funext item
  cases item with
  | definition name kind range container => rw [occurrencesOf, occurrencesOf, same]
  | reference name range target => rfl
  | binding localName target range => rfl
  | noReferences target => rfl

theorem occurrences_foldl (items : List Finding) (found : Findings) :
    (items.foldl add found).occurrences =
      found.occurrences ++ items.flatMap found.occurrencesOf := by
  induction items generalizing found with
  | nil => exact (List.append_nil _).symm
  | cons item rest ih =>
    rw [List.foldl_cons, ih, occurrences_add, occurrencesOf_congr (identify_add found item),
      List.flatMap_cons, List.append_assoc]

theorem Recorded.unidentified {found : Findings} (recorded : found.Recorded)
    {occurrence : Occurrence} (occurs : occurrence ∈ found.occurrences)
    (role : occurrence.role ≠ .definition) : occurrence.identity = none := by
  obtain ⟨lang, path, items, rfl⟩ := recorded
  have none_before : (start lang path).occurrences = [] := rfl
  rw [ofList, occurrences_foldl, none_before, List.nil_append, List.mem_flatMap] at occurs
  obtain ⟨item, _, here⟩ := occurs
  cases item with
  | definition name kind range container =>
    rw [List.mem_singleton.1 here] at role
    exact absurd rfl role
  | reference name range target => rw [List.mem_singleton.1 here]
  | binding localName target range => rw [List.mem_singleton.1 here]
  | noReferences target => cases here

theorem mem_referencesTo_foldl {items : List Finding} {found : Findings} {identity : Identity}
    {reference : Reference}
    (member : reference ∈ (items.foldl add found).referencesTo identity) :
    reference ∈ found.referencesTo identity ∨
      ∃ name, Finding.reference name reference.range (some identity) ∈ items := by
  induction items generalizing found with
  | nil => exact .inl member
  | cons item rest ih =>
    obtain earlier | ⟨name, later⟩ := ih member
    · cases item with
      | reference name range target =>
        rw [add, referencesTo_refer, List.mem_append] at earlier
        obtain known | here := earlier
        · exact .inl known
        · split at here
          · next same =>
            rw [List.mem_singleton.1 here, same]
            exact .inr ⟨name, List.mem_cons_self⟩
          · cases here
      | definition name kind range container => exact .inl earlier
      | binding localName target range => exact .inl earlier
      | noReferences target =>
        simp only [referencesTo, add, Table.get?_insert] at earlier
        split at earlier
        · cases earlier
        · exact .inl earlier
    · exact .inr ⟨name, List.mem_cons_of_mem _ later⟩

theorem marks_add (found : Findings) (item : Finding) :
    (found.add item).marks = found.marks ++
      (found.occurrencesOf item).filter fun occurrence => occurrence.role = .definition := by
  rw [marks, occurrences_add, List.filter_append]
  rfl

theorem definitions_add (found : Findings) (item : Finding) :
    (found.add item).definitions = match item with
      | .definition name kind range container =>
        found.definitions.insert (found.identify name container)
          ⟨found.lang, found.file, range, name, kind⟩
      | _ => found.definitions := by
  cases item with
  | reference name range target => cases target <;> rfl
  | definition name kind range container => rfl
  | binding localName target range => rfl
  | noReferences target => rfl

theorem mem_keys_foldl {items : List Finding} {found : Findings} {identity : Identity} :
    identity ∈ (items.foldl add found).definitions.keys ↔
      identity ∈ found.definitions.keys ∨
        ∃ item ∈ items, found.identity? item = some identity := by
  induction items generalizing found with
  | nil => simp
  | cons item rest ih =>
    have here : identity ∈ (found.add item).definitions.keys ↔
        identity ∈ found.definitions.keys ∨ found.identity? item = some identity := by
      rw [definitions_add]
      cases item with
      | definition name kind range container =>
        simp only [identity?, Table.mem_keys_insert, Option.some.injEq, or_comm]
      | reference name range target => simp [identity?]
      | binding localName target range => simp [identity?]
      | noReferences target => simp [identity?]
    rw [List.foldl_cons, ih, here, identity?_add]
    simp only [List.mem_cons, exists_eq_or_imp, or_assoc]

theorem exists_definition_of_mem_keys {lang path : String} {items : List Finding}
    {identity : Identity} (defined : identity ∈ (ofList lang path items).definitions.keys) :
    ∃ name kind range container, Finding.definition name kind range container ∈ items ∧
      identity = (ofList lang path items).identify name container := by
  rw [ofList, identify_foldl]
  rcases mem_keys_foldl.1 defined with before | ⟨item, member, same⟩
  · cases before
  · cases item with
    | definition name kind range container =>
      exact ⟨name, kind, range, container, member, (Option.some.inj same).symm⟩
    | reference name range target => cases same
    | binding localName target range => cases same
    | noReferences target => cases same

theorem Faithful.add {found : Findings} (faithful : found.Faithful) (item : Finding) :
    (found.add item).Faithful := by
  intro identity
  have before := faithful identity
  rw [marksOf] at before
  rw [marksOf, marks_add, definitions_add, List.filter_append]
  cases item with
  | definition name kind range container =>
    have mark : (found.occurrencesOf (.definition name kind range container)).filter
        (fun occurrence => occurrence.role = .definition) =
          [⟨name, .definition, range, some (found.identify name container)⟩] := rfl
    rw [mark]
    dsimp only
    rw [Table.get?_insert]
    by_cases same : found.identify name container = identity
    · rw [if_pos same, List.filter_cons_of_pos (by simp [same]), List.filter_nil,
        List.getLast?_append]
      rfl
    · rw [if_neg same, List.filter_cons_of_neg (by simp [same]), List.filter_nil, List.append_nil]
      exact before
  | reference name range target => simpa [occurrencesOf] using before
  | binding localName target range => simpa [occurrencesOf] using before
  | noReferences target => simpa [occurrencesOf] using before

theorem Recorded.faithful {found : Findings} (recorded : found.Recorded) : found.Faithful := by
  obtain ⟨lang, path, items, rfl⟩ := recorded
  exact List.foldlRecOn items _ (fun identity => rfl) fun _ faithful item _ => faithful.add item

def Marked (found : Findings) : Prop :=
  ∀ occurrence ∈ found.occurrences, ∀ identity, occurrence.identity = some identity →
    identity ∈ found.definitions.keys

theorem Marked.add {found : Findings} (marked : found.Marked) (item : Finding) :
    (found.add item).Marked := by
  intro occurrence member identity known
  rw [occurrences_add, List.mem_append] at member
  rw [definitions_add]
  cases item with
  | definition name kind range container =>
    dsimp only
    rw [Table.mem_keys_iff, Table.get?_insert]
    split
    · rfl
    · next other =>
      rcases member with earlier | here
      · exact Table.mem_keys_iff.1 (marked occurrence earlier identity known)
      · rw [occurrencesOf, List.mem_singleton] at here
        subst here
        exact absurd (Option.some.inj known) other
  | reference name range target =>
    rcases member with earlier | here
    · exact marked occurrence earlier identity known
    · rw [List.mem_singleton.1 here] at known
      cases known
  | binding localName target range =>
    rcases member with earlier | here
    · exact marked occurrence earlier identity known
    · rw [List.mem_singleton.1 here] at known
      cases known
  | noReferences target =>
    rcases member with earlier | here
    · exact marked occurrence earlier identity known
    · cases here

theorem Recorded.marked {found : Findings} (recorded : found.Recorded) : found.Marked := by
  obtain ⟨lang, path, items, rfl⟩ := recorded
  have begun : (start lang path).Marked := by
    intro occurrence member
    cases member
  exact List.foldlRecOn items _ begun fun _ marked item _ => marked.add item

theorem Faithful.mark {found : Findings} (faithful : found.Faithful) {identity : Identity}
    {definition : Definition} (stored : found.definitions.get? identity = some definition) :
    ∃ mark, (found.marksOf identity).getLast? = some mark ∧ mark.name = definition.name ∧
      mark.range = definition.range := by
  have last := faithful identity
  rw [stored, Option.map_some, eq_comm, Option.map_eq_some_iff] at last
  obtain ⟨mark, here, same⟩ := last
  obtain ⟨name, range⟩ := Prod.mk.inj same
  exact ⟨mark, here, name, range⟩

theorem Faithful.stored {found : Findings} (faithful : found.Faithful) {identity : Identity}
    {mark : Occurrence} (last : (found.marksOf identity).getLast? = some mark) :
    ∃ definition, found.definitions.get? identity = some definition ∧
      definition.name = mark.name ∧ definition.range = mark.range := by
  have here := faithful identity
  rw [last, Option.map_some, Option.map_eq_some_iff] at here
  obtain ⟨definition, stored, same⟩ := here
  obtain ⟨name, range⟩ := Prod.mk.inj same
  exact ⟨definition, stored, name, range⟩

end CodeNav.Findings
