/-! Folds, and computations that may fail, taken apart where they succeed. -/
namespace CodeNav

variable {α β γ ε ρ : Type}

theorem foldl_keeps {view : α → γ} {step : α → β → α}
    (keeps : ∀ state item, view (step state item) = view state) (items : List β) (start : α) :
    view (items.foldl step start) = view start := by
  induction items generalizing start with
  | nil => rfl
  | cons item rest ih => rw [List.foldl_cons, ih, keeps]

/-- What is seen of a state changes only in the steps at one item, and there once for all. -/
theorem foldl_changes [DecidableEq β] {step : α → β → α} (seen : α → γ) (change : γ → γ) (here : β)
    (steps : ∀ state item,
      seen (step state item) = if item = here then change (seen state) else seen state)
    (twice : ∀ value, change (change value) = change value) (items : List β) (start : α) :
    seen (items.foldl step start) = if here ∈ items then change (seen start) else seen start := by
  induction items generalizing start with
  | nil => simp
  | cons item rest ih =>
    rw [List.foldl_cons, ih, steps]
    by_cases same : item = here
    · simp [same, twice]
    · simp [same, Ne.symm same]

/-- Folds over the same items in another order lead to related states, if related states stay so
and two steps may change places. -/
theorem foldl_rel_of_perm {rel : α → α → Prop} {step : α → β → α} (refl : ∀ a, rel a a)
    (trans : ∀ a b c, rel a b → rel b c → rel a c)
    (keeps : ∀ a b item, rel a b → rel (step a item) (step b item))
    (swaps : ∀ a first second, rel (step (step a first) second) (step (step a second) first))
    {items others : List β} (perm : items.Perm others) (start : α) :
    rel (items.foldl step start) (others.foldl step start) := by
  have along (rest : List β) (a b : α) (related : rel a b) :
      rel (rest.foldl step a) (rest.foldl step b) := by
    induction rest generalizing a b with
    | nil => exact related
    | cons item rest ih => exact ih _ _ (keeps a b item related)
  induction perm generalizing start with
  | nil => exact refl start
  | cons item _ ih => exact ih (step start item)
  | swap first second rest => exact along rest _ _ (swaps start second first)
  | trans _ _ first second => exact trans _ _ _ (first start) (second start)

theorem bind_eq_ok {computation : Except ε α} {next : α → Except ε β} {result : β} :
    computation >>= next = .ok result ↔
      ∃ value, computation = .ok value ∧ next value = .ok result := by
  cases computation with
  | error failure =>
    constructor
    · intro done
      cases done
    · rintro ⟨value, failed, _⟩
      cases failed
  | ok value =>
    constructor
    · intro done
      exact ⟨value, rfl, done⟩
    · rintro ⟨other, same, done⟩
      cases same
      exact done

theorem toOption_eq_some {computation : Except ε α} {result : α} :
    computation.toOption = some result ↔ computation = .ok result := by
  cases computation with
  | error failure =>
    constructor
    · intro done
      cases done
    · intro done
      cases done
  | ok value =>
    exact ⟨fun done => congrArg Except.ok (Option.some.inj done), fun done => done ▸ rfl⟩

theorem eq_of_map_toOption (view : α → β) {computation : Except ε α} {result : α} {seen : β}
    (computed : computation.toOption.map view = some seen) (done : computation = .ok result) :
    view result = seen := by
  rw [done] at computed
  exact Option.some.inj computed

theorem map_eq_ok {computation : Except ε α} {change : α → β} {result : β} :
    computation.map change = .ok result ↔
      ∃ value, computation = .ok value ∧ change value = result := by
  cases computation with
  | error failure =>
    constructor
    · intro done
      cases done
    · rintro ⟨value, failed, _⟩
      cases failed
  | ok value =>
    constructor
    · intro done
      exact ⟨value, rfl, Except.ok.inj done⟩
    · rintro ⟨other, same, rfl⟩
      cases same
      rfl

theorem foldlM_preserves (holds : α → Prop) {step : α → β → Except ε α}
    (preserves : ∀ state item next, step state item = .ok next → holds state → holds next)
    {items : List β} {start final : α} (initially : holds start)
    (done : items.foldlM step start = .ok final) : holds final := by
  induction items generalizing start with
  | nil =>
    cases done
    exact initially
  | cons item rest ih =>
    rw [List.foldlM_cons, bind_eq_ok] at done
    obtain ⟨next, stepped, done⟩ := done
    exact ih (preserves start item next stepped initially) done

theorem exists_foldlM_eq_ok {step : α → β → Except ε α} {items : List β}
    (succeeds : ∀ state, ∀ item ∈ items, ∃ next, step state item = .ok next) (start : α) :
    ∃ final, items.foldlM step start = .ok final := by
  induction items generalizing start with
  | nil => exact ⟨start, rfl⟩
  | cons item rest ih =>
    obtain ⟨next, stepped⟩ := succeeds start item List.mem_cons_self
    obtain ⟨final, done⟩ := ih (fun state other member =>
      succeeds state other (List.mem_cons_of_mem _ member)) next
    exact ⟨final, bind_eq_ok.2 ⟨next, stepped, done⟩⟩

/-- Where a step can only fail in what it fetches for an item, a run that succeeds is a plain one
over the items with what was fetched for them. -/
theorem foldlM_eq_ok {fetch : α → Except ε ρ} {add : β → α × ρ → β} {step : β → α → Except ε β}
    (steps : ∀ state item,
      step state item = (fetch item).map fun fetched => add state (item, fetched))
    {items : List α} {start final : β} (done : items.foldlM step start = .ok final) :
    ∃ pairs : List (α × ρ), pairs.map Prod.fst = items ∧
      (∀ pair ∈ pairs, fetch pair.1 = .ok pair.2) ∧ final = pairs.foldl add start := by
  induction items generalizing start with
  | nil =>
    cases done
    exact ⟨[], rfl, nofun, rfl⟩
  | cons item rest ih =>
    rw [List.foldlM_cons, bind_eq_ok] at done
    obtain ⟨next, stepped, done⟩ := done
    rw [steps, map_eq_ok] at stepped
    obtain ⟨fetched, here, rfl⟩ := stepped
    obtain ⟨pairs, first, ranges, rfl⟩ := ih done
    refine ⟨(item, fetched) :: pairs, ?_, ?_, rfl⟩
    · rw [List.map_cons, first]
    · intro pair member
      rw [List.mem_cons] at member
      obtain rfl | later := member
      · exact here
      · exact ranges pair later

theorem exists_of_mapM_eq_error {f : α → Except ε β} {items : List α} {error : ε}
    (failed : items.mapM f = .error error) : ∃ item ∈ items, f item = .error error := by
  induction items with
  | nil => cases failed
  | cons item rest ih =>
    rw [List.mapM_cons] at failed
    cases here : f item with
    | error other =>
      rw [here] at failed
      cases failed
      exact ⟨item, List.mem_cons_self, here⟩
    | ok value =>
      cases later : rest.mapM f with
      | error other =>
        rw [here, later] at failed
        cases failed
        obtain ⟨culprit, member, fails⟩ := ih later
        exact ⟨culprit, List.mem_cons_of_mem _ member, fails⟩
      | ok values =>
        rw [here, later] at failed
        cases failed

theorem exists_of_mem_mapM {f : α → Except ε β} {items : List α} {values : List β}
    (done : items.mapM f = .ok values) {value : β} (member : value ∈ values) :
    ∃ item ∈ items, f item = .ok value := by
  induction items generalizing values with
  | nil =>
    cases done
    cases member
  | cons item rest ih =>
    rw [List.mapM_cons, bind_eq_ok] at done
    obtain ⟨first, here, done⟩ := done
    rw [bind_eq_ok] at done
    obtain ⟨others, later, same⟩ := done
    cases same
    rcases List.mem_cons.1 member with rfl | inside
    · exact ⟨item, List.mem_cons_self, here⟩
    · obtain ⟨source, known, made⟩ := ih later inside
      exact ⟨source, List.mem_cons_of_mem _ known, made⟩

theorem exists_mapM_eq_error {f : α → Except ε β} {items : List α} {item : α} {error : ε}
    (member : item ∈ items) (fails : f item = .error error) :
    ∃ first, items.mapM f = .error first := by
  induction items with
  | nil => cases member
  | cons head rest ih =>
    rw [List.mapM_cons]
    cases here : f head with
    | error other => exact ⟨other, rfl⟩
    | ok value =>
      rcases List.mem_cons.1 member with rfl | later
      · rw [fails] at here
        cases here
      · obtain ⟨first, failed⟩ := ih later
        exact ⟨first, by rw [failed]; rfl⟩

end CodeNav
