import TagQuery.Proofs.Batch.Gathering

/-!
# Which batches are refused

A batch is refused if it has no selectors, or no links, or a selector that cannot be read, and the
first of these in this order is the reason (`Refused`). Among several selectors that cannot be read
the one with the least name counts, in whatever order they were put in.

A fetcher may read and change any state when it is asked for a document. A call on a refused batch
leaves this state and the printed warnings alone, and every other call succeeds, whatever the fetcher
does (`ChecksFirst`). Runs are such calls because they read the selectors before anything else
(`checksFirst_run`), and so is what only works on the result of one (`ChecksFirst.map`).
-/

namespace TagQuery.Batch

/-! ## Reasons -/

/-- Why a batch is refused. -/
inductive Refused (batch : Batch) : ContractError → Prop
  | selectors (missing : batch.selectors.names = []) : Refused batch .noSelectors
  | links (named : batch.selectors.names ≠ []) (missing : batch.links = []) :
      Refused batch .noLinks
  /-- Of the selectors that cannot be read the one with the least name counts. -/
  | selector (named : batch.selectors.names ≠ []) (linked : batch.links ≠ []) {name source : Text}
      {error : ContractError} (held : batch.selectors.get? name = some source)
      (unreadable : Selector.ofText source = .error error)
      (least : ∀ other text, batch.selectors.get? other = some text → other < name →
        ∃ selector, Selector.ofText text = .ok selector) :
      Refused batch error

variable {batch : Batch}

/-- The selectors of a batch are read unless it is refused. -/
theorem readSelectors_eq_error_iff {error : ContractError} :
    batch.readSelectors = .error error ↔ Refused batch error := by
  unfold readSelectors
  split
  · rename_i empty
    have missing := NameMap.isEmpty_iff.mp empty
    constructor
    · rintro ⟨⟩
      exact .selectors missing
    · rintro (_ | named | named)
      · rfl
      · exact absurd missing named
      · exact absurd missing named
  · rename_i filled
    have named : batch.selectors.names ≠ [] := mt NameMap.isEmpty_iff.mpr filled
    split
    · rename_i empty
      have missing := List.isEmpty_iff.mp empty
      constructor
      · rintro ⟨⟩
        exact .links named missing
      · rintro (absent | _ | ⟨_, linked⟩)
        · exact absurd absent named
        · rfl
        · exact absurd missing linked
    · rename_i some
      have linked : batch.links ≠ [] := mt List.isEmpty_iff.mpr some
      rw [NameMap.traverse_eq_error_iff]
      constructor
      · rintro ⟨name, source, held, unreadable, least⟩
        exact .selector named linked held unreadable least
      · rintro (absent | ⟨_, absent⟩ | ⟨_, _, held, unreadable, least⟩)
        · exact absurd absent named
        · exact absurd absent linked
        · exact ⟨_, _, held, unreadable, least⟩

/-- Nothing is wrong with a batch whose selectors are read. -/
theorem runnable_of_readSelectors {selectors : NameMap Selector}
    (read : batch.readSelectors = .ok selectors) : Runnable batch where
  selectors missing := by
    rw [readSelectors, if_pos (NameMap.isEmpty_iff.mpr missing)] at read
    cases read
  links missing := by
    unfold readSelectors at read
    rw [missing] at read
    split at read <;> cases read
  readable name source held := by
    obtain ⟨selector, readOne, _⟩ := NameMap.exists_of_traverse (readSelectors_eq_ok read) held
    exact ⟨selector, ofText_eq_ok_iff.mp readOne⟩

/-- A batch is refused if something is wrong with it. -/
theorem exists_refused_iff : (∃ error, Refused batch error) ↔ ¬ Runnable batch := by
  constructor
  · rintro ⟨error, refused⟩ runnable
    obtain ⟨selectors, read⟩ := runnable.exists_readSelectors
    rw [readSelectors_eq_error_iff.mpr refused] at read
    cases read
  · intro wrong
    cases read : batch.readSelectors with
    | error error => exact ⟨error, readSelectors_eq_error_iff.mp read⟩
    | ok selectors => exact absurd (runnable_of_readSelectors read) wrong

theorem not_runnable_iff :
    ¬ Runnable batch ↔
      batch.selectors.names = [] ∨ batch.links = [] ∨
        ∃ name source fault, batch.selectors.get? name = some source ∧
          Selector.parse source = .error fault := by
  constructor
  · intro wrong
    by_contra fine
    simp only [not_or, not_exists, not_and] at fine
    obtain ⟨named, linked, readable⟩ := fine
    refine wrong ⟨named, linked, fun name source held => ?_⟩
    cases read : Selector.parse source with
    | error fault => exact absurd read (readable name source fault held)
    | ok selector => exact ⟨selector, rfl⟩
  · rintro (missing | missing | ⟨name, source, fault, held, failed⟩) ⟨named, linked, readable⟩
    · exact named missing
    · exact linked missing
    · obtain ⟨selector, read⟩ := readable name source held
      rw [failed] at read
      cases read

/-! ## Calls -/

/-- In any monad a refused batch comes to its refusal and to no effect. -/
theorem run_of_refused {m : Type → Type} [Monad m] {error : ContractError}
    (refused : Refused batch error) (fetch : Text → m (Except TransportError Text))
    (warnings : Warnings) : batch.run fetch warnings = pure (.error error, warnings) := by
  rw [run, readSelectors_eq_error_iff.mpr refused]

/-- A call that finds out whether the batch is refused before it does anything else: then it has no
effect on the printed warnings and on the state of the fetcher, and otherwise it succeeds. -/
structure ChecksFirst {σ α : Type} (batch : Batch)
    (call : Warnings → StateM σ (Except ContractError α × Warnings)) : Prop where
  error_iff : ∀ warnings state error,
    (call warnings state).1.1 = .error error ↔ Refused batch error
  untouched : ∀ warnings state error, Refused batch error →
    (call warnings state).1.2 = warnings ∧ (call warnings state).2 = state
  succeeds : (¬ ∃ error, Refused batch error) →
    ∀ warnings state, ∃ value, (call warnings state).1.1 = .ok value

section Calls
variable {σ α β : Type} (fetch : Text → StateM σ (Except TransportError Text))

theorem checksFirst_run (batch : Batch) : ChecksFirst batch (batch.run fetch) := by
  cases read : batch.readSelectors with
  | error reason =>
    have only error : Refused batch error ↔ reason = error := by
      rw [← readSelectors_eq_error_iff, read, Except.error.injEq]
    have refuses warnings state :
        batch.run fetch warnings state = ((.error reason, warnings), state) := by
      rw [run_of_refused ((only reason).mpr rfl)]
      rfl
    refine ⟨fun warnings state error => ?_, fun warnings state _ _ => ?_, fun granted => ?_⟩
    · rw [refuses, only, Except.error.injEq]
    · rw [refuses]
      exact ⟨rfl, rfl⟩
    · exact absurd ⟨reason, (only reason).mpr rfl⟩ granted
  | ok selectors =>
    have granted error : ¬ Refused batch error := by
      rw [← readSelectors_eq_error_iff, read]
      rintro ⟨⟩
    have succeeds warnings state : ∃ report, (batch.run fetch warnings state).1.1 = .ok report := by
      rw [run, read]
      exact ⟨_, rfl⟩
    refine ⟨fun warnings state error => ?_, fun _ _ error refused => absurd refused (granted error),
      fun _ => succeeds⟩
    obtain ⟨report, succeeded⟩ := succeeds warnings state
    rw [succeeded]
    exact iff_of_false (by rintro ⟨⟩) (granted error)

/-- What only works on the result of a call checks first if the call does. -/
theorem ChecksFirst.map {call : Warnings → StateM σ (Except ContractError α × Warnings)}
    (checks : ChecksFirst batch call) (g : α → β) :
    ChecksFirst batch fun warnings => do
      let (result, printed) ← call warnings
      return (result.map g, printed) := by
  have mapped (result : Except ContractError α) (error : ContractError) :
      result.map g = .error error ↔ result = .error error := by
    cases result <;> simp [Except.map]
  refine ⟨fun warnings state error => ?_, checks.untouched, fun granted warnings state => ?_⟩
  · rw [← checks.error_iff warnings state error]
    exact mapped (call warnings state).1.1 error
  · obtain ⟨value, succeeded⟩ := checks.succeeds granted warnings state
    exact ⟨g value, congrArg (Except.map g) succeeded⟩

/-- A batch is refused exactly if it has no selectors, no links or a selector that cannot be read, in
this order and with these messages. Each of the calls says so before it has any effect, and succeeds
on every other batch. -/
theorem calls_checkFirst (batch : Batch) :
    ContractError.noSelectors.message = "Selectors not provided".toList ∧
      ContractError.noLinks.message = "Links not provided".toList ∧
      ((∃ error, Refused batch error) ↔
        batch.selectors.names = [] ∨ batch.links = [] ∨
          ∃ name source fault, batch.selectors.get? name = some source ∧
            Selector.parse source = .error fault) ∧
      ChecksFirst batch (batch.run fetch) ∧
      ChecksFirst batch (batch.elements fetch) ∧
      ChecksFirst batch (batch.innerTexts fetch) ∧
      ∀ key, ChecksFirst batch (batch.projections key fetch) := by
  have run := checksFirst_run fetch batch
  have elements : ChecksFirst batch (batch.elements fetch) := run.map BatchReport.results
  have texts : ChecksFirst batch (batch.innerTexts fetch) :=
    elements.map (NameMap.mapValues (List.map Element.innerText))
  have values key : ChecksFirst batch (batch.projections key fetch) :=
    elements.map (NameMap.mapValues (project key))
  exact ⟨rfl, rfl, exists_refused_iff.trans not_runnable_iff, run, elements, texts, values⟩

end Calls

end TagQuery.Batch
