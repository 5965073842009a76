import Mathlib.Data.List.Basic
import TagQuery.Batch
import TagQuery.Proofs.Text.NameMap

/-!
# What a batch run gathers

A run carries three things along the links: what each selector has found, the diagnostics, and,
outside of it, the links that have been asked for. Each is said here for a whole list of links
without the run: a link contributes to a selector what the selector finds in its document
(`contribution`), and it is noted if there is no such document (`complaint?`).

`add_spec` says this for one link and `advance_spec` for several. `run_gathers` is the statement
about runs, which also says that nothing found under one name depends on the other selectors, on
links that are repeated or on links without a document.
-/

namespace TagQuery.Batch

/-! ## Links in the order in which they are first seen -/

section FirstSeen
variable {α : Type} [BEq α] [LawfulBEq α]

/-- The members of a list, each once, in the order of their first places in it. -/
structure FirstSeen (list distinct : List α) : Prop where
  once : distinct.Nodup
  same : ∀ a, a ∈ distinct ↔ a ∈ list
  order : distinct.Pairwise fun a b => list.idxOf a < list.idxOf b

theorem idxOf_lt_of_filter {p : α → Bool} {list : List α} {a b : α} (kept : p a = true)
    (alsoKept : p b = true) (before : (list.filter p).idxOf a < (list.filter p).idxOf b) :
    list.idxOf a < list.idxOf b := by
  induction list with
  | nil => exact before
  | cons c rest ih =>
    by_cases first : c = a
    · subst first
      rw [List.filter_cons_of_pos kept, List.idxOf_cons_self] at before
      have different : c ≠ b := by
        rintro rfl
        rw [List.idxOf_cons_self] at before
        exact Nat.lt_irrefl 0 before
      rw [List.idxOf_cons_self, List.idxOf_cons_ne _ different]
      exact Nat.succ_pos _
    · by_cases second : c = b
      · subst second
        rw [List.filter_cons_of_pos alsoKept, List.idxOf_cons_self] at before
        exact absurd before (Nat.not_lt_zero _)
      · rw [List.idxOf_cons_ne _ first, List.idxOf_cons_ne _ second]
        by_cases keep : p c = true
        · rw [List.filter_cons_of_pos keep, List.idxOf_cons_ne _ first,
            List.idxOf_cons_ne _ second] at before
          exact Nat.succ_lt_succ (ih (Nat.lt_of_succ_lt_succ before))
        · rw [List.filter_cons_of_neg keep] at before
          exact Nat.succ_lt_succ (ih before)

omit [LawfulBEq α] in
theorem eraseDups_cons_ne (a : α) (rest : List α) :
    (a :: rest).eraseDups = a :: (rest.filter (· != a)).eraseDups := List.eraseDups_cons

/-- Erasing what is repeated keeps the first of each. -/
theorem firstSeen_eraseDups : (list : List α) → FirstSeen list list.eraseDups
  | [] => ⟨List.nodup_nil, fun a => Iff.rfl, .nil⟩
  | a :: rest => by
    obtain ⟨once, same, order⟩ := firstSeen_eraseDups (rest.filter (· != a))
    have others : ∀ b ∈ (rest.filter (· != a)).eraseDups, a ≠ b := fun b member equal =>
      bne_iff_ne.mp (List.mem_filter.mp ((same b).mp member)).2 equal.symm
    rw [eraseDups_cons_ne]
    constructor
    · exact List.nodup_cons.mpr ⟨fun again => others a again rfl, once⟩
    · intro b
      rw [List.mem_cons, List.mem_cons, same b, List.mem_filter, bne_iff_ne]
      by_cases equal : b = a
      · simp only [equal, true_or]
      · simp only [equal, false_or, ne_eq, not_false_eq_true, and_true]
    · refine List.pairwise_cons.mpr ⟨fun b member => ?_, order.imp_of_mem ?_⟩
      · rw [List.idxOf_cons_self, List.idxOf_cons_ne _ (others b member)]
        exact Nat.succ_pos _
      · intro b c first second before
        rw [List.idxOf_cons_ne _ (others b first), List.idxOf_cons_ne _ (others c second)]
        exact Nat.succ_lt_succ (idxOf_lt_of_filter (p := (· != a))
          (bne_iff_ne.mpr (others b first).symm) (bne_iff_ne.mpr (others c second).symm) before)
termination_by list => list.length
decreasing_by exact Nat.lt_succ_of_le (List.length_filter_le ..)

theorem FirstSeen.eq_eraseDups {list distinct : List α} (seen : FirstSeen list distinct) :
    distinct = list.eraseDups := by
  have erased := firstSeen_eraseDups list
  have members : distinct.Perm list.eraseDups :=
    (List.perm_ext_iff_of_nodup seen.once erased.once).mpr fun a =>
      (seen.same a).trans (erased.same a).symm
  have antisymmetric : ∀ a b, a ∈ distinct → b ∈ list.eraseDups →
      list.idxOf a < list.idxOf b → list.idxOf b < list.idxOf a → a = b :=
    fun _ _ _ _ before after => absurd after (Nat.lt_asymm before)
  exact members.eq_of_pairwise antisymmetric seen.order erased.order

/-- It makes no difference whether members are dropped before or after. -/
theorem eraseDups_filter (p : α → Bool) :
    (list : List α) → (list.filter p).eraseDups = list.eraseDups.filter p
  | [] => rfl
  | a :: rest => by
    have later := eraseDups_filter p (rest.filter (· != a))
    rw [List.filter_comm] at later
    by_cases keep : p a = true
    · rw [List.filter_cons_of_pos keep, eraseDups_cons_ne, eraseDups_cons_ne,
        List.filter_cons_of_pos keep, later]
    · have gone : (rest.filter p).filter (· != a) = rest.filter p :=
        List.filter_eq_self.mpr fun b member => bne_iff_ne.mpr fun same =>
          keep (same ▸ (List.mem_filter.mp member).2)
      rw [gone] at later
      rw [List.filter_cons_of_neg keep, eraseDups_cons_ne, List.filter_cons_of_neg keep, later]
termination_by list => list.length
decreasing_by exact Nat.lt_succ_of_le (List.length_filter_le ..)

end FirstSeen

/-! ## What one link contributes -/

/-- The answers of a fetcher. -/
abbrev Answers := Text → Except TransportError Text

/-- What a selector finds in the document that answers a link, if there is one. -/
def contribution (mode : ExtractMode) (answer : Except TransportError Text) (selector : Selector) :
    List Element :=
  match answer with
  | .ok text => if Document.isHtml text then selector.find (Markup.extract mode text) else []
  | .error _ => []

/-- The diagnostic of a link that is not answered by a document. -/
def complaint? (link : Text) (answer : Except TransportError Text) : Option Diagnostic :=
  match answer with
  | .ok text =>
    if Document.isHtml text then none else some ⟨link, "not an HTML document".toList⟩
  | .error error => some ⟨link, error.message⟩

/-- Whether a link is answered by a document. -/
def answered (answers : Answers) (link : Text) : Bool :=
  match answers link with
  | .ok text => Document.isHtml text
  | .error _ => false

/-- A fetcher that gives fixed answers and logs the links that it is asked for. -/
def logged (answers : Answers) (link : Text) : StateM (List Text) (Except TransportError Text) :=
  fun log => (answers link, log ++ [link])

theorem contribution_eq_nil {answers : Answers} {link : Text}
    (missing : answered answers link = false) (mode : ExtractMode) (selector : Selector) :
    contribution mode (answers link) selector = [] := by
  unfold answered at missing
  unfold contribution
  split at missing
  · rw [missing]
    rfl
  · rfl

/-- What a selector finds depends on no link that is not answered by a document. -/
theorem flatMap_contribution_filter (answers : Answers) (mode : ExtractMode) (selector : Selector)
    (links : List Text) :
    ((links.filter (answered answers)).flatMap fun link =>
        contribution mode (answers link) selector) =
      links.flatMap fun link => contribution mode (answers link) selector := by
  induction links with
  | nil => rfl
  | cons link rest ih =>
    cases has : answered answers link with
    | true => rw [List.filter_cons_of_pos has, List.flatMap_cons, List.flatMap_cons, ih]
    | false =>
      rw [List.filter_cons_of_neg (by simp [has]), List.flatMap_cons,
        contribution_eq_nil has, ih, List.nil_append]

/-- What a link adds to the findings and to the diagnostics. -/
theorem add_spec (progress : BatchProgress) (mode : ExtractMode) (link : Text)
    (answer : Except TransportError Text) :
    (progress.add mode link answer).found =
        progress.found.mapValues (fun (selector, before) =>
          (selector, before ++ contribution mode answer selector)) ∧
      (progress.add mode link answer).diagnostics.toList =
        progress.diagnostics.toList ++ (complaint? link answer).toList := by
  have nothing : progress.found.mapValues (fun (selector, before) => (selector, before ++ [])) =
      progress.found := by
    simp only [List.append_nil]
    exact NameMap.mapValues_id progress.found
  cases answer with
  | error error => exact ⟨nothing.symm, rfl⟩
  | ok text =>
    simp only [BatchProgress.add, readDocument, contribution, complaint?]
    cases Document.isHtml text with
    | true => exact ⟨rfl, (List.append_nil _).symm⟩
    | false => exact ⟨nothing.symm, rfl⟩

/-! ## What several links contribute -/

section Links
variable (answers : Answers) (mode : ExtractMode)

/-- The progress after some links. -/
def advance (progress : BatchProgress) (links : List Text) : BatchProgress :=
  links.foldl (fun progress link => progress.add mode link (answers link)) progress

/-- The findings and the diagnostics grow by what the links contribute, link after link. -/
theorem advance_spec (progress : BatchProgress) (links : List Text) :
    (advance answers mode progress links).found =
        progress.found.mapValues (fun (selector, before) =>
          (selector, before ++ links.flatMap fun link =>
            contribution mode (answers link) selector)) ∧
      (advance answers mode progress links).diagnostics.toList =
        progress.diagnostics.toList ++
          links.filterMap fun link => complaint? link (answers link) := by
  induction links generalizing progress with
  | nil =>
    simp only [advance, List.foldl_nil, List.flatMap_nil, List.filterMap_nil, List.append_nil]
    exact ⟨(NameMap.mapValues_id progress.found).symm, trivial⟩
  | cons link rest ih =>
    obtain ⟨found, diagnostics⟩ := add_spec progress mode link (answers link)
    obtain ⟨laterFound, laterDiagnostics⟩ := ih (progress.add mode link (answers link))
    constructor
    · rw [found, NameMap.mapValues_mapValues] at laterFound
      simp only [List.append_assoc] at laterFound
      exact laterFound
    · rw [diagnostics, List.append_assoc] at laterDiagnostics
      rw [List.filterMap_cons]
      cases noted : complaint? link (answers link) <;> rw [noted] at laterDiagnostics <;>
        exact laterDiagnostics

/-- A visit asks for each of its links once, in their order. -/
theorem visit_logged (progress : BatchProgress) (links log : List Text) :
    visit (logged answers) mode links progress log =
      (advance answers mode progress links, log ++ links) := by
  induction links generalizing progress log with
  | nil =>
    rw [List.append_nil]
    rfl
  | cons link rest ih =>
    have step : visit (logged answers) mode (link :: rest) progress log =
        visit (logged answers) mode rest (progress.add mode link (answers link)) (log ++ [link]) :=
      rfl
    rw [step, ih, List.append_assoc]
    rfl

end Links

/-! ## Runs -/

/-- A batch with which nothing is wrong. -/
structure Runnable (batch : Batch) : Prop where
  selectors : batch.selectors.names ≠ []
  links : batch.links ≠ []
  readable : ∀ name source, batch.selectors.get? name = some source →
    ∃ selector, Selector.parse source = .ok selector

/-- What a report says of some distinct links. -/
structure Gathered (answers : Answers) (batch : Batch) (distinct : List Text)
    (report : BatchReport) : Prop where
  names : report.results.names = batch.selectors.names
  found : ∀ name source selector, batch.selectors.get? name = some source →
    Selector.parse source = .ok selector →
      report.results.get? name =
        some (distinct.flatMap fun link => contribution batch.mode (answers link) selector)
  diagnostics : report.diagnostics.toList =
    distinct.filterMap fun link => complaint? link (answers link)

theorem ofText_eq_ok_iff {source : Text} {selector : Selector} :
    Selector.ofText source = .ok selector ↔ Selector.parse source = .ok selector := by
  unfold Selector.ofText
  cases Selector.parse source <;> simp [Except.mapError]

theorem readSelectors_eq_ok {batch : Batch} {selectors : NameMap Selector}
    (read : batch.readSelectors = .ok selectors) :
    batch.selectors.traverse Selector.ofText = .ok selectors := by
  unfold readSelectors at read
  split at read
  · cases read
  · split at read
    · cases read
    · exact read

theorem Runnable.exists_readSelectors {batch : Batch} (runnable : Runnable batch) :
    ∃ selectors, batch.readSelectors = .ok selectors := by
  have named : batch.selectors.isEmpty = false :=
    Bool.eq_false_iff.mpr (mt NameMap.isEmpty_iff.mp runnable.selectors)
  have linked : batch.links.isEmpty = false := by simpa using runnable.links
  obtain ⟨selectors, read⟩ := NameMap.exists_traverse (f := Selector.ofText)
    fun name source present => by
      obtain ⟨selector, parsed⟩ := runnable.readable name source present
      exact ⟨selector, ofText_eq_ok_iff.mpr parsed⟩
  refine ⟨selectors, ?_⟩
  simp only [readSelectors, named, linked, Bool.false_eq_true, ↓reduceIte, read]

section Run
variable {batch : Batch} {selectors : NameMap Selector} (answers : Answers)

/-- A run of a batch whose selectors can be read advances along its distinct links. -/
theorem run_logged (read : batch.readSelectors = .ok selectors) (warnings : Warnings)
    (log : List Text) :
    let last := advance answers batch.mode (.start selectors) batch.links.eraseDups
    batch.run (logged answers) warnings log =
      ((.ok last.report, last.warnings), log ++ batch.links.eraseDups) := by
  intro last
  have visited := visit_logged answers batch.mode (.start selectors) batch.links.eraseDups log
  simp only [run, read]
  change (fun progress => ((Except.ok progress.1.report, progress.1.warnings), progress.2))
    (visit (logged answers) batch.mode batch.links.eraseDups (.start selectors) log) = _
  rw [visited]

variable (selectors) in
/-- The report of a run is what the links contribute. -/
theorem report_advance (mode : ExtractMode) (links : List Text) :
    let report := (advance answers mode (.start selectors) links).report
    report.results = selectors.mapValues (fun selector =>
        links.flatMap fun link => contribution mode (answers link) selector) ∧
      report.diagnostics.toList = links.filterMap fun link => complaint? link (answers link) := by
  obtain ⟨found, diagnostics⟩ := advance_spec answers mode (.start selectors) links
  refine ⟨?_, diagnostics⟩
  rw [BatchProgress.start, NameMap.mapValues_mapValues] at found
  simp only [BatchProgress.report]
  rw [BatchProgress.start, found, NameMap.mapValues_mapValues]
  simp only [List.nil_append]

/-- What is found under a name is what its own selector finds in the documents. -/
theorem get?_results (read : batch.readSelectors = .ok selectors) (links : List Text)
    (name : Text) :
    (advance answers batch.mode (.start selectors) links).report.results.get? name =
      ((batch.selectors.get? name).bind fun source => (Selector.parse source).toOption).map
        fun selector => links.flatMap fun link =>
          contribution batch.mode (answers link) selector := by
  have own : selectors.get? name =
      (batch.selectors.get? name).bind fun source => (Selector.parse source).toOption := by
    rw [NameMap.get?_traverse (readSelectors_eq_ok read)]
    congr 1
    funext source
    unfold Selector.ofText
    cases Selector.parse source <;> rfl
  rw [(report_advance selectors answers batch.mode links).1, NameMap.get?_mapValues, own]

end Run

section Views
variable {batch : Batch} {answers : Answers} {warnings printed : Warnings} {log asked : List Text}

theorem elements_of_run {report : BatchReport}
    (ran : batch.run (logged answers) warnings log = ((.ok report, printed), asked)) :
    batch.elements (logged answers) warnings log = ((.ok report.results, printed), asked) := by
  change (fun result => ((result.1.1.map BatchReport.results, result.1.2), result.2))
    (batch.run (logged answers) warnings log) = _
  rw [ran]
  rfl

variable {found : NameMap (List Element)}
  (ran : batch.elements (logged answers) warnings log = ((.ok found, printed), asked))

include ran

theorem innerTexts_of_elements :
    batch.innerTexts (logged answers) warnings log =
      ((.ok (found.mapValues (·.map Element.innerText)), printed), asked) := by
  change (fun result => ((result.1.1.map (·.mapValues (·.map Element.innerText)), result.1.2),
    result.2)) (batch.elements (logged answers) warnings log) = _
  rw [ran]
  rfl

theorem projections_of_elements (key : Text) :
    batch.projections key (logged answers) warnings log =
      ((.ok (found.mapValues (project key)), printed), asked) := by
  change (fun result => ((result.1.1.map (·.mapValues (project key)), result.1.2), result.2))
    (batch.elements (logged answers) warnings log) = _
  rw [ran]
  rfl

end Views

theorem project_eq_map (key : Text) (elements : List Element) :
    project key elements = elements.map fun element =>
      if key = "value".toList then some element.innerText else element.attribute? key := by
  refine List.map_congr_left fun element _ => ?_
  unfold Projection.ofKey
  split <;> rfl

/-- A run of a batch with which nothing is wrong succeeds. It asks for each distinct link once, in
the order in which they are first seen, and gathers under each name what its selector finds in
their documents; the links without a document are noted in the same order. What is found under a
name is the same in any run that gives the name the same selector and has the same documents. -/
theorem run_gathers {batch : Batch} (runnable : Runnable batch) (answers : Answers)
    (warnings : Warnings) (log : List Text) :
    ∃ distinct report printed,
      FirstSeen batch.links distinct ∧
      batch.run (logged answers) warnings log = ((.ok report, printed), log ++ distinct) ∧
      Gathered answers batch distinct report ∧
      batch.elements (logged answers) warnings log =
        ((.ok report.results, printed), log ++ distinct) ∧
      (∃ texts, batch.innerTexts (logged answers) warnings log =
          ((.ok texts, printed), log ++ distinct) ∧
        texts.names = batch.selectors.names ∧
        ∀ name elements, report.results.get? name = some elements →
          texts.get? name = some (elements.map Element.innerText)) ∧
      (∀ key, ∃ values, batch.projections key (logged answers) warnings log =
          ((.ok values, printed), log ++ distinct) ∧
        values.names = batch.selectors.names ∧
        ∀ name elements, report.results.get? name = some elements →
          values.get? name = some (elements.map fun element =>
            if key = "value".toList then some element.innerText else element.attribute? key)) ∧
      ∀ (other : Batch) otherWarnings otherLog otherReport otherPrinted asked,
        other.run (logged answers) otherWarnings otherLog =
          ((.ok otherReport, otherPrinted), asked) →
        other.mode = batch.mode →
        (other.links.filter (answered answers)).eraseDups =
          (batch.links.filter (answered answers)).eraseDups →
        ∀ name, other.selectors.get? name = batch.selectors.get? name →
          otherReport.results.get? name = report.results.get? name := by
  obtain ⟨selectors, read⟩ := runnable.exists_readSelectors
  have ran := run_logged answers read warnings log
  obtain ⟨results, diagnostics⟩ := report_advance selectors answers batch.mode
    batch.links.eraseDups
  have names : (advance answers batch.mode (.start selectors)
      batch.links.eraseDups).report.results.names = batch.selectors.names := by
    rw [results, NameMap.names_mapValues, NameMap.names_traverse (readSelectors_eq_ok read)]
  have elements := elements_of_run ran
  refine ⟨_, _, _, firstSeen_eraseDups batch.links, ran, ⟨names, ?_, diagnostics⟩, elements,
    ⟨_, innerTexts_of_elements elements, ?_, ?_⟩,
    fun key => ⟨_, projections_of_elements elements key, ?_, ?_⟩, ?_⟩
  · intro name source selector present parsed
    rw [get?_results answers read, present, Option.bind_some, parsed]
    rfl
  · rw [NameMap.names_mapValues, names]
  · intro name elements found
    rw [NameMap.get?_mapValues, found, Option.map_some]
  · rw [NameMap.names_mapValues, names]
  · intro name elements found
    rw [NameMap.get?_mapValues, found, Option.map_some, project_eq_map]
  · intro other otherWarnings otherLog otherReport otherPrinted asked otherRan mode documents name
      source
    cases otherRead : other.readSelectors with
    | error fault =>
      rw [run, otherRead] at otherRan
      cases otherRan
    | ok otherSelectors =>
      rw [run_logged answers otherRead] at otherRan
      cases otherRan
      have alike (selector : Selector) :
          (other.links.eraseDups.flatMap fun link =>
              contribution batch.mode (answers link) selector) =
            batch.links.eraseDups.flatMap fun link =>
              contribution batch.mode (answers link) selector := by
        rw [← flatMap_contribution_filter, ← eraseDups_filter, documents, eraseDups_filter,
          flatMap_contribution_filter]
      rw [get?_results answers otherRead, get?_results answers read, source, mode]
      simp only [alike]

/-- Two selectors and two links, one of them repeated and one that cannot be fetched. -/
theorem run_gathers_repeated :
    let page := "<!doctype html><html><head></head><body><p id=x>1</p></body></html>".toList
    let batch : Batch := ⟨.ofList [("all".toList, "p".toList), ("marked".toList, "#x".toList)],
      ["u".toList, "v".toList, "u".toList], .shallow⟩
    let answers : Answers := fun link =>
      if link = "u".toList then .ok page else .error (.timeout link)
    Runnable batch ∧ ∃ report printed,
      batch.run (logged answers) .none [] = ((.ok report, printed), ["u".toList, "v".toList]) ∧
        report.results.names = ["all".toList, "marked".toList] ∧
        report.results.get? "marked".toList =
          some [⟨"p".toList, ⟨[⟨"id".toList, "x".toList⟩]⟩, "1".toList⟩] ∧
        report.diagnostics.toList = [⟨"v".toList, "request to v timed out".toList⟩] := by
  intro page batch answers
  have all : Selector.parse "p".toList = .ok (.last { Link.any with tag := some "p".toList }) := by
    decide +kernel
  have marked : Selector.parse "#x".toList = .ok (.last { Link.any with id := some "x".toList }) := by
    decide +kernel
  have runnable : Runnable batch := by
    refine ⟨by decide, by decide, fun name source present => ?_⟩
    have entries : batch.selectors.toList =
        [("all".toList, "p".toList), ("marked".toList, "#x".toList)] := by decide +kernel
    have listed := NameMap.get?_eq_some_iff.mp present
    rw [entries] at listed
    rcases List.mem_cons.mp listed with same | later
    · cases same
      exact ⟨_, all⟩
    · cases List.mem_singleton.mp later
      exact ⟨_, marked⟩
  obtain ⟨distinct, report, printed, seen, ran, gathered, _⟩ :=
    run_gathers runnable answers .none []
  obtain rfl : distinct = ["u".toList, "v".toList] := by
    rw [seen.eq_eraseDups]
    decide +kernel
  refine ⟨runnable, report, printed, ran, gathered.names, ?_, ?_⟩
  · rw [gathered.found "marked".toList "#x".toList _ (by decide +kernel) marked]
    decide +kernel
  · rw [gathered.diagnostics]
    decide +kernel

end TagQuery.Batch
