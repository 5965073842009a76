import Mathlib.Data.List.Flatten
import TagQuery.Proofs.Markup.Occurrence
import TagQuery.Proofs.Selector.RoundTrip

/-!
# Searching more of a document

A chain finds among fewer elements a part of what it finds among more, in the same order
(`find_sublist`): each link keeps or drops an element by itself, and what the rest of the chain
finds in a kept one depends on its inner text only. Deep extraction adds elements to those of
shallow extraction, so that a query of the whole depth finds at least what a shallow one finds.
-/

namespace TagQuery

/-- What a chain finds among fewer elements it also finds among more. -/
theorem Selector.find_sublist (selector : Selector) {fewer more : List Element}
    (kept : fewer.Sublist more) : (selector.find fewer).Sublist (selector.find more) := by
  cases selector with
  | last link => exact kept.filter link.accepts
  | parent link child => exact (kept.filter link.accepts).flatMap _

/-- A query of the whole depth loses and reorders nothing of what the shallow query finds. -/
theorem query_sublist {source : Text} {selector : Selector}
    (read : Selector.parse source = .ok selector) (html : Text) :
    ∃ shallow deep, query .shallow html source = .ok shallow ∧ query .deep html source = .ok deep ∧
      shallow.Sublist deep :=
  ⟨_, _, query_of_parse read .shallow html, query_of_parse read .deep html,
    selector.find_sublist (Markup.extractShallow_sublist html)⟩

/-- Shallowly a chain finds the first of two children, and in the whole depth both. -/
theorem query_sublist_chain :
    let html := "<p><b>x</b></p><u><p><b>y</b></p></u>".toList
    ∃ shallow deep, query .shallow html "p>b".toList = .ok shallow ∧
      query .deep html "p>b".toList = .ok deep ∧ shallow.Sublist deep ∧
      shallow.map Element.innerText = ["x".toList] ∧
      deep.map Element.innerText = ["x".toList, "y".toList] := by
  intro html
  have read : Selector.parse "p>b".toList =
      .ok (.parent { Link.any with tag := some "p".toList }
        (.last { Link.any with tag := some "b".toList })) := by decide +kernel
  obtain ⟨shallow, deep, found, foundDeep, kept⟩ := query_sublist read html
  refine ⟨shallow, deep, found, foundDeep, kept, ?_, ?_⟩
  · rw [query_of_parse read] at found
    cases found
    decide +kernel
  · rw [query_of_parse read] at foundDeep
    cases foundDeep
    rw [Markup.extract, Markup.extractDeep_eq_flatMap]
    decide +kernel

end TagQuery
