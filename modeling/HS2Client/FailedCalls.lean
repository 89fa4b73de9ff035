import HS2Client.Client.Outputs
import HS2Client.PrintResults
import HS2Client.Python.FetchPandas

/-!
# Failed calls leave no trace

A call that fails leaves its output arguments as they were. The loops that fetch until there are
no more rows therefore depend on nothing but the status of a fetch that fails.
-/

namespace HS2Client

open Py

/-- The same outcome of a fetch, or two failures with the same status and possibly different flags
and rows. -/
inductive SameUnlessFailed : Outcome .fetchResults → Outcome .fetchResults → Prop
  | same (outcome : Outcome .fetchResults) : SameUnlessFailed outcome outcome
  | failed (resp other : TFetchResultsResp) (failure : resp.status.isSuccess = false)
      (status : other.status = resp.status) : SameUnlessFailed (.reply resp) (.reply other)

namespace SameUnlessFailed

variable {outcome other : Outcome .fetchResults}

/-- Either the outcomes are equal, or a fetch leaves its outputs alone in both cases. -/
theorem fetchRows (alike : SameUnlessFailed outcome other) (op : Operation) (maxRows : Int)
    (orientation : FetchOrientation) (out : Operation.FetchOut) (respond respondOther : Responder)
    (responds : ∀ req, respond .fetchResults req = outcome)
    (respondsOther : ∀ req, respondOther .fetchResults req = other) :
    outcome = other ∨ ∃ status, status.ok = false ∧
      (op.fetchRows maxRows orientation out).run respond = (status, out) ∧
      (op.fetchRows maxRows orientation out).run respondOther = (status, out) := by
  cases alike with
  | same outcome => exact .inl rfl
  | failed resp other failure status =>
      have left := (Query.leavesNoTrace op (.fetchRows maxRows orientation) out respond).failed
        resp (responds _) failure
      have right :=
        (Query.leavesNoTrace op (.fetchRows maxRows orientation) out respondOther).failed
        other (respondsOther _) (by simpa [Method.status, status] using failure)
      refine .inr ⟨tStatusToStatus resp.status, by simpa using failure, left, ?_⟩
      rw [← status]
      exact right

end SameUnlessFailed

/-- Turns of `PrintResults` that agree up to what failed fetches brought. -/
structure TurnOutcomes.SameUnlessFailed (outcomes others : TurnOutcomes) : Prop where
  fetch : HS2Client.SameUnlessFailed outcomes.fetch others.fetch
  metadata : others.metadata = outcomes.metadata

theorem printLoop_sameUnlessFailed (op : Operation) (out : Bytes) (hasMoreRows : Bool)
    {outcomes others : List TurnOutcomes}
    (alike : List.Forall₂ TurnOutcomes.SameUnlessFailed outcomes others) :
    printLoop op out hasMoreRows outcomes = printLoop op out hasMoreRows others := by
  induction alike generalizing out hasMoreRows with
  | nil => rfl
  | @cons turn other rest restOther alike _ ih =>
      cases hasMoreRows with
      | false => rfl
      | true =>
          rcases alike.fetch.fetchRows op Operation.defaultMaxRows .next
            { hasMoreRows := some true } turn.respond other.respond (fun _ => rfl) (fun _ => rfl)
            with equal | ⟨status, notOk, left, right⟩
          · have same : turn = other := by
              rcases turn with ⟨fetch, metadata⟩
              cases alike.metadata
              cases equal
              rfl
            subst same
            simp only [printLoop, ih]
          · simp only [printLoop, Operation.fetch, left, right, notOk]
            rfl

/-- What `fetchall_internal` returns or raises, if it ends. -/
def Py.FetchAll.result : FetchAll → Option (Except Raised (List (Option ColumnarRowSet)))
  | .complete batches _ => some (.ok batches)
  | .raised status _ => some (.error (.status status))
  | .overflowError => some (.error .overflowError)
  | .waiting => none

theorem fetchallLoop_sameUnlessFailed (op : Operation) (batchsize : Int)
    (batches : List (Option ColumnarRowSet)) (hasMoreRows : Bool)
    {outcomes others : List (Outcome .fetchResults)}
    (alike : List.Forall₂ SameUnlessFailed outcomes others) :
    (fetchallLoop op batchsize batches hasMoreRows outcomes).result =
      (fetchallLoop op batchsize batches hasMoreRows others).result := by
  induction alike generalizing batches hasMoreRows with
  | nil => rfl
  | @cons outcome other rest restOther alike _ ih =>
      cases hasMoreRows with
      | false => rfl
      | true =>
          rcases alike.fetchRows op batchsize .next { hasMoreRows := some true }
            (respondFetch outcome) (respondFetch other) (fun _ => rfl) (fun _ => rfl)
            with equal | ⟨status, notOk, left, right⟩
          · subst equal
            simp only [fetchallLoop]
            split_ifs
            · exact ih _ _
            · rfl
          · simp only [fetchallLoop, left, right, notOk]
            rfl

/-- Every call with output arguments fills them from a successful reply and leaves them alone
otherwise, and neither loop depends on a flag or a row set of a fetch that failed. -/
theorem failed_calls_leave_no_trace (op : Operation) :
    (∀ (query : Query) (out : query.Out) (respond : Responder),
      query.LeavesNoTrace op out respond) ∧
    (∀ outcomes others, List.Forall₂ TurnOutcomes.SameUnlessFailed outcomes others →
      printResults op outcomes = printResults op others) ∧
    ∀ batchsize outcomes others, List.Forall₂ SameUnlessFailed outcomes others →
      (fetchallInternal op batchsize outcomes).result =
        (fetchallInternal op batchsize others).result := by
  refine ⟨Query.leavesNoTrace op, ?_, ?_⟩
  · intro outcomes others alike
    exact printLoop_sameUnlessFailed op [] true alike
  · intro batchsize outcomes others alike
    simp only [fetchallInternal]
    split_ifs
    · exact fetchallLoop_sameUnlessFailed op _ [] true alike
    · rfl

end HS2Client
