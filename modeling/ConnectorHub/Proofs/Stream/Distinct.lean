import ConnectorHub.Proofs.Stream.Chain
import ConnectorHub.Proofs.Stream.Record

namespace ConnectorHub

section

variable {α : Type} {calls : List (α × Bool)}

/-- The calls up to the first that was answered with no, and that one too. -/
def untilNo : List (α × Bool) → List (α × Bool)
  | [] => []
  | (a, true) :: rest => (a, true) :: untilNo rest
  | (a, false) :: _ => [(a, false)]

theorem untilNo_of_yes (yes : calls.all Prod.snd = true) : untilNo calls = calls := by
  induction calls with
  | nil => rfl
  | cons c rest ih =>
    obtain ⟨a, answer⟩ := c
    obtain ⟨rfl, others⟩ : answer = true ∧ rest.all Prod.snd = true := by simpa using yes
    rw [untilNo, ih others]

theorem all_untilNo (calls : List (α × Bool)) :
    (untilNo calls).all Prod.snd = calls.all Prod.snd := by
  induction calls with
  | nil => rfl
  | cons c rest ih =>
    obtain ⟨a, answer⟩ := c
    cases answer <;> simp [untilNo, ih]

end

variable {ρ : Type}

/-- What a target is called with behind a deduplicating stage, and its answers. -/
def firstCalls (h : Handler ρ ResourceObject) (seen : List String) (os : List ResourceObject) (r : ρ) :
    List (ResourceObject × Bool) :=
  untilNo (answered h (firsts seen os) r)

namespace ResultChain

variable (h : Handler ρ ResourceObject)

/-- The uids count only for as long as the target wants more. -/
theorem taken_distinct_recorded (os : List ResourceObject) (uids : List String) (r : ρ)
    (calls : List (ResourceObject × Bool)) :
    ∃ seen : Seen,
      taken (handler (recorded h)) os ([.distinct ⟨uids, true⟩], (r, calls)) =
        ([.distinct seen], (taken h ((firstCalls h uids os r).map Prod.fst) r,
          calls ++ firstCalls h uids os r)) ∧
      seen.wanting = (firstCalls h uids os r).all Prod.snd ∧
      (seen.wanting = true → seen.uids = seenAfter uids os) := by
  induction os generalizing uids r calls with
  | nil => exact ⟨⟨uids, true⟩, by simp [firstCalls, firsts, answered, untilNo], rfl, fun _ => rfl⟩
  | cons o os ih =>
    rw [taken_cons, handler, push_distinct]
    by_cases known : uids.contains o.uid.value = true
    · have same : firstCalls h uids (o :: os) r = firstCalls h uids os r := by
        rw [firstCalls, firsts, if_pos known, firstCalls]
      obtain ⟨seen, kept, wanting, after⟩ := ih uids r calls
      rw [if_pos known, same]
      refine ⟨seen, kept, wanting, fun still => ?_⟩
      rw [after still, seenAfter, seenAfter, List.foldl_cons, if_pos known]
    · have next : seenAfter uids (o :: os) = seenAfter (o.uid.value :: uids) os := by
        rw [seenAfter, List.foldl_cons, if_neg known, seenAfter]
      rw [if_neg known]
      cases answer : (h o r).1 with
      | true =>
        have called : firstCalls h uids (o :: os) r =
            (o, true) :: firstCalls h (o.uid.value :: uids) os (h o r).2 := by
          rw [firstCalls, firsts, if_neg known, answered, answer, untilNo, firstCalls]
        obtain ⟨seen, kept, wanting, after⟩ :=
          ih (o.uid.value :: uids) (h o r).2 (calls ++ [(o, true)])
        rw [called, next]
        refine ⟨seen, ?_, by simpa using wanting, after⟩
        simpa [push, recorded, answer] using kept
      | false =>
        have called : firstCalls h uids (o :: os) r = [(o, false)] := by
          rw [firstCalls, firsts, if_neg known, answered, answer, untilNo]
        have rest := (turned_away (recorded h) (o.uid.value :: uids) [] os
          ((h o r).2, calls ++ [(o, false)])).2
        rw [called]
        refine ⟨⟨o.uid.value :: uids, false⟩, ?_, rfl, fun yes => absurd yes Bool.false_ne_true⟩
        simpa [push, recorded, answer] using rest

/-- What the calls come to with one object more. -/
theorem all_firstCalls_concat (r : ρ) (os : List ResourceObject) (o : ResourceObject) :
    (firstCalls h [] (os ++ [o]) r).all Prod.snd =
      ((firstCalls h [] os r).all Prod.snd &&
        ((seenAfter [] os).contains o.uid.value || (h o (taken h (firsts [] os) r)).1)) := by
  simp only [firstCalls, all_untilNo, firsts_concat]
  by_cases known : (seenAfter [] os).contains o.uid.value = true
  · rw [if_pos known, known, Bool.true_or, Bool.and_true]
  · rw [if_neg known, answered_append, List.all_append, Bool.eq_false_iff.mpr known]
    simp [answered]

/-- A target behind a deduplicating stage receives the first object of each uid, up to and including
the first that it answers with no. The stage answers an object with yes just when the target has
refused nothing by then, and so long it goes on to want more. -/
theorem distinct_stream (r : ρ) (os : List ResourceObject) (o : ResourceObject) :
    let stage := taken (handler (recorded h)) os ([.fresh], (r, []))
    stage.2 = (taken h ((firstCalls h [] os r).map Prod.fst) r, firstCalls h [] os r) ∧
      stage.1.map Stage.wanting? = [some ((firstCalls h [] os r).all Prod.snd)] ∧
      (handler (recorded h) o stage).1 = (firstCalls h [] (os ++ [o]) r).all Prod.snd := by
  obtain ⟨⟨uids, wanting⟩, kept, yes, known⟩ := taken_distinct_recorded h os [] r []
  have start : [Stage.fresh] = [.distinct ⟨[], true⟩] := rfl
  rw [start, kept, all_firstCalls_concat, ← yes]
  refine ⟨rfl, by simp [Stage.wanting?], ?_⟩
  cases wanting with
  | false => rfl
  | true =>
    have all : (answered h (firsts [] os) r).all Prod.snd = true := by
      rw [← all_untilNo]
      exact yes.symm
    have called : (firstCalls h [] os r).map Prod.fst = firsts [] os := by
      rw [firstCalls, untilNo_of_yes all, map_fst_answered]
    obtain rfl : uids = seenAfter [] os := known rfl
    rw [handler, push_distinct, called, Bool.true_and]
    by_cases seen : (seenAfter [] os).contains o.uid.value = true
    · rw [if_pos seen, seen, Bool.true_or]
    · rw [if_neg seen, Bool.eq_false_iff.mpr seen, Bool.false_or]
      rfl

end ResultChain

end ConnectorHub
