import ConnectorHub.Proofs.Action.Agree
import ConnectorHub.Proofs.Stream.Feed

namespace ConnectorHub

open ConnectorHub.Action

variable {σ κ ρ π α β : Type}

/-- The handlers answer alike, and what they keep goes on to be related. -/
def AnswersAlike (S : ρ → π → Prop) (h : Handler ρ α) (g : Handler π α) : Prop :=
  ∀ a r q, S r q → (h a r).1 = (g a q).1 ∧ S (h a r).2 (g a q).2

/-- The handler with a record of its calls in their order: what it was handed and what it
answered. -/
def recorded (h : Handler ρ α) : Handler (ρ × List (α × Bool)) α := fun a s =>
  ((h a s.1).1, ((h a s.1).2, s.2 ++ [(a, (h a s.1).1)]))

theorem recorded_answersAlike (h : Handler ρ α) :
    AnswersAlike (fun r s => r = s.1) h (recorded h) := by
  rintro a r s rfl
  exact ⟨rfl, rfl⟩

theorem eager_recorded {h : Handler ρ α} (hh : Eager h) : Eager (recorded h) :=
  fun a s => hh a s.1

theorem answered_recorded (h : Handler ρ α) (as : List α) (r : ρ) (calls : List (α × Bool)) :
    answered (recorded h) as (r, calls) = answered h as r := by
  induction as generalizing r calls with
  | nil => rfl
  | cons a as ih => exact congrArg (List.cons _) (ih _ _)

theorem taken_recorded_answered (h : Handler ρ α) (as : List α) (r : ρ)
    (calls : List (α × Bool)) :
    taken (recorded h) as (r, calls) = (taken h as r, calls ++ answered h as r) := by
  induction as generalizing r calls with
  | nil => simp [answered]
  | cons a as ih => simp [recorded, answered, ih]

theorem taken_recorded {h : Handler ρ α} (hh : Eager h) (as : List α) (r : ρ)
    (calls : List (α × Bool)) :
    taken (recorded h) as (r, calls) = (taken h as r, calls ++ as.map fun a => (a, true)) := by
  rw [taken_recorded_answered, answered_of_eager hh]

/-- The handler is not called again once it has answered with no. -/
def Halting (calls : List (α × Bool)) : Prop := calls.Pairwise fun c _ => c.2 = true

section

variable {calls : List (α × Bool)} (h : ∀ c ∈ calls, c.2 = true) {c : α × Bool}
include h

theorem answered_concat (hc : c.2 = true) : ∀ d ∈ calls ++ [c], d.2 = true := by
  intro d hd
  rcases List.mem_append.mp hd with hd | hd
  · exact h d hd
  · exact List.mem_singleton.mp hd ▸ hc

theorem halting_of_forall : Halting calls :=
  List.pairwise_of_forall_mem_list fun c hc _ _ => h c hc

theorem halting_concat : Halting (calls ++ [c]) :=
  List.pairwise_append.mpr
    ⟨halting_of_forall h, List.pairwise_singleton _ _, fun d hd _ _ => h d hd⟩

end

variable {S : ρ → π → Prop}

namespace Instance

variable {h : Handler ρ α} {g : Handler π α} (alike : AnswersAlike S h g)
  {entry : α → Bool → Entry κ}
include alike

theorem deliver_answersAlike (entry : α → Bool → Entry κ) (feed : Feed α β) (s : Site σ κ) {r : ρ}
    {q : π} (hrq : S r q) :
    (deliver entry h feed (s, r)).1 = (deliver entry g feed (s, q)).1 ∧
      Both Eq S (deliver entry h feed (s, r)).2 (deliver entry g feed (s, q)).2 := by
  induction feed generalizing s r q with
  | finish b => exact ⟨rfl, rfl, hrq⟩
  | offer a next ih =>
    obtain ⟨answer, kept⟩ := alike a r q hrq
    rw [deliver_offer, deliver_offer, answer]
    exact ih (g a q).1 _ kept

theorem stream_answersAlike (start : σ → Feed α (Except Stop Unit × σ)) :
    Agree (Both Eq S) (SameEnd Eq) (stream entry h start) (stream entry g start) := by
  rintro ⟨s, r⟩ ⟨t, q⟩ ⟨same, hrq⟩
  obtain rfl : s = t := same
  obtain ⟨ended, site, kept⟩ :=
    deliver_answersAlike alike entry (start s.resource) s hrq
  refine ⟨?_, ?_, kept⟩
  · simp only [stream, ended]
    exact .refl (fun _ => rfl) _
  · simp only [stream, ended, site]

end Instance

namespace ResultChain

variable {h : Handler ρ ResourceObject} {g : Handler π ResourceObject} (alike : AnswersAlike S h g)
include alike

theorem push_answersAlike (stages : List Stage) (o : ResourceObject) {r : ρ} {q : π} (hrq : S r q) :
    (push h stages o r).1 = (push g stages o q).1 ∧
      Both Eq S (push h stages o r).2 (push g stages o q).2 := by
  induction stages generalizing o with
  | nil =>
    obtain ⟨answer, kept⟩ := alike o r q hrq
    exact ⟨answer, rfl, kept⟩
  | cons stage rest ih =>
    cases stage with
    | normalize n =>
      obtain ⟨answer, chain, kept⟩ := ih (n.onObject o)
      simp only [push]
      exact ⟨answer, congrArg (List.cons (.normalize n)) chain, kept⟩
    | project names =>
      obtain ⟨answer, chain, kept⟩ := ih (projectAll names o)
      simp only [push]
      exact ⟨answer, congrArg (List.cons (.project names)) chain, kept⟩
    | filter f =>
      simp only [push]
      split
      · obtain ⟨answer, chain, kept⟩ := ih o
        exact ⟨answer, congrArg (List.cons (.filter f)) chain, kept⟩
      · exact ⟨rfl, rfl, hrq⟩
    | distinct seen =>
      simp only [push]
      split
      · exact ⟨rfl, rfl, hrq⟩
      split
      · exact ⟨rfl, rfl, hrq⟩
      obtain ⟨answer, chain, kept⟩ := ih o
      refine ⟨answer, ?_, kept⟩
      rw [answer, chain]

theorem handler_answersAlike : AnswersAlike (Both Eq S) (handler h) (handler g) := by
  rintro o ⟨stages, r⟩ ⟨stages', q⟩ ⟨same, hrq⟩
  obtain rfl : stages = stages' := same
  exact push_answersAlike alike stages o hrq

end ResultChain

end ConnectorHub
