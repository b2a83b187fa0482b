import ConnectorHub.Proofs.Stream.Feed
import ConnectorHub.Search

namespace ConnectorHub

/-- What the stages of a search make of an object, if they hand it on. -/
def passed (n : Normalizer) (f : Option Filter) (names : Option (List String))
    (o : ResourceObject) : Option ResourceObject :=
  if accepted f (n.onObject o) then some (projectAll names (n.onObject o)) else none

theorem filterMap_passed (n : Normalizer) (f : Option Filter) (names : Option (List String))
    (os : List ResourceObject) :
    os.filterMap (passed n f names) =
      (os.filter fun o => accepted f (n.onObject o)).map fun o =>
        projectAll names (n.onObject o) := by
  induction os with
  | nil => rfl
  | cons o os ih =>
    by_cases ha : accepted f (n.onObject o) = true
    · rw [List.filter_cons, if_pos ha, List.map_cons, ← ih]
      exact List.filterMap_cons_some (if_pos ha)
    · rw [List.filter_cons, if_neg ha, ← ih]
      exact List.filterMap_cons_none (if_neg ha)

/-- The first object of each uid, but for the uids already seen. -/
def firsts (seen : List String) : List ResourceObject → List ResourceObject
  | [] => []
  | o :: rest =>
    if seen.contains o.uid.value then firsts seen rest else o :: firsts (o.uid.value :: seen) rest

/-- The uids seen when the objects have gone by. -/
def seenAfter (seen : List String) (os : List ResourceObject) : List String :=
  os.foldl (fun seen o => if seen.contains o.uid.value then seen else o.uid.value :: seen) seen

theorem firsts_append (seen : List String) (os ps : List ResourceObject) :
    firsts seen (os ++ ps) = firsts seen os ++ firsts (seenAfter seen os) ps := by
  induction os generalizing seen with
  | nil => rfl
  | cons o os ih =>
    by_cases h : seen.contains o.uid.value = true
    · simp only [List.cons_append, firsts, seenAfter, List.foldl_cons, if_pos h, ih]
    · simp only [List.cons_append, firsts, seenAfter, List.foldl_cons, if_neg h, ih]

theorem firsts_concat (seen : List String) (os : List ResourceObject) (o : ResourceObject) :
    firsts seen (os ++ [o]) =
      if (seenAfter seen os).contains o.uid.value then firsts seen os else firsts seen os ++ [o] := by
  rw [firsts_append, firsts]
  by_cases h : (seenAfter seen os).contains o.uid.value = true
  · rw [if_pos h, if_pos h]
    exact List.append_nil _
  · rw [if_neg h, if_neg h]
    rfl

theorem seenAfter_concat (seen : List String) (os : List ResourceObject) (o : ResourceObject) :
    seenAfter seen (os ++ [o]) =
      if (seenAfter seen os).contains o.uid.value then seenAfter seen os
      else o.uid.value :: seenAfter seen os :=
  List.foldl_append

theorem firsts_sublist (seen : List String) (os : List ResourceObject) :
    (firsts seen os).Sublist os := by
  induction os generalizing seen with
  | nil => exact List.Sublist.slnil
  | cons o os ih =>
    rw [firsts]
    split
    · exact (ih seen).cons o
    · exact (ih _).cons_cons o

theorem uid_notMem_of_mem_firsts {seen : List String} {os : List ResourceObject}
    {o : ResourceObject} (h : o ∈ firsts seen os) : o.uid.value ∉ seen := by
  induction os generalizing seen with
  | nil => simp [firsts] at h
  | cons p os ih =>
    rw [firsts] at h
    split at h
    · exact ih h
    next hp =>
      rcases List.mem_cons.mp h with rfl | h
      · simpa using hp
      · exact fun hs => ih h (List.mem_cons_of_mem _ hs)

/-- No two of the first objects have the same uid. -/
theorem pairwise_uid_firsts (seen : List String) (os : List ResourceObject) :
    (firsts seen os).Pairwise fun o p => o.uid ≠ p.uid := by
  induction os generalizing seen with
  | nil => exact List.Pairwise.nil
  | cons o os ih =>
    rw [firsts]
    split
    · exact ih seen
    · refine List.pairwise_cons.mpr ⟨fun p hp he => ?_, ih _⟩
      have fresh := uid_notMem_of_mem_firsts hp
      rw [← he] at fresh
      exact fresh List.mem_cons_self

theorem exists_mem_firsts {seen : List String} {os : List ResourceObject} {o : ResourceObject}
    (ho : o ∈ os) (hs : o.uid.value ∉ seen) : ∃ p ∈ firsts seen os, p.uid = o.uid := by
  induction os generalizing seen with
  | nil => simp at ho
  | cons q os ih =>
    rw [firsts]
    split
    next hq =>
      rcases List.mem_cons.mp ho with rfl | ho
      · exact absurd (by simpa using hq) hs
      · exact ih ho hs
    next hq =>
      by_cases he : q.uid = o.uid
      · exact ⟨q, List.mem_cons_self, he⟩
      · have ho : o ∈ os := (List.mem_cons.mp ho).resolve_left fun h => he (h ▸ rfl)
        have hne : o.uid.value ≠ q.uid.value := fun h => he (Uid.value_inj.mp h).symm
        have unseen : o.uid.value ∉ q.uid.value :: seen := fun h => (List.mem_cons.mp h).elim hne hs
        obtain ⟨p, hp, hpo⟩ := ih ho unseen
        exact ⟨p, List.mem_cons_of_mem _ hp, hpo⟩

namespace ResultChain

open Instance (searchStages)

variable {ρ : Type} {n : Normalizer} {f : Option Filter} {names : Option (List String)}

theorem push_searchStages (h : Handler ρ ResourceObject) (o : ResourceObject) (r : ρ) :
    push h (searchStages n f names) o r =
      match passed n f names o with
      | some p => ((h p r).1, searchStages n f names, (h p r).2)
      | none => (true, searchStages n f names, r) := by
  by_cases ha : accepted f (n.onObject o) = true <;> simp [searchStages, push, passed, ha]

theorem push_distinct (h : Handler ρ ResourceObject) (stages : List Stage) (seen : List String)
    (o : ResourceObject) (r : ρ) :
    push h (.distinct ⟨seen, true⟩ :: stages) o r =
      if seen.contains o.uid.value then (true, .distinct ⟨seen, true⟩ :: stages, r)
      else
        ((push h stages o r).1,
          .distinct ⟨o.uid.value :: seen, (push h stages o r).1⟩ :: (push h stages o r).2.1,
          (push h stages o r).2.2) := by
  simp [push]

/-- Once its target has wanted no more a deduplicating stage turns every object away. -/
theorem turned_away (h : Handler ρ ResourceObject) (uids : List String) (stages : List Stage)
    (os : List ResourceObject) (r : ρ) :
    (∀ x ∈ answered (handler h) os (.distinct ⟨uids, false⟩ :: stages, r), x.2 = false) ∧
      taken (handler h) os (.distinct ⟨uids, false⟩ :: stages, r) =
        (.distinct ⟨uids, false⟩ :: stages, r) := by
  induction os with
  | nil => exact ⟨nofun, rfl⟩
  | cons o os ih =>
    obtain ⟨refused, kept⟩ := ih
    refine ⟨?_, kept⟩
    intro x hx
    rcases List.mem_cons.mp hx with rfl | hx
    · rfl
    · exact refused x hx

theorem taken_searchStages (h : Handler ρ ResourceObject) (os : List ResourceObject) (r : ρ) :
    taken (handler h) os (searchStages n f names, r) =
      (searchStages n f names, taken h (os.filterMap (passed n f names)) r) := by
  induction os generalizing r with
  | nil => rfl
  | cons o os ih =>
    rw [taken_cons, handler, push_searchStages]
    cases hp : passed n f names o with
    | none => simp [ih, hp]
    | some p => simp [ih, hp]

variable {h : Handler ρ ResourceObject} (hh : Eager h)
include hh

theorem eager_searchStages :
    WantsMore (fun s => s.1 = searchStages n f names) (handler h) := by
  intro o s hs
  obtain ⟨stages, r⟩ := s
  subst hs
  rw [handler, push_searchStages]
  cases passed n f names o with
  | none => exact ⟨rfl, rfl⟩
  | some p => exact ⟨hh p r, rfl⟩

theorem push_searchStages_fst (o : ResourceObject) (r : ρ) :
    (push h (searchStages n f names) o r).1 = true :=
  (eager_searchStages hh o (_, r) rfl).1

/-- What a deduplicating search chain is while no stop was asked for. -/
def Deduplicating (n : Normalizer) (f : Option Filter) (names : Option (List String))
    (stages : List Stage) : Prop :=
  ∃ seen, stages = .distinct ⟨seen, true⟩ :: searchStages n f names

theorem eager_distinct :
    WantsMore (fun s => Deduplicating n f names s.1) (handler h) := by
  intro o s hs
  obtain ⟨stages, r⟩ := s
  obtain ⟨seen, rfl⟩ := hs
  rw [handler, push_distinct, push_searchStages_fst hh]
  split
  · exact ⟨rfl, seen, rfl⟩
  · refine ⟨rfl, o.uid.value :: seen, ?_⟩
    rw [push_searchStages]
    cases passed n f names o <;> rfl

theorem taken_distinct (os : List ResourceObject) (seen : List String) (r : ρ) :
    taken (handler h) os (.distinct ⟨seen, true⟩ :: searchStages n f names, r) =
      (.distinct ⟨seenAfter seen os, true⟩ :: searchStages n f names,
        taken h ((firsts seen os).filterMap (passed n f names)) r) := by
  induction os generalizing seen r with
  | nil => rfl
  | cons o os ih =>
    rw [taken_cons, handler, push_distinct, push_searchStages_fst hh]
    by_cases hs : seen.contains o.uid.value = true
    · simp only [if_pos hs, ih, seenAfter, firsts, List.foldl_cons]
    · rw [if_neg hs, push_searchStages]
      cases hp : passed n f names o with
      | none => simp only [ih, seenAfter, firsts, List.foldl_cons, if_neg hs, List.filterMap_cons_none hp]
      | some p =>
        simp only [ih, seenAfter, firsts, List.foldl_cons, if_neg hs,
          List.filterMap_cons_some hp, taken_cons]

end ResultChain

end ConnectorHub
