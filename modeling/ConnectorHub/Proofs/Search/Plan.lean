import ConnectorHub.Proofs.Search.Record
import ConnectorHub.Proofs.Stream.Talk

namespace ConnectorHub

variable {σ κ ρ : Type} {n : Normalizer} {f : Option Filter} {names : Option (List String)}

/-- What becomes of a talk behind the stages of a search. An object is passed over with a yes, or
handed on and answered as the caller does. The rest may be turned away once the caller has answered
with no. -/
inductive Heard (n : Normalizer) (f : Option Filter) (names : Option (List String)) :
    List (ResourceObject × Bool) → List (ResourceObject × Bool) → Prop where
  | nil : Heard n f names [] []
  | skip (o : ResourceObject) {talk calls : List (ResourceObject × Bool)} :
    Heard n f names talk calls → Heard n f names ((o, true) :: talk) calls
  | call (more : Bool) {o p : ResourceObject} {talk calls : List (ResourceObject × Bool)} :
    passed n f names o = some p → Heard n f names talk calls →
      Heard n f names ((o, more) :: talk) ((p, more) :: calls)
  | deaf {o p : ResourceObject} {talk : List (ResourceObject × Bool)} :
    passed n f names o = some p → (∀ x ∈ talk, x.2 = false) →
      Heard n f names ((o, false) :: talk) [(p, false)]

namespace ResultChain

open Instance (searchStages)

variable (n f names)

theorem heard_searchStages (h : Handler ρ ResourceObject) (os : List ResourceObject) (r : ρ) :
    Heard n f names (answered (handler h) os (searchStages n f names, r))
      (answered h (os.filterMap (passed n f names)) r) := by
  induction os generalizing r with
  | nil => exact .nil
  | cons o os ih =>
    rw [answered, handler, push_searchStages]
    cases hp : passed n f names o with
    | none =>
      rw [List.filterMap_cons_none hp]
      exact .skip o (ih r)
    | some p =>
      rw [List.filterMap_cons_some hp]
      exact .call _ hp (ih _)

theorem heard_distinct (h : Handler ρ ResourceObject) (os : List ResourceObject)
    (uids : List String) (r : ρ) :
    ∃ ps seen,
      Heard n f names
        (answered (handler h) os (.distinct ⟨uids, true⟩ :: searchStages n f names, r))
        (answered h ps r) ∧
      taken (handler h) os (.distinct ⟨uids, true⟩ :: searchStages n f names, r) =
        (.distinct seen :: searchStages n f names, taken h ps r) ∧
      (seen.wanting = true ↔ ∀ c ∈ answered h ps r, c.2 = true) := by
  induction os generalizing uids r with
  | nil => exact ⟨[], ⟨uids, true⟩, .nil, rfl, by simp [answered]⟩
  | cons o os ih =>
    rw [answered, taken_cons, handler, push_distinct]
    split
    · obtain ⟨ps, seen, heard, kept, wanting⟩ := ih uids r
      exact ⟨ps, seen, .skip o heard, kept, wanting⟩
    rw [push_searchStages]
    cases hp : passed n f names o with
    | none =>
      obtain ⟨ps, seen, heard, kept, wanting⟩ := ih (o.uid.value :: uids) r
      exact ⟨ps, seen, .skip o heard, kept, wanting⟩
    | some p =>
      cases answer : (h p r).1 with
      | true =>
        obtain ⟨ps, seen, heard, kept, wanting⟩ := ih (o.uid.value :: uids) (h p r).2
        refine ⟨p :: ps, seen, ?_, ?_, ?_⟩
        · rw [answered, answer]
          exact .call true hp heard
        · simpa [answer] using kept
        · simpa [answered, answer] using wanting
      | false =>
        obtain ⟨refused, kept⟩ :=
          turned_away h (o.uid.value :: uids) (searchStages n f names) os (h p r).2
        refine ⟨[p], ⟨o.uid.value :: uids, false⟩, ?_, ?_, by simp [answered, answer]⟩
        · rw [answered, answer]
          exact .deaf hp refused
        · simpa [answer] using kept

end ResultChain

/-- One query of a search: what the connector streamed with the answers that it got, the calls of
the caller with its answers, and what the query came to. -/
structure QueryRun (κ : Type) where
  query : Option κ
  talk : List (ResourceObject × Bool)
  calls : List (ResourceObject × Bool)
  result : Except Stop Unit

/-- The query failed, or the caller has wanted no more. -/
def QueryRun.Closing (run : QueryRun κ) : Prop :=
  run.result ≠ .ok () ∨ ∃ c ∈ run.calls, c.2 = false

/-- The entry of a query or of an object that it streams. -/
def Entry.traffic? : Entry κ → Option (Entry κ)
  | .queried id oc q options => some (.queried id oc q options)
  | .handledObject id o more => some (.handledObject id o more)
  | _ => none

namespace Instance

section

variable (i : Instance σ κ) (oc : ObjectClass) (options : Options)

def traffic (q : Option κ) (talk : List (ResourceObject × Bool)) : List (Entry κ) :=
  .queried i.id oc q options :: talk.map fun x => .handledObject i.id x.1 x.2

/-- The connector streams each of the talks on the resource as the one before has left it. -/
def Streams : σ → List (QueryRun κ) → σ → Prop
  | a, [], b => a = b
  | a, run :: rest, b => ∃ m,
    (i.connector.query i.id oc run.query options a).Talks run.talk (run.result, m) ∧
      Streams m rest b

/-- These runs carry out a plan of queries, on a resource that they find as `a` and leave as `b`.
They end with the first that closes the search, or with the last query of the plan. -/
structure CarriesOut (n : Normalizer) (f : Option Filter) (names : Option (List String))
    (plan : List (Option κ)) (a : σ) (runs : List (QueryRun κ)) (ended : Except Stop Unit) (b : σ) :
    Prop where
  inOrder : runs.map QueryRun.query <+: plan
  ends : ∃ earlier last, runs = earlier ++ [last] ∧ (∀ run ∈ earlier, ¬run.Closing) ∧
    (last.Closing ∨ runs.map QueryRun.query = plan) ∧ last.result = ended
  streams : i.Streams oc options a runs b
  heard : ∀ run ∈ runs, Heard n f names run.talk run.calls

/-- The run of a query from one site to the next, for a caller that takes these objects. -/
structure RunsOne (n : Normalizer) (f : Option Filter) (names : Option (List String))
    (h : Handler ρ ResourceObject) (q : Option κ) (s : Site σ κ) (r : ρ) (run : QueryRun κ)
    (t : Site σ κ) (ps : List ResourceObject) : Prop where
  own : run.query = q
  talks : (i.connector.query i.id oc q options s.resource).Talks run.talk (run.result, t.resource)
  heard : Heard n f names run.talk run.calls
  shows : t.Shows Entry.traffic? s.journal (i.traffic oc options q run.talk)
  calls : run.calls = answered h ps r

/-- From this site and caller on the computation carries out the plan. -/
def Completes (n : Normalizer) (f : Option Filter) (names : Option (List String))
    (h : Handler ρ ResourceObject) (plan : List (Option κ)) (x : Action (Site σ κ × ρ) Unit)
    (s : Site σ κ) (r : ρ) : Prop :=
  ∃ runs ended t ps, i.CarriesOut oc options n f names plan s.resource runs ended t.resource ∧
    t.Shows Entry.traffic? s.journal
      (runs.flatMap fun run => i.traffic oc options run.query run.talk) ∧
    runs.flatMap QueryRun.calls = answered h ps r ∧ x (s, r) = (ended, (t, taken h ps r))

end

variable {i : Instance σ κ} {oc : ObjectClass} {options : Options} {h : Handler ρ ResourceObject}
  {q : Option κ} {plan : List (Option κ)} {x y : Action (Site σ κ × ρ) Unit} {s t u : Site σ κ}
  {r : ρ} {run : QueryRun κ} {ps : List ResourceObject}

namespace Completes

/-- The run that closes the search, or the last one of the plan. Afterwards at most a note is
written. -/
theorem only (one : i.RunsOne oc options n f names h q s r run t ps)
    (last : run.Closing ∨ plan = []) (resource : u.resource = t.resource)
    (noted : u.Shows Entry.traffic? t.journal [])
    (ran : x (s, r) = (run.result, (u, taken h ps r))) :
    i.Completes oc options n f names h (q :: plan) x s r := by
  obtain ⟨rfl, talks, heard, shows, calls⟩ := one
  have carried : i.CarriesOut oc options n f names (run.query :: plan) s.resource [run] run.result
      u.resource :=
    { inOrder := ⟨plan, rfl⟩
      ends := ⟨[], run, rfl, nofun,
        last.imp_right fun whole => by rw [whole, List.map_singleton], rfl⟩
      streams := ⟨t.resource, talks, resource.symm⟩
      heard := fun _ mem => List.mem_singleton.mp mem ▸ heard }
  refine ⟨[run], run.result, u, ps, carried, ?_, ?_, ran⟩
  · rw [List.flatMap_singleton]
    exact List.append_nil (i.traffic oc options _ _) ▸ shows.append noted
  · rw [List.flatMap_singleton, calls]

theorem next (one : i.RunsOne oc options n f names h q s r run t ps) (going : ¬run.Closing)
    (later : i.Completes oc options n f names h plan y t (taken h ps r))
    (ran : x (s, r) = y (t, taken h ps r)) :
    i.Completes oc options n f names h (q :: plan) x s r := by
  obtain ⟨rfl, talks, heard, shows, calls⟩ := one
  obtain ⟨runs, ended, u, ps', carried, more, laterCalls, run'⟩ := later
  obtain ⟨inOrder, ⟨earlier, last, rfl, goesOn, ends, result⟩, streams, heards⟩ := carried
  have carried : i.CarriesOut oc options n f names (run.query :: plan) s.resource
      (run :: (earlier ++ [last])) ended u.resource :=
    { inOrder := List.cons_prefix_cons.mpr ⟨rfl, inOrder⟩
      ends := ⟨run :: earlier, last, rfl, List.forall_mem_cons.mpr ⟨going, goesOn⟩,
        ends.imp_right (congrArg (List.cons run.query)), result⟩
      streams := ⟨t.resource, talks, streams⟩
      heard := List.forall_mem_cons.mpr ⟨heard, heards⟩ }
  refine ⟨run :: (earlier ++ [last]), ended, u, ps ++ ps', carried, shows.append more, ?_, ?_⟩
  · rw [List.flatMap_cons, calls, laterCalls, answered_append]
  · rw [ran, run', taken_append]

end Completes

theorem execute_talks (i : Instance σ κ) (oc : ObjectClass) (options : Options) (q : Option κ)
    (h : Handler ρ ResourceObject) (s : Site σ κ) (r : ρ) :
    ∃ os result t,
      (i.connector.query i.id oc q options s.resource).Talks (answered h os r)
        (result, t.resource) ∧
      t.Shows Entry.traffic? s.journal (i.traffic oc options q (answered h os r)) ∧
      i.execute oc (q.map .own) h options (s, r) = (result, (t, taken h os r)) := by
  let asked : Site σ κ := { s with journal := s.journal ++ [.queried i.id oc q options] }
  obtain ⟨os, result, a, talks, run⟩ := stream_talks (.handledObject i.id) h
    (i.connector.query i.id oc q options) asked r
  let streamed : Site σ κ := { asked with
    resource := a
    journal := asked.journal ++ (answered h os r).map fun x => .handledObject i.id x.1 x.2 }
  refine ⟨os, result, streamed, talks, ⟨_, List.append_assoc .., ?_⟩, ?_⟩
  · have asks : Entry.traffic? (.queried i.id oc q options : Entry κ) =
        some (.queried i.id oc q options) := rfl
    have shown (o : ResourceObject) (more : Bool) :
        Entry.traffic? (.handledObject i.id o more : Entry κ) = some (.handledObject i.id o more) :=
      rfl
    rw [List.singleton_append, List.filterMap_cons_some asks, filterMap_talk shown]
    rfl
  · cases q <;> exact run

section

variable (i : Instance σ κ) (oc : ObjectClass) (options : Options) (n : Normalizer)
  (f : Option Filter) (names : Option (List String)) (h : Handler ρ ResourceObject)

/-- A search of one query or none is the run of it. -/
theorem execute_completes (q : Option κ) (s : Site σ κ) (r : ρ) :
    i.Completes oc options n f names h [q]
      (withStages (searchStages n f names)
        (i.execute oc (q.map .own) (ResultChain.handler h) options)) s r := by
  obtain ⟨os, ended, t, talks, shows, run⟩ := i.execute_talks oc options q
    (ResultChain.handler h) s (searchStages n f names, r)
  rw [ResultChain.taken_searchStages] at run
  have heard := ResultChain.heard_searchStages n f names h os r
  have one : i.RunsOne oc options n f names h q s r ⟨q, _, _, ended⟩ t _ :=
    ⟨rfl, talks, heard, shows, rfl⟩
  exact .only one (.inr rfl) rfl t.shows_self (withStages_of_run run)

/-- One query of several, while the caller wants more. -/
theorem execute_one (q : Option κ) (uids : List String) (s : Site σ κ) (r : ρ) :
    ∃ run t ps seen, i.RunsOne oc options n f names h q s r run t ps ∧
      (seen.wanting = true ↔ ∀ c ∈ run.calls, c.2 = true) ∧
      i.execute oc (q.map .own) (ResultChain.handler h) options
          (s, (.distinct ⟨uids, true⟩ :: searchStages n f names, r)) =
        (run.result, (t, (.distinct seen :: searchStages n f names, taken h ps r))) := by
  obtain ⟨os, ended, t, talks, shows, run⟩ := i.execute_talks oc options q
    (ResultChain.handler h) s (.distinct ⟨uids, true⟩ :: searchStages n f names, r)
  obtain ⟨ps, seen, heard, kept, wanting⟩ :=
    ResultChain.heard_distinct n f names h os uids r
  rw [kept] at run
  exact ⟨⟨q, _, _, ended⟩, t, ps, seen, ⟨rfl, talks, heard, shows, rfl⟩, wanting, run⟩

end

section

variable {seen : Seen} {stages stages' : List Stage} {r' : ρ} {k : κ} (rest : List κ)
  (wanting : seen.wanting = true ↔ ∀ c ∈ run.calls, c.2 = true)
  (ran : i.execute oc (some (.own k)) (ResultChain.handler h) options (s, (stages, r)) =
    (run.result, (t, (.distinct seen :: stages', r'))))
include wanting ran

theorem executeAll_of_closing (closing : run.Closing) :
    ∃ u, u.resource = t.resource ∧ u.Shows Entry.traffic? t.journal [] ∧
      i.executeAll oc h options (k :: rest) (s, (stages, r)) =
        (run.result, (u, (.distinct seen :: stages', r'))) := by
  cases result : run.result with
  | error why =>
    rw [result] at ran
    exact ⟨t, rfl, t.shows_self, Action.bind_of_error ran⟩
  | ok done =>
    have refused : seen.wanting = false := by
      obtain ⟨c, hc, no⟩ := closing.resolve_left (not_not_intro result)
      rw [Bool.eq_false_iff]
      intro yes
      rw [wanting.mp yes c hc] at no
      cases no
    let stopped : Entry κ := .noted (.handlerStopped oc rest.length)
    rw [result] at ran
    refine ⟨{ t with journal := t.journal ++ [stopped] }, rfl, ⟨[stopped], rfl, rfl⟩, ?_⟩
    refine (Action.bind_of_ok ran).trans ?_
    rw [Action.bind_of_ok (Action.get_apply _)]
    simp [Instance.wanting, Stage.wanting?, refused]
    rfl

theorem executeAll_of_going (going : ¬run.Closing) :
    seen.wanting = true ∧ i.executeAll oc h options (k :: rest) (s, (stages, r)) =
      i.executeAll oc h options rest (t, (.distinct seen :: stages', r')) := by
  obtain ⟨succeeded, answered⟩ := not_or.mp going
  have yes : seen.wanting = true := by
    refine wanting.mpr fun c hc => ?_
    by_contra no
    exact answered ⟨c, hc, by simpa using no⟩
  refine ⟨yes, ?_⟩
  rw [not_not.mp succeeded] at ran
  refine (Action.bind_of_ok ran).trans ?_
  rw [Action.bind_of_ok (Action.get_apply _)]
  simp [Instance.wanting, Stage.wanting?, yes]

end

theorem withStages_congr {α : Type} {stages stages' : List Stage}
    {x y : Action (Site σ κ × (List Stage × ρ)) α} {r' : ρ}
    (same : x (s, (stages, r)) = y (t, (stages', r'))) :
    withStages stages x (s, r) = withStages stages' y (t, r') := by
  simp only [withStages, same]

theorem executeAll_completes (i : Instance σ κ) (oc : ObjectClass) (options : Options)
    (n : Normalizer) (f : Option Filter) (names : Option (List String))
    (h : Handler ρ ResourceObject) (k : κ) (rest : List κ) (uids : List String) (s : Site σ κ)
    (r : ρ) :
    i.Completes oc options n f names h ((k :: rest).map some)
      (withStages (.distinct ⟨uids, true⟩ :: searchStages n f names)
        (i.executeAll oc h options (k :: rest))) s r := by
  induction rest generalizing k uids s r with
  | nil =>
    obtain ⟨run, t, ps, seen, one, wanting, ran⟩ :=
      i.execute_one oc options n f names h (some k) uids s r
    by_cases closing : run.Closing
    · obtain ⟨u, resource, noted, whole⟩ := executeAll_of_closing [] wanting ran closing
      exact .only one (.inl closing) resource noted (withStages_of_run whole)
    · obtain ⟨-, whole⟩ := executeAll_of_going [] wanting ran closing
      have succeeded : run.result = .ok () := not_not.mp (not_or.mp closing).1
      refine .only one (.inr rfl) rfl t.shows_self ?_
      rw [succeeded]
      exact withStages_of_run whole
  | cons k' rest ih =>
    obtain ⟨run, t, ps, seen, one, wanting, ran⟩ :=
      i.execute_one oc options n f names h (some k) uids s r
    by_cases closing : run.Closing
    · obtain ⟨u, resource, noted, whole⟩ :=
        executeAll_of_closing (k' :: rest) wanting ran closing
      exact .only one (.inl closing) resource noted (withStages_of_run whole)
    · obtain ⟨yes, whole⟩ := executeAll_of_going (k' :: rest) wanting ran closing
      obtain ⟨uids', _⟩ := seen
      cases yes
      exact .next one closing (ih k' uids' t (taken h ps r)) (withStages_congr whole)

theorem runQueries_completes (i : Instance σ κ) (oc : ObjectClass) (options : Options)
    (n : Normalizer) (f : Option Filter) (names : Option (List String))
    (h : Handler ρ ResourceObject) (queries : List κ) (s : Site σ κ) (r : ρ) :
    i.Completes oc options n f names h (runs queries)
      (i.runQueries oc h options (searchStages n f names) queries) s r := by
  match queries with
  | [] => exact i.execute_completes oc options n f names h none s r
  | [q] => exact i.execute_completes oc options n f names h (some q) s r
  | q :: q' :: rest =>
    let split : Entry κ := .noted (.filterSplit oc (q :: q' :: rest).length)
    let noted : Site σ κ := { s with journal := s.journal ++ [split] }
    have before : noted.Shows Entry.traffic? s.journal [] := ⟨[split], rfl, rfl⟩
    obtain ⟨runs, ended, t, ps, carried, shows, calls, run⟩ :=
      i.executeAll_completes oc options n f names h q (q' :: rest) [] noted r
    exact ⟨runs, ended, t, ps, carried, before.append shows, calls, run⟩

/-- A search is refused for want of the capability, or it carries out the plan of its queries. The
caller has taken what was handed over in their course. -/
theorem search_plan (i : Instance σ κ) (oc : ObjectClass) (f : Option Filter) (options : Options)
    (h : Handler ρ ResourceObject) (s : Site σ κ) (r : ρ) :
    (∃ why t, i.require .search s = (.error why, t) ∧
      i.search oc f h options (s, r) = (.error why, (t, r))) ∨
    ∃ queries t done ended u, i.ComesTo oc f options s queries t ∧
      i.CarriesOut oc options (i.normalizer oc) (f.map (i.normalizer oc).onFilter)
        options.attributesToGet (runs queries) t.resource done ended u.resource ∧
      u.Shows Entry.traffic? s.journal
        (done.flatMap fun run => i.traffic oc options run.query run.talk) ∧
      i.callsIn oc f h options s r = done.flatMap QueryRun.calls ∧
      i.search oc f h options (s, r) =
        (ended, (u, taken h ((done.flatMap QueryRun.calls).map Prod.fst) r)) := by
  obtain ⟨why, t, refused⟩ | ⟨queries, t, comes⟩ := i.refused_or_comesTo oc f options s
  · exact .inl ⟨why, t, refused, search_of_refused f r refused⟩
  obtain ⟨done, ended, u, ps, carried, shows, calls, run⟩ := i.runQueries_completes oc options
    (i.normalizer oc) (f.map (i.normalizer oc).onFilter) options.attributesToGet (recorded h)
    queries t (r, [])
  rw [answered_recorded] at calls
  rw [taken_recorded_answered, ← comes.search_eq] at run
  refine .inr ⟨queries, t, done, ended, u, comes, carried,
    (comes.shows_of_silent fun _ => rfl).append shows, ?_, ?_⟩
  · rw [callsIn, run, calls]
    rfl
  · rw [search_recorded, run, calls, map_fst_answered]

end Instance

end ConnectorHub
