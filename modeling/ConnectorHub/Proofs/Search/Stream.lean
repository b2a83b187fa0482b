import ConnectorHub.Proofs.Search.Follow

namespace ConnectorHub.Instance

variable {σ κ ρ : Type}

/-- What the queries stream, one after the other, when everything is wanted, and what they come to.
A query that fails ends the stream. -/
def streamed (i : Instance σ κ) (oc : ObjectClass) (options : Options) :
    List (Option κ) → σ → List ResourceObject × (Except Stop Unit × σ)
  | [], s => ([], (.ok (), s))
  | q :: rest, s =>
    let feed := i.connector.query i.id oc q options s
    match feed.ending with
    | (.ok (), t) => (feed.items ++ (streamed i oc options rest t).1, (streamed i oc options rest t).2)
    | (.error why, t) => (feed.items, (.error why, t))

/-- The queries that a search runs: an unrestricted one where there is none. -/
def runs : List κ → List (Option κ)
  | [] => [none]
  | queries => queries.map some

/-- The objects of a stream that the stages of a search get to see. -/
def considered (queries : List κ) (os : List ResourceObject) : List ResourceObject :=
  if queries.length ≤ 1 then os else firsts [] os

variable {i : Instance σ κ} {oc : ObjectClass} {options : Options}
  {feed : Feed ResourceObject (Except Stop Unit × σ)}

theorem execute_of_wantsMore {I : ρ → Prop} {h : Handler ρ ResourceObject} (hh : WantsMore I h)
    {q : Option κ} {s : Site σ κ} {r : ρ} (hr : I r)
    (hf : i.connector.query i.id oc q options s.resource = feed) :
    i.execute oc (q.map .own) h options (s, r) =
      (feed.ending.1,
        ({ s with
            resource := feed.ending.2
            journal := s.journal ++ [.queried i.id oc q options] ++
              feed.items.map fun o => .handledObject i.id o true },
          taken h feed.items r)) := by
  subst hf
  cases q <;> exact stream_of_wantsMore hh _ _ hr

theorem streamed_singleton (q : Option κ) (s : σ) :
    i.streamed oc options [q] s =
      ((i.connector.query i.id oc q options s).items,
        (i.connector.query i.id oc q options s).ending) := by
  rw [streamed]
  generalize i.connector.query i.id oc q options s = feed
  cases hend : feed.ending with
  | mk result t =>
    cases result with
    | error why => rfl
    | ok done => simp [streamed]

theorem filterMap_object? (id : Nat) (more : Bool) (os : List ResourceObject) :
    (os.map fun o => (.handledObject id o more : Entry κ)).filterMap Entry.object? = os := by
  rw [List.filterMap_map]
  exact List.filterMap_some

theorem shows_executed {before : List (Entry κ)} {s : Site σ κ} {e : Entry κ}
    (he : e.object? = none) {id : Nat} {os : List ResourceObject}
    (journal : s.journal = before ++ [e] ++ os.map fun o => .handledObject id o true) :
    s.Shows Entry.object? before os :=
  ⟨e :: os.map fun o => .handledObject id o true, journal.trans (List.append_assoc ..), by
    rw [List.filterMap_cons_none he, filterMap_object?]⟩

theorem withStages_of_run {α : Type} {stages stages' : List Stage}
    {x : Action (Site σ κ × (List Stage × ρ)) α} {s t : Site σ κ} {r r' : ρ}
    {result : Except Stop α} (run : x (s, (stages, r)) = (result, (t, (stages', r')))) :
    withStages stages x (s, r) = (result, (t, r')) := by
  simp [withStages, run]

variable (n : Normalizer) (f : Option Filter) (names : Option (List String))
  {h : Handler ρ ResourceObject} (hh : Eager h)
include hh

theorem execute_searchStages {q : Option κ} {s : Site σ κ} {r : ρ}
    (hf : i.connector.query i.id oc q options s.resource = feed) :
    ∃ t,
      i.execute oc (q.map .own) (ResultChain.handler h) options (s, (searchStages n f names, r)) =
        (feed.ending.1, (t, (searchStages n f names,
          taken h (feed.items.filterMap (passed n f names)) r)))
      ∧ t.resource = feed.ending.2 ∧ t.Shows Entry.object? s.journal feed.items := by
  have run := execute_of_wantsMore (ResultChain.eager_searchStages hh)
    (r := (searchStages n f names, r)) rfl hf
  rw [ResultChain.taken_searchStages] at run
  exact ⟨_, run, rfl, shows_executed (e := .queried i.id oc q options) rfl rfl⟩

theorem execute_distinct {q : Option κ} {s : Site σ κ} (seen : List String) {r : ρ}
    (hf : i.connector.query i.id oc q options s.resource = feed) :
    ∃ t,
      i.execute oc (q.map .own) (ResultChain.handler h) options
          (s, (.distinct ⟨seen, true⟩ :: searchStages n f names, r)) =
        (feed.ending.1, (t, (.distinct ⟨seenAfter seen feed.items, true⟩ :: searchStages n f names,
          taken h ((firsts seen feed.items).filterMap (passed n f names)) r)))
      ∧ t.resource = feed.ending.2 ∧ t.Shows Entry.object? s.journal feed.items := by
  have run := execute_of_wantsMore (ResultChain.eager_distinct hh)
    (r := (.distinct ⟨seen, true⟩ :: searchStages n f names, r)) ⟨seen, rfl⟩ hf
  rw [ResultChain.taken_distinct hh] at run
  exact ⟨_, run, rfl, shows_executed (e := .queried i.id oc q options) rfl rfl⟩

theorem executeAll_of_eager {queries : List κ} (s : Site σ κ) (seen : List String) {r : ρ} {stream}
    (hs : i.streamed oc options (queries.map some) s.resource = stream) :
    ∃ t stages,
      i.executeAll oc h options queries (s, (.distinct ⟨seen, true⟩ :: searchStages n f names, r)) =
        (stream.2.1, (t, (stages, taken h ((firsts seen stream.1).filterMap (passed n f names)) r)))
      ∧ t.resource = stream.2.2 ∧ t.Shows Entry.object? s.journal stream.1 := by
  subst hs
  induction queries generalizing s seen r with
  | nil => exact ⟨s, _, rfl, rfl, s.shows_self⟩
  | cons q rest ih =>
    obtain ⟨t, run, resource, shows⟩ := execute_distinct n f names hh seen (r := r)
      (rfl : i.connector.query i.id oc (some q) options s.resource = _)
    rw [List.map_cons, streamed]
    generalize i.connector.query i.id oc (some q) options s.resource = feed at run resource shows ⊢
    cases hend : feed.ending with
    | mk result u =>
      rw [hend] at run resource
      cases result with
      | error why => exact ⟨t, _, Action.bind_of_error run, resource, shows⟩
      | ok done =>
        obtain rfl : t.resource = u := resource
        obtain ⟨v, stages, later, resource, more⟩ := ih t (seenAfter seen feed.items)
          (r := taken h ((firsts seen feed.items).filterMap (passed n f names)) r)
        refine ⟨v, stages, ?_, resource, shows.append more⟩
        rw [firsts_append, List.filterMap_append, taken_append, ← later]
        exact Action.bind_of_ok run

theorem runQueries_of_eager {queries : List κ} {s : Site σ κ} {r : ρ} {stream}
    (hs : i.streamed oc options (runs queries) s.resource = stream) :
    ∃ t,
      i.runQueries oc h options (searchStages n f names) queries (s, r) =
        (stream.2.1, (t, taken h ((considered queries stream.1).filterMap (passed n f names)) r))
      ∧ t.resource = stream.2.2 ∧ t.Shows Entry.object? s.journal stream.1 := by
  match queries with
  | [] =>
    obtain ⟨t, run, ended⟩ := execute_searchStages n f names hh (r := r)
      (rfl : i.connector.query i.id oc none options s.resource = _)
    obtain rfl : _ = stream := (streamed_singleton none s.resource).symm.trans hs
    exact ⟨t, withStages_of_run run, ended⟩
  | [q] =>
    obtain ⟨t, run, ended⟩ := execute_searchStages n f names hh (r := r)
      (rfl : i.connector.query i.id oc (some q) options s.resource = _)
    obtain rfl : _ = stream := (streamed_singleton (some q) s.resource).symm.trans hs
    exact ⟨t, withStages_of_run run, ended⟩
  | q :: q' :: rest =>
    let split : Note := .filterSplit oc (q :: q' :: rest).length
    let noted : Site σ κ := { s with journal := s.journal ++ [.noted split] }
    obtain ⟨t, stages, run, resource, shows⟩ :=
      executeAll_of_eager n f names hh noted [] (r := r) hs
    have before : noted.Shows Entry.object? s.journal [] := ⟨[.noted split], rfl, rfl⟩
    exact ⟨t, withStages_of_run run, resource, before.append shows⟩

omit hh

/-- The search has the capability and comes to these queries; then the site is `t`. -/
def ComesTo (i : Instance σ κ) (oc : ObjectClass) (f : Option Filter) (options : Options)
    (s : Site σ κ) (queries : List κ) (t : Site σ κ) : Prop :=
  ∃ u, i.require .search s = (.ok (), u) ∧
    i.nativeQueries oc options (f.map (i.normalizer oc).onFilter) u = (.ok queries, t)

theorem search_of_refused {s t : Site σ κ} {why : Stop} (r : ρ)
    (required : i.require .search s = (.error why, t)) :
    i.search oc f h options (s, r) = (.error why, (t, r)) :=
  Action.bind_of_error (Action.onFirst_of_run required)

/-- A search lacks the capability, or it comes to its queries. -/
theorem refused_or_comesTo (i : Instance σ κ) (oc : ObjectClass) (f : Option Filter)
    (options : Options) (s : Site σ κ) :
    (∃ why t, i.require .search s = (.error why, t)) ∨
      ∃ queries t, i.ComesTo oc f options s queries t := by
  cases required : i.require .search s with
  | mk result u =>
    cases result with
    | error why => exact .inl ⟨why, u, rfl⟩
    | ok done =>
      have translated : ∃ queries t, i.nativeQueries oc options
          (f.map (i.normalizer oc).onFilter) u = (.ok queries, t) := by
        cases f with
        | none => exact ⟨[], u, rfl⟩
        | some g => exact ⟨_, _, rfl⟩
      obtain ⟨queries, t, translated⟩ := translated
      exact .inr ⟨queries, t, u, required, translated⟩

namespace ComesTo

variable {f} {queries : List κ} {s t : Site σ κ} (comes : i.ComesTo oc f options s queries t)
include comes

theorem search_eq (h : Handler ρ ResourceObject) (r : ρ) :
    i.search oc f h options (s, r) =
      i.runQueries oc h options (searchStages (i.normalizer oc)
        (f.map (i.normalizer oc).onFilter) options.attributesToGet) queries (t, r) := by
  obtain ⟨u, required, translated⟩ := comes
  rw [search, Action.bind_of_ok (Action.onFirst_of_run required)]
  exact Action.bind_of_ok (Action.onFirst_of_run translated)

/-- Up to the queries at most a translation is written. -/
theorem shows_of_silent {α : Type} {item? : Entry κ → Option α}
    (silent : ∀ g, item? (.translated i.id oc g options) = none) :
    t.Shows item? s.journal [] := by
  obtain ⟨u, required, translated⟩ := comes
  have asked : (i.require .search s).2.Grown (fun e => item? e = none) s.journal :=
    (require_writes .search).grown s
  have translates : (i.nativeQueries oc options (f.map (i.normalizer oc).onFilter) u).2.Grown
      (fun e => item? e = none) u.journal :=
    (nativeQueries_writes silent).grown u
  rw [required] at asked
  rw [translated] at translates
  exact (asked.append translates).shows fun _ he => he

theorem shows : t.Shows Entry.object? s.journal [] := comes.shows_of_silent fun _ => rfl

end ComesTo

theorem search_of_eager {f : Option Filter} {h : Handler ρ ResourceObject} (hh : Eager h)
    {queries : List κ} {s t : Site σ κ} (comes : i.ComesTo oc f options s queries t) {r : ρ}
    {stream} (hs : i.streamed oc options (runs queries) t.resource = stream) :
    ∃ u,
      i.search oc f h options (s, r) =
        (stream.2.1, (u, taken h ((considered queries stream.1).filterMap
          (passed (i.normalizer oc) (f.map (i.normalizer oc).onFilter)
            options.attributesToGet)) r))
      ∧ u.resource = stream.2.2 ∧ u.Shows Entry.object? s.journal stream.1 := by
  obtain ⟨u, run, resource, shows⟩ := runQueries_of_eager (i.normalizer oc)
    (f.map (i.normalizer oc).onFilter) options.attributesToGet hh (r := r) hs
  exact ⟨u, (comes.search_eq h r).trans run, resource, comes.shows.append shows⟩

end ConnectorHub.Instance
