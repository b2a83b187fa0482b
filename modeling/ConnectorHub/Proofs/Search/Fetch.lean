import ConnectorHub.Proofs.Attributes.Lowercase
import ConnectorHub.Proofs.Attributes.Uids
import ConnectorHub.Proofs.Search.Halt
import ConnectorHub.Proofs.Search.Plan

namespace ConnectorHub

open Instance (searchStages keepOne)

section

variable {n : Normalizer} {f : Option Filter} {names : Option (List String)}
  {os : List ResourceObject} {o : ResourceObject}

/-- Of a stream that ends when no more is wanted the first object that passes is kept. -/
theorem taken_keepOne_of_halting
    (halting : Halting
      (answered (ResultChain.handler keepOne) os (searchStages n f names, none))) :
    taken keepOne (os.filterMap (passed n f names)) none = os.findSome? (passed n f names) := by
  induction os with
  | nil => rfl
  | cons o os ih =>
    rw [answered, ResultChain.handler, ResultChain.push_searchStages] at halting
    cases hp : passed n f names o with
    | none =>
      rw [hp] at halting
      rw [List.filterMap_cons_none hp, List.findSome?_cons, hp]
      exact ih (List.pairwise_cons.mp halting).2
    | some p =>
      rw [hp] at halting
      rw [List.filterMap_cons_some hp, List.findSome?_cons, hp]
      cases os with
      | nil => rfl
      | cons o' os =>
        have answer := (List.pairwise_cons.mp halting).1 _ List.mem_cons_self
        exact absurd answer Bool.false_ne_true

/-- How far a fetch of several queries has come: the first object that passes is kept, and from then
on the deduplicating stage wants no more. -/
structure Fetching (n : Normalizer) (f : Option Filter) (names : Option (List String))
    (os : List ResourceObject) (seen : Seen) (found : Option ResourceObject) : Prop where
  first : found = os.findSome? (passed n f names)
  wanting : seen.wanting = found.isNone
  known : ∀ v ∈ seen.uids, ∃ o ∈ os, o.uid.value = v

namespace Fetching

theorem start : Fetching n f names [] {} none := ⟨rfl, rfl, nofun⟩

/-- The chain of a fetch of several queries, when these objects were streamed. -/
def Behind (n : Normalizer) (f : Option Filter) (names : Option (List String))
    (os : List ResourceObject) (c : List Stage × Option ResourceObject) : Prop :=
  ∃ seen, c.1 = .distinct seen :: searchStages n f names ∧ Fetching n f names os seen c.2

theorem known_concat {uids : List String} (known : ∀ v ∈ uids, ∃ p ∈ os, p.uid.value = v) :
    ∀ v ∈ uids, ∃ p ∈ os ++ [o], p.uid.value = v := by
  intro v hv
  obtain ⟨p, hp, same⟩ := known v hv
  exact ⟨p, List.mem_append_left _ hp, same⟩

variable (alike : ∀ {o p : ResourceObject}, o.uid = p.uid → passed n f names o = none →
  passed n f names p = none)
include alike

/-- An object of a uid that was met before would not have passed. -/
theorem push {c : List Stage × Option ResourceObject} (behind : Behind n f names os c)
    (o : ResourceObject) :
    Behind n f names (os ++ [o]) (ResultChain.handler keepOne o c).2 := by
  obtain ⟨stages, found⟩ := c
  obtain ⟨⟨uids, wanting⟩, rfl, first, wants, known⟩ := behind
  replace first : found = os.findSome? (passed n f names) := first
  obtain rfl : wanting = found.isNone := wants
  cases found with
  | some p =>
    refine ⟨⟨uids, false⟩, rfl, ?_, rfl, known_concat known⟩
    rw [List.findSome?_append, ← first]
    rfl
  | none =>
    have none_passed := List.findSome?_eq_none_iff.mp first.symm
    have now : (os ++ [o]).findSome? (passed n f names) = passed n f names o := by
      rw [List.findSome?_append, ← first]
      cases hp : passed n f names o <;> simp [hp]
    rw [ResultChain.handler]
    dsimp only [Option.isNone_none]
    rw [ResultChain.push_distinct]
    split
    next met =>
      obtain ⟨p, hp, same⟩ := known _ (by simpa using met)
      have dropped := alike (Uid.value_inj.mp same) (none_passed p hp)
      exact ⟨⟨uids, true⟩, rfl, dropped.symm.trans now.symm, rfl, known_concat known⟩
    next new =>
      have met : ∀ v ∈ o.uid.value :: uids, ∃ p ∈ os ++ [o], p.uid.value = v :=
        List.forall_mem_cons.mpr
          ⟨⟨o, List.mem_append_right _ (List.mem_singleton_self o), rfl⟩, known_concat known⟩
      rw [ResultChain.push_searchStages]
      cases hp : passed n f names o with
      | none => exact ⟨_, rfl, hp.symm.trans now.symm, rfl, met⟩
      | some p => exact ⟨_, rfl, hp.symm.trans now.symm, rfl, met⟩

end Fetching

end

namespace Site

variable {σ κ α : Type} {item? : Entry κ → Option α} {before : List (Entry κ)} {s : Site σ κ}

theorem Shows.unique {as bs : List α} (h : s.Shows item? before as) (h' : s.Shows item? before bs) :
    as = bs := by
  obtain ⟨es, grown, rfl⟩ := h
  obtain ⟨es', grown', rfl⟩ := h'
  rw [List.append_cancel_left (grown.symm.trans grown')]

/-- The objects streamed are among the traffic. -/
theorem Shows.objects {es : List (Entry κ)} (h : s.Shows Entry.traffic? before es) :
    s.Shows Entry.object? before (es.filterMap Entry.object?) := by
  obtain ⟨all, grown, rfl⟩ := h
  refine ⟨all, grown, ?_⟩
  rw [List.filterMap_filterMap]
  refine List.filterMap_congr fun e _ => ?_
  cases e <;> rfl

end Site

variable {σ κ : Type}

/-- The objects that the connector streamed for the query. -/
def QueryRun.streamed (run : QueryRun κ) : List ResourceObject := run.talk.map Prod.fst

namespace Instance

open ConnectorHub.Action

variable (i : Instance σ κ) (oc : ObjectClass) (options : Options) (n : Normalizer)
  (f : Option Filter) (names : Option (List String))

theorem filterMap_object?_traffic (done : List (QueryRun κ)) :
    (done.flatMap fun run => i.traffic oc options run.query run.talk).filterMap Entry.object? =
      done.flatMap QueryRun.streamed := by
  rw [List.filterMap_flatMap]
  refine List.flatMap_congr fun run _ => ?_
  have shown (o : ResourceObject) (more : Bool) :
      Entry.object? (.handledObject i.id o more : Entry κ) = some o := rfl
  rw [traffic, List.filterMap_cons_none rfl]
  exact filterMap_talk shown run.talk

/-- A fetch for a caller that keeps one object: the queries are carried out, and if each stream ends
when no more is wanted the first object that passes is the one found. -/
def Fetches (plan : List (Option κ)) (x : Action (Site σ κ × Option ResourceObject) Unit)
    (s : Site σ κ) : Prop :=
  ∃ done ended t found, i.CarriesOut oc options n f names plan s.resource done ended t.resource ∧
    t.Shows Entry.traffic? s.journal
      (done.flatMap fun run => i.traffic oc options run.query run.talk) ∧
    x (s, none) = (ended, (t, found)) ∧
    ((∀ run ∈ done, Halting run.talk) →
      found = (done.flatMap QueryRun.streamed).findSome? (passed n f names))

theorem execute_fetches (q : Option κ) (s : Site σ κ) :
    i.Fetches oc options n f names [q]
      (withStages (searchStages n f names)
        (i.execute oc (q.map .own) (ResultChain.handler keepOne) options)) s := by
  obtain ⟨os, ended, t, talks, shows, run⟩ := i.execute_talks oc options q
    (ResultChain.handler keepOne) s (searchStages n f names, none)
  rw [ResultChain.taken_searchStages] at run
  let only : QueryRun κ :=
    ⟨q, answered (ResultChain.handler keepOne) os (searchStages n f names, none),
      answered keepOne (os.filterMap (passed n f names)) none, ended⟩
  have carried : i.CarriesOut oc options n f names [q] s.resource [only] ended t.resource :=
    { inOrder := List.prefix_rfl
      ends := ⟨[], only, rfl, nofun, .inr rfl, rfl⟩
      streams := ⟨t.resource, talks, rfl⟩
      heard := fun _ mem => List.mem_singleton.mp mem ▸
        ResultChain.heard_searchStages n f names keepOne os none }
  refine ⟨[only], ended, t, _, carried, ?_, withStages_of_run run, fun halting => ?_⟩
  · rw [List.flatMap_singleton]
    exact shows
  · rw [List.flatMap_singleton, QueryRun.streamed, map_fst_answered]
    exact taken_keepOne_of_halting (halting only (List.mem_singleton_self only))

theorem runQueries_fetches
    (alike : ∀ {o p : ResourceObject}, o.uid = p.uid → passed n f names o = none →
      passed n f names p = none) (queries : List κ) (s : Site σ κ) :
    i.Fetches oc options n f names (runs queries)
      (i.runQueries oc keepOne options (searchStages n f names) queries) s := by
  match queries with
  | [] => exact i.execute_fetches oc options n f names none s
  | [q] => exact i.execute_fetches oc options n f names (some q) s
  | q :: q' :: rest =>
    obtain ⟨done, ended, t, ps, carried, shows, -, run⟩ := i.runQueries_completes oc options n f
      names keepOne (q :: q' :: rest) s none
    have start : Fetching.Behind n f names [] (.fresh :: searchStages n f names, none) :=
      ⟨{}, rfl, .start⟩
    have several : 2 ≤ (q :: q' :: rest).length := Nat.le_add_left 2 rest.length
    obtain ⟨os, chain, streamed, seen, -, fetching⟩ :=
      runQueries_of_pushed (J := Fetching.Behind n f names)
        (fun _ _ o behind => Fetching.push alike behind o) i oc options several s start
    rw [run] at streamed fetching
    have same := streamed.unique (i.filterMap_object?_traffic oc options done ▸ shows.objects)
    exact ⟨done, ended, t, _, carried, shows, run, fun _ => same ▸ fetching.first⟩

end Instance

section

variable {n : Normalizer} (keeps : n.KeepsUids)
include keeps

/-- The stages of a fetch hand on the objects that come to have the normal form of the uid. -/
theorem passed_uidEquals (uid : Uid) (names : Option (List String)) (o : ResourceObject) :
    passed n (some (n.onFilter (.uidEquals uid))) names o =
      if (n.onObject o).uid = n.onUid uid then some (projectAll names (n.onObject o)) else none := by
  have accepts := keeps.accepts_onFilter uid (n.onObject o)
  by_cases same : (n.onObject o).uid = n.onUid uid
  · rw [if_pos same]
    exact if_pos (accepts.mpr same)
  · rw [if_neg same]
    exact if_neg fun h => same (accepts.mp h)

theorem uid_of_passed {uid : Uid} {names : Option (List String)} {o p : ResourceObject}
    (hp : passed n (some (n.onFilter (.uidEquals uid))) names o = some p) : p.uid = n.onUid uid := by
  rw [passed_uidEquals keeps] at hp
  obtain ⟨same, made⟩ := Option.ite_none_right_eq_some.mp hp
  rw [← Option.some.inj made, ResourceObject.uid_projectAll, same]

/-- Objects streamed under one uid come to have one uid. -/
theorem passed_eq_none_of_uid {uid : Uid} {names : Option (List String)} {o p : ResourceObject}
    (same : o.uid = p.uid) (dropped : passed n (some (n.onFilter (.uidEquals uid))) names o = none) :
    passed n (some (n.onFilter (.uidEquals uid))) names p = none := by
  rw [passed_uidEquals keeps, keeps.uid_onObject] at dropped ⊢
  rw [← same]
  exact if_neg fun h => by simp [h] at dropped

theorem findSome?_passed (uid : Uid) (names : Option (List String)) (os : List ResourceObject) :
    os.findSome? (passed n (some (n.onFilter (.uidEquals uid))) names) =
      (os.find? fun o => (n.onObject o).uid = n.onUid uid).map fun o =>
        projectAll names (n.onObject o) := by
  rw [List.find?_eq_findSome?_guard, List.map_findSome?]
  congr 1
  funext o
  rw [passed_uidEquals keeps, Function.comp_apply, Option.guard]
  by_cases same : (n.onObject o).uid = n.onUid uid <;> simp [same]

end

/-- A fetch is refused for want of the capability, or it carries out its queries. What it finds has
the normal form of the uid that was asked for. If no query fails, and each stream ends when no more
is wanted, it finds the projection of the first object streamed that comes to have this uid, and
nothing only if none does. -/
theorem Instance.getObject_finds (i : Instance σ κ) (oc : ObjectClass) (uid : Uid)
    (options : Options) (s : Site σ κ) (keeps : (i.normalizer oc).KeepsUids) :
    (∃ why t, i.require .search s = (.error why, t) ∧
      i.getObject oc uid options s = (.error why, t)) ∨
    ∃ queries t done ended u found, i.ComesTo oc (some (.uidEquals uid)) options s queries t ∧
      i.CarriesOut oc options (i.normalizer oc)
        (some ((i.normalizer oc).onFilter (.uidEquals uid))) options.attributesToGet (runs queries)
        t.resource done ended u.resource ∧
      u.Shows Entry.traffic? s.journal
        (done.flatMap fun run => i.traffic oc options run.query run.talk) ∧
      i.getObject oc uid options s = (ended.map fun _ => found, u) ∧
      (∀ o, found = some o → o.uid = (i.normalizer oc).onUid uid) ∧
      ((∀ run ∈ done, run.result = .ok () ∧ Halting run.talk) →
        ended = .ok () ∧
        found = ((done.flatMap QueryRun.streamed).find? fun o =>
          ((i.normalizer oc).onObject o).uid = (i.normalizer oc).onUid uid).map
            (fun o => projectAll options.attributesToGet ((i.normalizer oc).onObject o)) ∧
        (found = none ↔ ∀ o ∈ done.flatMap QueryRun.streamed,
          ((i.normalizer oc).onObject o).uid ≠ (i.normalizer oc).onUid uid)) := by
  obtain ⟨why, t, refused⟩ | ⟨queries, t, comes⟩ :=
    i.refused_or_comesTo oc (some (.uidEquals uid)) options s
  · refine .inl ⟨why, t, refused, ?_⟩
    rw [getObject_apply, search_of_refused _ none refused]
    rfl
  obtain ⟨done, ended, u, found, carried, shows, run, first⟩ := i.runQueries_fetches oc options
    (i.normalizer oc) (some ((i.normalizer oc).onFilter (.uidEquals uid))) options.attributesToGet
    (passed_eq_none_of_uid keeps) queries t
  have searched : i.search oc (some (.uidEquals uid)) keepOne options (s, none) =
      (ended, (u, found)) := (comes.search_eq keepOne none).trans run
  refine .inr ⟨queries, t, done, ended, u, found, comes, carried,
    (comes.shows_of_silent fun _ => rfl).append shows, ?_, ?_, fun steady => ?_⟩
  · rw [getObject_apply, searched]
  · intro o ho
    obtain ⟨_, -, -, origin⟩ := i.getObject_fetches oc options uid s
    rw [searched] at origin
    obtain ⟨_, _, -, passes⟩ := origin o ho
    exact uid_of_passed keeps passes
  · obtain ⟨earlier, last, rfl, -, -, rfl⟩ := carried.ends
    have found_eq := (first fun run mem => (steady run mem).2).trans
      (findSome?_passed keeps uid options.attributesToGet _)
    refine ⟨(steady last (List.mem_append_right _ (List.mem_singleton_self last))).1, found_eq, ?_⟩
    rw [found_eq, Option.map_eq_none_iff, List.find?_eq_none]
    simp only [decide_eq_true_eq, ne_eq]

theorem Feed.Talks.halting {α β : Type} {feed : Feed α β} {talk : List (α × Bool)} {b : β}
    (talks : feed.Talks talk b) (heeds : feed.Heeds) : Halting talk := by
  induction talks with
  | finish b => exact List.Pairwise.nil
  | offer a more talks ih =>
    obtain ⟨⟨c, stopped⟩, later⟩ := heeds
    cases more with
    | true => exact List.pairwise_cons.mpr ⟨fun _ _ => rfl, ih later⟩
    | false =>
      rw [stopped] at talks
      cases talks
      exact List.pairwise_singleton _ _

namespace Instance

variable {i : Instance σ κ} {oc : ObjectClass} {options : Options} {n : Normalizer}
  {f : Option Filter} {names : Option (List String)} {plan : List (Option κ)} {a b : σ}
  {done : List (QueryRun κ)} {ended : Except Stop Unit}

/-- A search that succeeds has come to its end by queries that did. -/
theorem CarriesOut.succeeded (carried : i.CarriesOut oc options n f names plan a done (.ok ()) b) :
    ∀ run ∈ done, run.result = .ok () := by
  obtain ⟨earlier, last, rfl, going, -, result⟩ := carried.ends
  intro run mem
  rcases List.mem_append.mp mem with mem | mem
  · exact not_not.mp (not_or.mp (going run mem)).1
  · exact List.mem_singleton.mp mem ▸ result

theorem Streams.halting
    (heeds : ∀ q a, (i.connector.query i.id oc q options a).Heeds)
    (streams : i.Streams oc options a done b) : ∀ run ∈ done, Halting run.talk := by
  induction done generalizing a with
  | nil => exact nofun
  | cons run done ih =>
    obtain ⟨m, talks, later⟩ := streams
    exact List.forall_mem_cons.mpr ⟨talks.halting (heeds _ _), ih later⟩

end Instance

/-- Mailboxes of uids in upper and lower case, two of which have one normal form. -/
def foldedBoxes : Instance Resources Filter := mailInstance (foldedUids ["A", "B", "b"])

def foldedBoxesFetch : Except Stop (Option ResourceObject) × Site Resources Filter :=
  foldedBoxes.getObject .account ⟨"b"⟩ mailOnly (foldedUidsSite ["A", "B", "b"])

/-- The first mailbox of the uid in lower case is found, with its address only. -/
theorem foldedBoxes_found :
    (foldedBoxes.normalizer .account).KeepsUids ∧
      ∃ (done : List (QueryRun Filter)) (u : Site Resources Filter) (found : ResourceObject),
        foldedBoxesFetch = (.ok (some found), u) ∧ found.uid = ⟨"b"⟩ ∧
        (∀ run ∈ done, run.result = .ok () ∧ Halting run.talk) ∧
        some found = ((done.flatMap QueryRun.streamed).find? fun o =>
          ((foldedBoxes.normalizer .account).onObject o).uid = ⟨"b"⟩).map
            (fun o => projectAll mailOnly.attributesToGet
              ((foldedBoxes.normalizer .account).onObject o)) := by
  have keeps : (foldedBoxes.normalizer .account).KeepsUids :=
    (EditRule.lower_valuewise .account (some Attribute.uidName)).keepsUids
  have hit : (foldedBoxesFetch.1.toOption.bind id).isSome = true := by decide +kernel
  obtain ⟨why, t, -, failed⟩ |
      ⟨queries, t, done, ended, u, found, -, carried, -, run, own, steady⟩ :=
    foldedBoxes.getObject_finds .account ⟨"b"⟩ mailOnly (foldedUidsSite ["A", "B", "b"]) keeps
  · rw [foldedBoxesFetch, failed] at hit
    exact absurd hit Bool.false_ne_true
  · have same : (foldedBoxes.normalizer .account).onUid ⟨"b"⟩ = ⟨"b"⟩ := by decide +kernel
    rw [same] at own steady
    rw [foldedBoxesFetch, run] at hit
    cases ended with
    | error why => exact absurd hit Bool.false_ne_true
    | ok ok =>
      cases found with
      | none => exact absurd hit Bool.false_ne_true
      | some o =>
        have halts : ∀ run ∈ done, Halting run.talk := Instance.Streams.halting
          (fun q rs => heeds_query rfl 0 0 .account q mailOnly rs) carried.streams
        have quiet : ∀ run ∈ done, run.result = .ok () ∧ Halting run.talk :=
          fun run mem => ⟨carried.succeeded run mem, halts run mem⟩
        exact ⟨keeps, done, u, o, run, own o rfl, quiet, (steady quiet).2.1⟩

end ConnectorHub
