import ConnectorHub.Proofs.Connector.Writes
import ConnectorHub.Proofs.Stream.Chain

namespace ConnectorHub.Instance

open ConnectorHub.Action

variable {σ κ ρ α β : Type}

/-- Is written by a search of the class with these options. -/
inductive OfSearch (i : Instance σ κ) (oc : ObjectClass) (options : Options) : Entry κ → Prop where
  | split (queries : Nat) : OfSearch i oc options (.noted (.filterSplit oc queries))
  | stopped (skipped : Nat) : OfSearch i oc options (.noted (.handlerStopped oc skipped))
  | translated (f : Filter) : OfSearch i oc options (.translated i.id oc f options)
  | queried (q : Option κ) : OfSearch i oc options (.queried i.id oc q options)
  | handled (o : ResourceObject) (more : Bool) :
    OfSearch i oc options (.handledObject i.id o more)

/-- What is asked of `I` for it to hold throughout a search; `f` is the filter in its normal form. -/
structure Follows (i : Instance σ κ) (oc : ObjectClass) (options : Options) (f : Option Filter)
    (h : Handler ρ ResourceObject) (I : List (Entry κ) → ρ → Prop) : Prop where
  wrote {e : Entry κ} {j : List (Entry κ)} {r : ρ} :
    i.OfSearch oc options e → I j r → I (j ++ [e]) r
  handed {o p : ResourceObject} {j : List (Entry κ)} {r : ρ} :
    passed (i.normalizer oc) f options.attributesToGet o = some p → I j r →
      I (j ++ [.handledObject i.id o (h p r).1]) (h p r).2

/-- A property of the journal and of what the caller keeps. -/
abbrev Across (I : List (Entry κ) → ρ → Prop) (s : Site σ κ × ρ) : Prop := I s.1.journal s.2

/-- A computation beside the caller writes entry by entry. -/
theorem keeps_onFirst {I : List (Entry κ) → ρ → Prop} {kind : Entry κ → Prop}
    {x : Action (Site σ κ) α} (hx : Writes kind x)
    (kept : ∀ e j r, kind e → I j r → I (j ++ [e]) r) :
    Keeps (Across I) (Action.onFirst x : Action (Site σ κ × ρ) α) := by
  rintro ⟨s, r⟩ held
  obtain ⟨es, grown, hes⟩ := hx.grown s
  have several : ∀ es j, (∀ e ∈ es, kind e) → I j r → I (j ++ es) r := by
    intro es
    induction es with
    | nil => exact fun j _ held => (List.append_nil j).symm ▸ held
    | cons e es ih =>
      intro j hes held
      rw [List.append_cons]
      exact ih _ (fun e' he' => hes e' (List.mem_cons_of_mem _ he'))
        (kept e j r (hes e List.mem_cons_self) held)
  change I (x s).2.journal r
  rw [grown]
  exact several es _ hes held

section

variable {entry : α → Bool → Entry κ} {h : Handler ρ α} {I : List (Entry κ) → ρ → Prop}
  (step : ∀ a j r, I j r → I (j ++ [entry a (h a r).1]) (h a r).2)
include step

/-- What each item keeps, the whole feed keeps, on whichever of its branches the answers lead. -/
theorem deliver_keeps (feed : Feed α β) (s : Site σ κ × ρ) (held : I s.1.journal s.2) :
    I (deliver entry h feed s).2.1.journal (deliver entry h feed s).2.2 := by
  induction feed generalizing s with
  | finish b => exact held
  | offer a next ih => exact ih (h a s.2).1 _ (step a _ _ held)

theorem stream_keeps (start : σ → Feed α (Except Stop Unit × σ)) :
    Keeps (Across I) (stream entry h start) :=
  fun s held => deliver_keeps step (start s.1.resource) s held

end

variable {i : Instance σ κ} {oc : ObjectClass} {options : Options} {f : Option Filter}
  {h : Handler ρ ResourceObject} {I : List (Entry κ) → ρ → Prop}

/-- What a chain of a search is at any time. -/
inductive SearchChain (n : Normalizer) (f : Option Filter) (names : Option (List String)) :
    List Stage → Prop where
  | plain : SearchChain n f names (searchStages n f names)
  | distinct (seen : Seen) : SearchChain n f names (.distinct seen :: searchStages n f names)

/-- Pushing an object leaves the caller alone or hands it on in the form that the stages give it. -/
theorem SearchChain.push {n : Normalizer} {names : Option (List String)} {stages : List Stage}
    (chain : SearchChain n f names stages) (h : Handler ρ ResourceObject) (o : ResourceObject)
    (r : ρ) :
    SearchChain n f names (ResultChain.push h stages o r).2.1 ∧
      ((ResultChain.push h stages o r).2.2 = r ∨
        ∃ p, passed n f names o = some p ∧ (ResultChain.push h stages o r).1 = (h p r).1 ∧
          (ResultChain.push h stages o r).2.2 = (h p r).2) := by
  cases chain with
  | plain =>
    rw [ResultChain.push_searchStages]
    cases hp : passed n f names o with
    | none => exact ⟨.plain, .inl rfl⟩
    | some p => exact ⟨.plain, .inr ⟨p, rfl, rfl, rfl⟩⟩
  | distinct seen =>
    rw [ResultChain.push, ResultChain.push_searchStages]
    split
    · exact ⟨.distinct seen, .inl rfl⟩
    split
    · exact ⟨.distinct seen, .inl rfl⟩
    cases hp : passed n f names o with
    | none => exact ⟨.distinct _, .inl rfl⟩
    | some p => exact ⟨.distinct _, .inr ⟨p, rfl, rfl, rfl⟩⟩

/-- What is asked of `J` for it to hold while the queries of a search run. It is of the journal, and
of the chain with the caller behind it. -/
structure Threads (i : Instance σ κ) (oc : ObjectClass) (options : Options)
    (h : Handler ρ ResourceObject) (J : List (Entry κ) → List Stage × ρ → Prop) : Prop where
  wrote {e : Entry κ} {j : List (Entry κ)} {c : List Stage × ρ} :
    i.OfSearch oc options e → e.object? = none → J j c → J (j ++ [e]) c
  pushed {o : ResourceObject} {j : List (Entry κ)} {c : List Stage × ρ} :
    J j c → J (j ++ [.handledObject i.id o (ResultChain.handler h o c).1])
      (ResultChain.handler h o c).2

namespace Threads

variable {J : List (Entry κ) → List Stage × ρ → Prop} (threads : i.Threads oc options h J)
include threads

theorem write {e : Entry κ} (he : i.OfSearch oc options e) (silent : e.object? = none) :
    Keeps (Across J) (Action.onFirst (Site.write (σ := σ) e)) := by
  have only : Writes (· = e) (Site.write (σ := σ) e) := .write rfl
  refine keeps_onFirst only fun e' j c same held => ?_
  subst same
  exact threads.wrote he silent held

theorem execute (q : Option κ) :
    Keeps (Across J) (i.execute oc (q.map .own) (ResultChain.handler h) options) := by
  have pushed (o : ResourceObject) (j : List (Entry κ)) (c : List Stage × ρ) (held : J j c) :
      J (j ++ [.handledObject i.id o (ResultChain.handler h o c).1]) (ResultChain.handler h o c).2 :=
    threads.pushed held
  cases q <;> exact (threads.write (.queried _) rfl).bind fun _ => stream_keeps pushed _

theorem executeAll (queries : List κ) : Keeps (Across J) (i.executeAll oc h options queries) := by
  induction queries with
  | nil => exact .pure ()
  | cons q rest ih =>
    refine (threads.execute (some q)).bind fun _ => ?_
    intro s held
    rw [bind_apply, get_apply]
    dsimp only
    split
    · exact ih s held
    · exact threads.write (.stopped rest.length) rfl s held

end Threads

section

variable {J : List ResourceObject → List Stage × ρ → Prop}
  (pushed : ∀ os c o, J os c → J (os ++ [o]) (ResultChain.handler h o c).2)
include pushed

/-- What pushing an object keeps, of the objects streamed so far and of the chain, holds while the
queries run. -/
theorem threads_of_pushed (before : List (Entry κ)) :
    i.Threads oc options h fun j c =>
      ∃ es, j = before ++ es ∧ J (es.filterMap Entry.object?) c where
  wrote {e _ _} _ silent := by
    rintro ⟨es, rfl, held⟩
    refine ⟨es ++ [e], List.append_assoc .., ?_⟩
    rw [List.filterMap_append, List.filterMap_cons_none silent]
    exact (List.append_nil _).symm ▸ held
  pushed {o _ c} := by
    rintro ⟨es, rfl, held⟩
    refine ⟨es ++ [.handledObject i.id o _], List.append_assoc .., ?_⟩
    rw [List.filterMap_append]
    exact pushed _ c o held

theorem runQueries_of_pushed (i : Instance σ κ) (oc : ObjectClass) (options : Options)
    {stages : List Stage} {queries : List κ} (several : 2 ≤ queries.length) (s : Site σ κ) {r : ρ}
    (start : J [] (.fresh :: stages, r)) :
    ∃ os chain, (i.runQueries oc h options stages queries (s, r)).2.1.Shows Entry.object? s.journal
        os ∧
      J os (chain, (i.runQueries oc h options stages queries (s, r)).2.2) := by
  match queries, several with
  | q :: q' :: rest, _ =>
    -- The invariant starts after the note of the split, which shows no object.
    let split : Entry κ := .noted (.filterSplit oc (q :: q' :: rest).length)
    let noted : Site σ κ := { s with journal := s.journal ++ [split] }
    obtain ⟨es, grown, held⟩ := (threads_of_pushed pushed noted.journal).executeAll
      (q :: q' :: rest) (noted, (.fresh :: stages, r)) ⟨[], (List.append_nil _).symm, start⟩
    refine ⟨es.filterMap Entry.object?, _, ⟨split :: es, grown.trans (List.append_assoc ..), ?_⟩,
      held⟩
    exact List.filterMap_cons_none rfl

end

/-- The invariant behind a chain of stages. -/
abbrev Behind (i : Instance σ κ) (oc : ObjectClass) (options : Options) (f : Option Filter)
    (I : List (Entry κ) → ρ → Prop) (j : List (Entry κ)) (c : List Stage × ρ) : Prop :=
  SearchChain (i.normalizer oc) f options.attributesToGet c.1 ∧ I j c.2

theorem withStages_keeps {stages : List Stage}
    (chain : SearchChain (i.normalizer oc) f options.attributesToGet stages)
    {x : Action (Site σ κ × (List Stage × ρ)) α} (hx : Keeps (Across (i.Behind oc options f I)) x) :
    Keeps (Across I) (withStages stages x) :=
  fun s held => (hx (s.1, (stages, s.2)) ⟨chain, held⟩).2

namespace Follows

variable (follows : i.Follows oc options f h I)
include follows

theorem threads : i.Threads oc options h (i.Behind oc options f I) where
  wrote he _ held := ⟨held.1, follows.wrote he held.2⟩
  pushed {o j c} held := by
    obtain ⟨chain, held⟩ := held
    obtain ⟨chain', alone | ⟨p, hp, answer, caller⟩⟩ := chain.push h o c.2
    · exact ⟨chain', alone.symm ▸ follows.wrote (.handled o _) held⟩
    · refine ⟨chain', ?_⟩
      rw [ResultChain.handler, answer, caller]
      exact follows.handed hp held

theorem runQueries (queries : List κ) :
    Keeps (Across I) (i.runQueries oc h options
      (searchStages (i.normalizer oc) f options.attributesToGet) queries) := by
  match queries with
  | [] => exact withStages_keeps .plain (follows.threads.execute none)
  | [q] => exact withStages_keeps .plain (follows.threads.execute (some q))
  | q :: q' :: rest =>
    have noted : Writes (i.OfSearch oc options) (σ := σ)
        (Site.note (.filterSplit oc (q :: q' :: rest).length)) := .write (.split _)
    exact (keeps_onFirst noted fun _ _ _ => follows.wrote).bind fun _ =>
      withStages_keeps (.distinct {}) (follows.threads.executeAll _)

end Follows

theorem nativeQueries_writes {kind : Entry κ → Prop} {f : Option Filter}
    (translated : ∀ g, kind (.translated i.id oc g options)) :
    Writes kind (i.nativeQueries oc options f) := by
  cases f with
  | none => exact .pure []
  | some g => exact translate_writes (translated g)

/-- What is kept by each step of a search is kept by the search. -/
theorem search_keeps (follows : i.Follows oc options (f.map (i.normalizer oc).onFilter) h I) :
    Keeps (Across I) (i.search oc f h options) := by
  have kept : ∀ e j r, i.OfSearch oc options e → I j r → I (j ++ [e]) r :=
    fun _ _ _ => follows.wrote
  exact (keeps_onFirst (require_writes .search) kept).bind fun _ =>
    (keeps_onFirst (nativeQueries_writes .translated) kept).bind fun queries =>
      follows.runQueries queries

/-- What a fetch has written, and that the object it has found was streamed. -/
def Fetched (i : Instance σ κ) (oc : ObjectClass) (options : Options) (f : Option Filter)
    (before j : List (Entry κ)) (found : Option ResourceObject) : Prop :=
  ∃ es, j = before ++ es ∧ (∀ e ∈ es, i.OfSearch oc options e) ∧
    ∀ c, found = some c → ∃ o more, .handledObject i.id o more ∈ es ∧
      passed (i.normalizer oc) f options.attributesToGet o = some c

theorem Fetched.write {before j : List (Entry κ)} {found found' : Option ResourceObject}
    {e : Entry κ} (h : i.Fetched oc options f before j found) (he : i.OfSearch oc options e)
    (streamed : found' = found ∨ ∃ o p more, found' = some p ∧ e = .handledObject i.id o more ∧
      passed (i.normalizer oc) f options.attributesToGet o = some p) :
    i.Fetched oc options f before (j ++ [e]) found' := by
  obtain ⟨es, rfl, hes, earlier⟩ := h
  refine ⟨es ++ [e], List.append_assoc .., fun e' he' => ?_, fun c hc => ?_⟩
  · rcases List.mem_append.mp he' with he' | he'
    · exact hes e' he'
    · exact List.mem_singleton.mp he' ▸ he
  · rcases streamed with rfl | ⟨o, p, more, hp, rfl, hpassed⟩
    · obtain ⟨o, more, mem, hpassed⟩ := earlier c hc
      exact ⟨o, more, List.mem_append_left _ mem, hpassed⟩
    · obtain rfl : p = c := Option.some.inj (hp.symm.trans hc)
      exact ⟨o, more, List.mem_append_right _ (List.mem_singleton_self _), hpassed⟩

theorem fetched_follows (before : List (Entry κ)) :
    i.Follows oc options f keepOne (i.Fetched oc options f before) where
  wrote he h := h.write he (.inl rfl)
  handed {o p _ _} hp h := h.write (.handled o false) (.inr ⟨o, p, false, rfl, rfl, hp⟩)

theorem getObject_apply (uid : Uid) (s : Site σ κ) :
    i.getObject oc uid options s =
      ((i.search oc (some (.uidEquals uid)) keepOne options (s, none)).1.map fun _ =>
          (i.search oc (some (.uidEquals uid)) keepOne options (s, none)).2.2,
        (i.search oc (some (.uidEquals uid)) keepOne options (s, none)).2.1) := by
  rw [getObject, bind_apply, withState]
  cases i.search oc (some (.uidEquals uid)) keepOne options (s, none) with
  | mk result t => cases result <;> rfl

theorem getObject_fetches (i : Instance σ κ) (oc : ObjectClass) (options : Options) (uid : Uid)
    (s : Site σ κ) :
    i.Fetched oc options (some ((i.normalizer oc).onFilter (.uidEquals uid))) s.journal
      (i.getObject oc uid options s).2.journal
      (i.search oc (some (.uidEquals uid)) keepOne options (s, none)).2.2 := by
  rw [getObject_apply]
  exact search_keeps (f := some (.uidEquals uid)) (fetched_follows s.journal) (s, none)
    ⟨[], (List.append_nil _).symm, fun _ he => absurd he List.not_mem_nil, fun _ hc => nomatch hc⟩

theorem getObject_writes (uid : Uid) :
    Writes (i.OfSearch oc options) (i.getObject oc uid options) := by
  refine Writes.of_grown fun s => ?_
  obtain ⟨es, grown, hes, -⟩ := i.getObject_fetches oc options uid s
  exact ⟨es, grown, hes⟩

/-- An object that a fetch finds is what the stages made of an object that was streamed. -/
theorem streamed_of_getObject {uid : Uid} {s t : Site σ κ} {c : ResourceObject}
    (run : i.getObject oc uid options s = (.ok (some c), t)) :
    ∃ es, t.journal = s.journal ++ es ∧ (∀ e ∈ es, i.OfSearch oc options e) ∧
      ∃ o more, .handledObject i.id o more ∈ es ∧
        passed (i.normalizer oc) (some ((i.normalizer oc).onFilter (.uidEquals uid)))
          options.attributesToGet o = some c := by
  obtain ⟨es, grown, hes, streamed⟩ := i.getObject_fetches oc options uid s
  rw [run] at grown
  refine ⟨es, grown, hes, streamed c ?_⟩
  rw [getObject_apply] at run
  generalize i.search oc (some (.uidEquals uid)) keepOne options (s, none) = ended at run ⊢
  obtain ⟨result, u, found⟩ := ended
  cases result with
  | error why => cases run
  | ok done => cases run; rfl

end ConnectorHub.Instance
