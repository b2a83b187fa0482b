import ConnectorHub.Proofs.Hub.Release
import ConnectorHub.Proofs.Sync.Draft

namespace ConnectorHub

open ConnectorHub.Action

variable {σ κ ρ β : Type}

theorem SyncDelta.relayed_delivered (n : Normalizer) (names : Option (List String))
    (d : SyncDelta) : d.Relayed (delivered n names d) :=
  (relayed_stage (.normalize n) d).trans (relayed_stage (.project names) (n.onDelta d))

theorem forall₂_delivered (n : Normalizer) (names : Option (List String)) (ds : List SyncDelta) :
    List.Forall₂ SyncDelta.Relayed ds (ds.map (delivered n names)) := by
  rw [List.forall₂_map_right_iff, List.forall₂_same]
  exact fun d _ => d.relayed_delivered n names

namespace Instance

variable (i : Instance σ κ) (oc : ObjectClass) (token : Option Json) (h : Handler ρ SyncDelta)
  (options : Options)

/-- The work of a sync on an instance, for a caller behind the stages. -/
def syncFor : Action (Site σ κ × ρ) Unit := do
  Action.onFirst (i.require .sync)
  let stages := Facade.syncStages (i.normalizer oc) options.attributesToGet
  i.sync oc token (DeltaStage.handler stages h) options

/-- To ask for the capability hands nothing over. -/
theorem require_shows {s t : Site σ κ} {result : Except Stop Unit}
    (required : i.require .sync s = (result, t)) : t.Shows Entry.delta? s.journal [] := by
  have silent : Writes (fun e : Entry κ => e.delta? = none) (i.require .sync) := require_writes .sync
  have asked := silent.grown s
  rw [required] at asked
  exact asked.shows fun _ unseen => unseen

theorem syncFor_of_refused {s t : Site σ κ} {why : Stop}
    (required : i.require .sync s = (.error why, t)) (r : ρ) :
    i.syncFor oc token h options (s, r) = (.error why, (t, r)) :=
  bind_of_error (onFirst_of_run required)

theorem syncFor_relays {s t : Site σ κ} (required : i.require .sync s = (.ok (), t)) (r : ρ) :
    ∃ talk ended received,
      (i.connector.sync i.id oc token options t.resource).Talks talk ended ∧
      (i.syncFor oc token h options (s, r)).2.1.Shows Entry.delta? s.journal (talk.map Prod.fst) ∧
      List.Forall₂ SyncDelta.Relayed (talk.map Prod.fst) received ∧
      (answered h received r).map Prod.snd = talk.map Prod.snd ∧
      (i.syncFor oc token h options (s, r)).2.2 = taken h received r := by
  let stages := Facade.syncStages (i.normalizer oc) options.attributesToGet
  obtain ⟨ds, ended, talks, shows, kept⟩ :=
    i.sync_talks oc token (DeltaStage.handler stages h) options t r
  have begun : i.syncFor oc token h options (s, r) =
      i.sync oc token (DeltaStage.handler stages h) options (t, r) :=
    bind_of_ok (onFirst_of_run required)
  rw [begun]
  refine ⟨_, ended, ds.map (delivered (i.normalizer oc) options.attributesToGet), talks, ?_⟩
  rw [map_fst_answered]
  refine ⟨(i.require_shows required).append shows, forall₂_delivered .., ?_, ?_⟩
  · exact (map_snd_answered_change h _ ds r).symm
  · exact kept.trans (taken_syncStages ..)

end Instance

/-- What fails on an instance is not made good by its release. -/
theorem Context.feedingFrom_error {c : Context σ κ} {x : Instance σ κ → Action (Site σ κ × ρ) β}
    {w w₁ : World σ κ} {l : Lease σ κ} (leased : Lease.acquire c w = (.ok l, w₁)) {r r' : ρ}
    {s : Site σ κ} {why : Stop} (failed : x l.member (w₁.site, r) = (.error why, (s, r'))) :
    ∃ why', (c.feedingFrom x (w, r)).1 = .error why' := by
  have body : World.onSiteWith (x l.member) (w₁, r) =
      (.error why, ({ w₁ with site := s }, r')) := by
    simp [World.onSiteWith, zoom, failed]
  cases release : l.release { w₁ with site := s } with
  | mk ended w₂ =>
    rw [feedingFrom_of_run leased body release]
    cases ended with
    | ok done => exact ⟨why, rfl⟩
    | error other => exact ⟨other, rfl⟩

namespace Facade

open DraftStep (last?)

variable (f : Facade σ κ) (oc : ObjectClass) (token : Option Json) (h : Handler ρ SyncDelta)
  (options : Options) (w : World σ κ) (r : ρ)

/-- A sync does not come to the connector. -/
inductive Unserved : Prop where
  | refused (e : Error) (checked : Check.objectClass oc .sync = .error e)
  | unleased (why : Stop) (w₁ : World σ κ)
    (failed : Lease.acquire f.context w = (.error why, w₁))
  | incapable (l : Lease σ κ) (w₁ : World σ κ) (why : Stop) (s : Site σ κ)
    (leased : Lease.acquire f.context w = (.ok l, w₁))
    (failed : l.member.require .sync w₁.site = (.error why, s))

/-- A sync fails and hands nothing over. -/
structure Fails : Prop where
  error : ∃ why, (f.sync oc token h options (w, r)).1 = .error why
  shown : (f.sync oc token h options (w, r)).2.1.site.Shows Entry.delta? w.site.journal []
  kept : (f.sync oc token h options (w, r)).2.2 = r

/-- The connector streams to its end by this talk, and for each delta of it the caller is handed one
that reports the same change, and answers in its place. -/
structure Relays (talk : List (SyncDelta × Bool)) (received : List SyncDelta) : Prop where
  streamed : ∃ l w₁ s ended, Lease.acquire f.context w = (.ok l, w₁) ∧
    l.member.require .sync w₁.site = (.ok (), s) ∧
    (l.member.connector.sync l.member.id oc token options s.resource).Talks talk ended
  shown : (f.sync oc token h options (w, r)).2.1.site.Shows Entry.delta? w.site.journal
    (talk.map Prod.fst)
  relayed : List.Forall₂ SyncDelta.Relayed (talk.map Prod.fst) received
  answers : (answered h received r).map Prod.snd = talk.map Prod.snd
  kept : (f.sync oc token h options (w, r)).2.2 = taken h received r

/-- A sync that does not come to the connector fails; any other relays what is streamed. -/
theorem sync_relays :
    f.Unserved oc w ∧ f.Fails oc token h options w r ∨
      ∃ talk received, f.Relays oc token h options w r talk received := by
  let work (i : Instance σ κ) : Action (Site σ κ × ρ) Unit := i.syncFor oc token h options
  cases checked : Check.objectClass oc .sync with
  | error e =>
    have refused : f.sync oc token h options (w, r) = (.error (.error e), (w, r)) := by
      rw [sync, checked]
      rfl
    refine .inl ⟨.refused e checked, ⟨.error e, congrArg Prod.fst refused⟩, ?_, ?_⟩
    · rw [refused]
      exact w.site.shows_self
    · rw [refused]
  | ok valid =>
  have run : f.sync oc token h options (w, r) = f.context.feedingFrom work (w, r) := by
    rw [sync, checked]
    rfl
  cases leased : Lease.acquire f.context w with
  | mk result w₁ =>
  cases result with
  | error why =>
    have failed : f.sync oc token h options (w, r) = (.error why, (w₁, r)) :=
      run.trans (bind_of_error (onFirst_of_run leased))
    refine .inl ⟨.unleased why w₁ leased, ⟨why, congrArg Prod.fst failed⟩, ?_, ?_⟩
    · rw [failed]
      exact Lease.acquire_shows (fun _ => Entry.delta?_of_upkeep) leased
    · rw [failed]
  | ok l =>
  cases required : l.member.require .sync w₁.site with
  | mk result s =>
  cases result with
  | error why =>
    have refused : work l.member (w₁.site, r) = (.error why, (s, r)) :=
      l.member.syncFor_of_refused oc token h options required r
    obtain ⟨why', failed⟩ := Context.feedingFrom_error leased refused
    have unseen : (work l.member (w₁.site, r)).2.1.Shows Entry.delta? w₁.site.journal [] := by
      rw [refused]
      exact l.member.require_shows required
    obtain ⟨shown, kept⟩ := Context.feedingFrom_of_leased leased unseen
    rw [← run] at failed shown kept
    exact .inl ⟨.incapable l w₁ why s leased required, ⟨why', failed⟩, shown,
      kept.trans (congrArg (·.2.2) refused)⟩
  | ok done =>
    obtain ⟨talk, ended, received, talks, shows, relayed, answers, kept⟩ :=
      l.member.syncFor_relays oc token h options required r
    obtain ⟨shown, same⟩ := Context.feedingFrom_of_leased (x := work) leased shows
    rw [← run] at shown same
    exact .inr ⟨talk, received, ⟨l, w₁, s, ended, leased, required, talks⟩, shown, relayed, answers,
      same.trans kept⟩

/-- A draft becomes a delta where its parts fit, and a delta fits and reports its change whatever
is made of it. A sync hands over one such delta for each that the connector streams. -/
theorem deltas_faithful (start : Json) (type : DeltaType) (steps : List DraftStep) :
    ((∃ d, (DeltaDraft.ofSteps start type steps).build = .ok d ∧
          DeltaDraft.Becomes ⟨start, type, last? DraftStep.previousUid? steps,
            last? DraftStep.objectClass? steps, last? DraftStep.uid? steps,
            last? DraftStep.object? steps⟩ d ∧
          ∀ changes, (SyncDelta.Change.applyAll changes d).Fits ∧
            d.Relayed (SyncDelta.Change.applyAll changes d)) ∨
        (∃ e, (DeltaDraft.ofSteps start type steps).build = .error e) ∧
          ¬∃ uid, last? DraftStep.uid? steps = some uid ∧
            SyncDelta.Fitting type (last? DraftStep.previousUid? steps) uid
              (last? DraftStep.object? steps)) ∧
      (f.Unserved oc w ∧ f.Fails oc token h options w r ∨
        ∃ talk received, f.Relays oc token h options w r talk received) := by
  refine ⟨?_, f.sync_relays oc token h options w r⟩
  have drafted := (DeltaDraft.ofSteps start type steps).build_cases
  rw [DeltaDraft.ofSteps_eq] at drafted ⊢
  obtain ⟨d, built, becomes⟩ | failed := drafted
  · refine .inl ⟨d, built, becomes, fun changes => ?_⟩
    exact ⟨SyncDelta.fits _, d.relayed_applyAll changes⟩
  · exact .inr failed

end Facade

end ConnectorHub
