import ConnectorHub.Hub.Facade
import ConnectorHub.Proofs.Attributes.Normal
import ConnectorHub.Proofs.Hub.Writes
import ConnectorHub.Proofs.Stream.Talk

namespace ConnectorHub

open ConnectorHub.Action

variable {σ κ ρ α β γ : Type}

/-- The caller takes the items that the journal shows, and takes nothing else. -/
def Hands (item? : Entry κ → Option α) (h : Handler ρ α) (x : Action (Site σ κ × ρ) β) : Prop :=
  ∀ s r, ∃ as, (x (s, r)).2.1.Shows item? s.journal as ∧ (x (s, r)).2.2 = taken h as r

namespace Hands

variable {item? : Entry κ → Option α} {h : Handler ρ α}

theorem bind {x : Action (Site σ κ × ρ) β} {f : β → Action (Site σ κ × ρ) γ}
    (hx : Hands item? h x) (hf : ∀ b, Hands item? h (f b)) : Hands item? h (x >>= f) := by
  intro s r
  obtain ⟨as, shows, kept⟩ := hx s r
  rw [bind_apply]
  cases run : x (s, r) with
  | mk result t =>
    rw [run] at shows kept
    cases result with
    | error why => exact ⟨as, shows, kept⟩
    | ok b =>
      obtain ⟨bs, more, kept'⟩ := hf b t.1 t.2
      refine ⟨as ++ bs, shows.append more, ?_⟩
      rw [taken_append, ← kept]
      exact kept'

/-- Beside the caller nothing is handed over. -/
theorem onFirst {x : Action (Site σ κ) β} (silent : Writes (fun e => item? e = none) x) :
    Hands item? h (Action.onFirst x) :=
  fun s _ => ⟨[], (silent.grown s).shows fun _ he => he, rfl⟩

end Hands

theorem Instance.sync_talks (i : Instance σ κ) (oc : ObjectClass) (token : Option Json)
    (h : Handler ρ SyncDelta) (options : Options) (s : Site σ κ) (r : ρ) :
    ∃ ds ended, (i.connector.sync i.id oc token options s.resource).Talks (answered h ds r) ended ∧
      (i.sync oc token h options (s, r)).2.1.Shows Entry.delta? s.journal ds ∧
      (i.sync oc token h options (s, r)).2.2 = taken h ds r := by
  let asked : Site σ κ := { s with journal := s.journal ++ [.synced i.id oc token options] }
  obtain ⟨ds, result, t, talks, run⟩ := stream_talks (.handledDelta i.id) h
    (i.connector.sync i.id oc token options) asked r
  have whole : i.sync oc token h options (s, r) =
      stream (.handledDelta i.id) h (i.connector.sync i.id oc token options) (asked, r) := rfl
  have shown (d : SyncDelta) (more : Bool) :
      Entry.delta? (.handledDelta i.id d more : Entry κ) = some d := rfl
  rw [whole, run]
  refine ⟨ds, (result, t), talks, ⟨_, List.append_assoc .., ?_⟩, rfl⟩
  rw [List.singleton_append, List.filterMap_cons_none rfl, filterMap_talk shown]
  exact map_fst_answered h ds r

theorem Instance.sync_hands (i : Instance σ κ) (oc : ObjectClass) (token : Option Json)
    (h : Handler ρ SyncDelta) (options : Options) :
    Hands Entry.delta? h (i.sync oc token h options) := by
  intro s r
  obtain ⟨ds, -, -, shows, kept⟩ := i.sync_talks oc token h options s r
  exact ⟨ds, shows, kept⟩

theorem Entry.delta?_of_upkeep {e : Entry κ} (he : e.Upkeep) : e.delta? = none := by
  cases e with
  | handledDelta => exact he.elim
  | _ => rfl

theorem Entry.delta?_of_closing {id : Nat} {e : Entry κ} (he : e.ClosingOf id) :
    e.delta? = none := by
  cases e with
  | handledDelta => exact he.elim
  | _ => rfl

/-- Around the work on a leased instance no delta is handed over. -/
theorem Context.feedingFrom_of_leased {c : Context σ κ}
    {x : Instance σ κ → Action (Site σ κ × ρ) β} {w w₁ : World σ κ} {l : Lease σ κ}
    (leased : Lease.acquire c w = (.ok l, w₁)) {r : ρ} {ds : List SyncDelta}
    (shows : (x l.member (w₁.site, r)).2.1.Shows Entry.delta? w₁.site.journal ds) :
    (c.feedingFrom x (w, r)).2.1.site.Shows Entry.delta? w.site.journal ds ∧
      (c.feedingFrom x (w, r)).2.2 = (x l.member (w₁.site, r)).2.2 := by
  rw [feedingFrom, bind_of_ok (onFirst_of_run leased), ensuring_snd]
  exact ⟨Lease.shows_around (fun _ => Entry.delta?_of_upkeep) (fun _ _ => Entry.delta?_of_closing)
    leased shows, rfl⟩

theorem Context.feedingFrom_hands {c : Context σ κ} {x : Instance σ κ → Action (Site σ κ × ρ) β}
    {h : Handler ρ SyncDelta} {w w₁ : World σ κ} {l : Lease σ κ}
    (leased : Lease.acquire c w = (.ok l, w₁)) (works : Hands Entry.delta? h (x l.member)) (r : ρ) :
    ∃ ds, (c.feedingFrom x (w, r)).2.1.site.Shows Entry.delta? w.site.journal ds ∧
      (c.feedingFrom x (w, r)).2.2 = taken h ds r := by
  obtain ⟨ds, shows, kept⟩ := works w₁.site r
  obtain ⟨shown, same⟩ := feedingFrom_of_leased leased shows
  exact ⟨ds, shown, same.trans kept⟩

/-- What a sync makes of a delta. -/
def delivered (n : Normalizer) (names : Option (List String)) (d : SyncDelta) : SyncDelta :=
  (Facade.syncStages n names).foldl (fun d stage => stage.apply d) d

theorem taken_syncStages (n : Normalizer) (names : Option (List String))
    (h : Handler ρ SyncDelta) (ds : List SyncDelta) (r : ρ) :
    taken (DeltaStage.handler (Facade.syncStages n names) h) ds r =
      taken h (ds.map (delivered n names)) r := by
  rw [taken, taken, List.foldl_map]
  rfl

theorem Facade.sync_hands (f : Facade σ κ) {w w₁ : World σ κ} {l : Lease σ κ}
    (leased : Lease.acquire f.context w = (.ok l, w₁)) (oc : ObjectClass) (token : Option Json)
    (h : Handler ρ SyncDelta) (options : Options) (r : ρ) :
    ∃ ds, (f.sync oc token h options (w, r)).2.1.site.Shows Entry.delta? w.site.journal ds ∧
      (f.sync oc token h options (w, r)).2.2 =
        taken h (ds.map (delivered (l.member.normalizer oc) options.attributesToGet)) r := by
  rw [sync]
  cases Check.objectClass oc .sync with
  | error e => exact ⟨[], w.site.shows_self, rfl⟩
  | ok valid =>
    let staged (i : Instance σ κ) : Handler ρ SyncDelta :=
      DeltaStage.handler (syncStages (i.normalizer oc) options.attributesToGet) h
    let work (i : Instance σ κ) : Action (Site σ κ × ρ) Unit :=
      Action.onFirst (i.require .sync) >>= fun _ => i.sync oc token (staged i) options
    have works : Hands Entry.delta? (staged l.member) (work l.member) :=
      (Hands.onFirst (Instance.require_writes .sync)).bind fun _ =>
        l.member.sync_hands oc token (staged l.member) options
    obtain ⟨ds, shows, kept⟩ := Context.feedingFrom_hands (x := work) leased works r
    exact ⟨ds, shows, kept.trans (taken_syncStages ..)⟩

end ConnectorHub
