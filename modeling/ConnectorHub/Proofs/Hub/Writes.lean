import ConnectorHub.Proofs.Connector.Writes
import ConnectorHub.Proofs.Likeness.World

namespace ConnectorHub

open ConnectorHub.Action

variable {σ κ α : Type} {kind : Entry κ → Prop}

theorem Lease.acquire_grown (c : Context σ κ) (w : World σ κ) :
    (Lease.acquire c w).2.site.Grown Entry.Upkeep w.site.journal :=
  ((Context.Alike.refl c).acquire w w ((World.Alike.refl w).like _)).2.site.written

theorem Lease.release_grown (l : Lease σ κ) (w : World σ κ) :
    (l.release w).2.site.Grown (Entry.ClosingOf l.member.id) w.site.journal := by
  have alike : l.Alike l := ⟨.refl l.member, rfl⟩
  exact (alike.release w w ((World.Alike.refl w).like _)).2.site.written

section

variable {item? : Entry κ → Option α} {c : Context σ κ} {w w₁ : World σ κ}

theorem Lease.acquire_shows (upkeep : ∀ e, e.Upkeep → item? e = none)
    {result : Except Stop (Lease σ κ)} (acquired : Lease.acquire c w = (result, w₁)) :
    w₁.site.Shows item? w.site.journal [] := by
  have written := acquire_grown c w
  rw [acquired] at written
  exact written.shows upkeep

/-- Of what neither upkeep nor a release shows, a call on a leased instance shows what its work
does. -/
theorem Lease.shows_around {l : Lease σ κ} {w₂ : World σ κ} {as : List α}
    (upkeep : ∀ e, e.Upkeep → item? e = none) (closing : ∀ id e, e.ClosingOf id → item? e = none)
    (leased : Lease.acquire c w = (.ok l, w₁)) (shows : w₂.site.Shows item? w₁.site.journal as) :
    (l.release w₂).2.site.Shows item? w.site.journal as := by
  have before : w₁.site.Shows item? w.site.journal [] := acquire_shows upkeep leased
  have after : (l.release w₂).2.site.Shows item? w₂.site.journal [] :=
    (l.release_grown w₂).shows (closing l.member.id)
  exact List.append_nil as ▸ (before.append shows).append after

end

/-- The work may be known by the lease on which it is done. -/
theorem Context.withInstance_grown {c : Context σ κ} {x : Instance σ κ → Action (Site σ κ) α}
    {w : World σ κ} (upkeep : ∀ e, e.Upkeep → kind e) (closing : ∀ id e, e.ClosingOf id → kind e)
    (works : ∀ l w₁, Lease.acquire c w = (.ok l, w₁) → Writes kind (x l.member)) :
    (c.withInstance x w).2.site.Grown kind w.site.journal := by
  have acquired := (Lease.acquire_grown c w).mono upkeep
  rw [withInstance, bind_apply]
  cases run : Lease.acquire c w with
  | mk result w₁ =>
    rw [run] at acquired
    cases result with
    | error why => exact acquired
    | ok l =>
      dsimp only
      rw [ensuring_snd]
      have worked : (World.onSite (x l.member) w₁).2.site.Grown kind w₁.site.journal :=
        (works l w₁ run).grown w₁.site
      exact (acquired.append worked).append ((l.release_grown _).mono (closing l.member.id))

/-- A new instance is of its factory's connector, and has the rule that the connector gives it now. -/
theorem Instance.create_made (f : Factory σ κ) (properties : Fields) :
    Triple (fun _ => True) (create f properties)
      (fun i s => i.connector = f.connector ∧ i.rule = f.connector.rule i.id s.resource)
      fun _ _ => True := by
  refine (Triple.unasked _).bind fun id => (Triple.unasked _).bind fun result => ?_
  cases result with
  | ok done => exact (Triple.unasked _).bind fun capabilities _ _ => ⟨rfl, rfl⟩
  | error e =>
    refine (Triple.unasked _).bind fun disposed => ?_
    cases disposed with
    | ok done => exact Triple.fail fun _ _ => trivial
    | error e => exact (Triple.unasked _).bind fun _ => Triple.fail fun _ _ => trivial

theorem Lease.acquire_made {c : Context σ κ} (unpooled : c.pool = none) :
    Triple (fun _ => True) (acquire c)
      (fun l w => l.member.connector = c.factory.connector ∧
        l.member.rule = c.factory.connector.rule l.member.id w.site.resource) fun _ _ => True := by
  unfold acquire
  rw [unpooled]
  apply Triple.bind (Q := fun i w => i.connector = c.factory.connector ∧
    i.rule = c.factory.connector.rule i.id w.site.resource)
  · exact Triple.zoom fun w _ => (Instance.create_made _ _).pre fun _ _ => trivial
  · intro i
    exact Triple.bind (Triple.modify fun _ made => made) fun _ => Triple.pure fun _ made => made

end ConnectorHub
