import ConnectorHub.Proofs.Hub.Refusal
import ConnectorHub.Proofs.Update.Once

namespace ConnectorHub

open ConnectorHub.Action

variable {σ κ ρ : Type}

namespace Facade

variable {f : Facade σ κ} {x : Request ρ}

theorem perform_of_met (met : ∀ c ∈ x.requirements f.reserved, c.Met) :
    f.perform x = f.context.feedingFrom fun i => x.work f.reserved i := by
  obtain ⟨e, first, -⟩ | ⟨-, whole⟩ := f.performs x
  · exact absurd met first.not_met
  · exact whole

/-- Only being cut short lets the release tell in the end of the work. -/
theorem perform_of_leased (met : ∀ c ∈ x.requirements f.reserved, c.Met) {w w₁ : World σ κ}
    {l : Lease σ κ} (leased : Lease.acquire f.context w = (.ok l, w₁)) {r r₂ : ρ}
    {result : Except Stop x.Reply} {site : Site σ κ}
    (worked : x.work f.reserved l.member (w₁.site, r) = (result, (site, r₂))) :
    ∃ ended w', l.release { w₁ with site := site } = (ended, w') ∧
      (∀ why, ended = .error why → why.abrupt = true) ∧
      f.perform x (w, r) = (overriding ended result, (w', r₂)) := by
  cases released : l.release { w₁ with site := site } with
  | mk ended w' =>
    have body : World.onSiteWith (x.work f.reserved l.member) (w₁, r) =
        (result, ({ w₁ with site := site }, r₂)) := by
      simp [World.onSiteWith, zoom, worked]
    refine ⟨ended, w', rfl, ?_, ?_⟩
    · rintro why rfl
      exact l.release_abrupt.error trivial released
    · rw [perform_of_met met]
      exact Context.feedingFrom_of_run (b := fun i => x.work f.reserved i) leased body released

/-- A request that succeeds has taken an instance and done its work on it. -/
theorem leased_of_ok {w w' : World σ κ} {r r' : ρ} {reply : x.Reply}
    (run : f.perform x (w, r) = (.ok reply, (w', r'))) :
    ∃ l w₁ site, (∀ c ∈ x.requirements f.reserved, c.Met) ∧
      Lease.acquire f.context w = (.ok l, w₁) ∧
      x.work f.reserved l.member (w₁.site, r) = (.ok reply, (site, r')) ∧
      (l.release { w₁ with site := site }).2 = w' := by
  obtain ⟨e, -, failed⟩ | ⟨met, whole⟩ := f.performs x
  · rw [failed] at run
    cases run
  cases leased : Lease.acquire f.context w with
  | mk acquired w₁ =>
    cases acquired with
    | error why =>
      rw [whole, Context.feedingFrom, bind_of_error (onFirst_of_run leased)] at run
      cases run
    | ok l =>
      cases worked : x.work f.reserved l.member (w₁.site, r) with
      | mk result t =>
        obtain ⟨site, r₂⟩ := t
        obtain ⟨ended, w₂, released, -, performed⟩ := perform_of_leased met leased worked
        rw [performed] at run
        cases ended with
        | error why => cases run
        | ok done =>
          cases run
          exact ⟨l, w₁, site, met, rfl, worked, congrArg Prod.snd released⟩

/-- Of what neither upkeep nor a release shows, a request shows what its work does. -/
theorem perform_shows {α : Type} {item? : Entry κ → Option α}
    (upkeep : ∀ e, e.Upkeep → item? e = none) (closing : ∀ id e, e.ClosingOf id → item? e = none)
    (met : ∀ c ∈ x.requirements f.reserved, c.Met) {w w₁ : World σ κ} {l : Lease σ κ}
    (leased : Lease.acquire f.context w = (.ok l, w₁)) {r r₂ : ρ} {result : Except Stop x.Reply}
    {site : Site σ κ} (worked : x.work f.reserved l.member (w₁.site, r) = (result, (site, r₂)))
    {as : List α} (shows : site.Shows item? w₁.site.journal as) :
    (f.perform x (w, r)).2.1.site.Shows item? w.site.journal as ∧
      (f.perform x (w, r)).2.2 = r₂ := by
  obtain ⟨ended, w', released, -, performed⟩ := perform_of_leased met leased worked
  have around : (l.release { w₁ with site := site }).2.site.Shows item? w.site.journal as :=
    Lease.shows_around upkeep closing leased shows
  rw [released] at around
  rw [performed]
  exact ⟨around, rfl⟩

end Facade

end ConnectorHub
