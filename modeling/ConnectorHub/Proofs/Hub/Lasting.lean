import ConnectorHub.Proofs.Hub.Making

namespace ConnectorHub

open ConnectorHub.Action

variable {σ κ ρ α : Type} {I : Site σ κ → Prop}

namespace Site

/-- Every single change keeps `I`, constructions apart. -/
structure Lasting (I : Site σ κ → Prop) : Prop where
  write {s : Site σ κ} {e : Entry κ} : e.built? = none → I s →
    I { s with journal := s.journal ++ [e] }
  change {s : Site σ κ} (clock : Nat) (resource : σ) : I s →
    I { s with clock := clock, resource := resource }

/-- Constructions keep it too. -/
structure Perennial (I : Site σ κ → Prop) : Prop extends Lasting I where
  construct {s : Site σ κ} (maker : Nat) : I s →
    I { s with built := s.built + 1, journal := s.journal ++ [.built s.built maker] }

theorem Lasting.pool (h : Lasting I) : Pool.Lasting fun s : Pool.At σ κ => I s.1 where
  write := h.write
  onSite := h.change
  update _ _ hs := hs
  regate _ hs := hs

theorem Perennial.pool (h : Perennial I) : Pool.Perennial fun s : Pool.At σ κ => I s.1 where
  toLasting := h.toLasting.pool
  construct := h.construct _

end Site

/-- A computation agrees with itself where it keeps what it starts from. -/
theorem Action.Keeps.agree {σ α : Type} {I : σ → Prop} {x : Action σ α} (h : Keeps I x) :
    Agree (fun s t => s = t ∧ I s) (SameEnd Eq) x x := by
  rintro s _ ⟨rfl, held⟩
  exact ⟨.refl (fun _ => rfl) _, rfl, h s held⟩

theorem World.keeps_site (n : Nat) {x : Action (Pool.At σ κ) α} (hx : Keeps (fun s => I s.1) x) :
    Keeps (fun w : World σ κ => I w.site) (World.onPool n x) := by
  intro w hw
  unfold World.onPool
  cases w.pools[n]? with
  | none => exact hw
  | some p => exact hx (w.site, p) hw

namespace Site.Lasting

variable (h : Lasting I)
include h

theorem writes {e : Entry κ} (he : e.built? = none) : Keeps I (Site.write e) :=
  fun _ hs => h.write he hs

theorem onResource (x : Action σ α) : Keeps I (Site.onResource x) := fun s hs => h.change s.clock _ hs

theorem call (c : Connector σ κ) (id : Nat) (x : Call) : Keeps I (c.call id x) :=
  (h.writes rfl).bind fun _ => h.onResource _

theorem deliver {β : Type} {entry : α → Bool → Entry κ} (quiet : ∀ a more, (entry a more).built? = none)
    (hd : Handler ρ α) (feed : Feed α β) (s : Site σ κ × ρ) (hs : I s.1) :
    I (Instance.deliver entry hd feed s).2.1 := by
  induction feed generalizing s with
  | finish b => exact hs
  | offer a next ih => exact ih (hd a s.2).1 _ (h.write (quiet a _) hs)

theorem stream {entry : α → Bool → Entry κ} (quiet : ∀ a more, (entry a more).built? = none)
    (hd : Handler ρ α) (start : σ → Feed α (Except Stop Unit × σ)) :
    Keeps (fun s : Site σ κ × ρ => I s.1) (Instance.stream entry hd start) := by
  intro s hs
  have delivered := h.deliver quiet hd (start s.1.resource) s hs
  exact h.change (Instance.deliver entry hd (start s.1.resource) s).2.1.clock _ delivered

/-- Work on an instance beside itself. -/
theorem parallel (i : Instance σ κ) : i.Parallel (fun s t => s = t ∧ I s) i where
  capabilities := rfl
  rule := rfl
  note n := (h.writes rfl).agree
  asks c := (h.onResource _).agree
  call x _ := (h.call i.connector i.id x).agree
  translate oc options f := Keeps.agree ((h.writes rfl).bind fun _ => h.onResource _)
  execute {ρ} oc query hd options := by
    have run (q : Option κ) : Keeps (fun s : Site σ κ × ρ => I s.1)
        (do Action.onFirst (Site.write (.queried i.id oc q options))
            Instance.stream (.handledObject i.id) hd (i.connector.query i.id oc q options)) :=
      (Keeps.onFirst fun _ => h.writes rfl).bind fun _ => h.stream (fun _ _ => rfl) hd _
    have whole : Keeps (fun s : Site σ κ × ρ => I s.1) (i.execute oc query hd options) := by
      cases query with
      | none => exact run none
      | some q =>
        cases q with
        | own q => exact run (some q)
        | foreign => exact .fail _
    rintro s t ⟨⟨same, hs⟩, caller⟩
    obtain rfl : s = t := Prod.ext same caller
    exact ⟨.refl (fun _ => rfl) _, ⟨rfl, whole s hs⟩, rfl⟩
  sync {ρ} oc token hd options := by
    have whole : Keeps (fun s : Site σ κ × ρ => I s.1) (i.sync oc token hd options) :=
      (Keeps.onFirst fun _ => h.writes rfl).bind fun _ => h.stream (fun _ _ => rfl) hd _
    rintro s t ⟨⟨same, hs⟩, caller⟩
    obtain rfl : s = t := Prod.ext same caller
    exact ⟨.refl (fun _ => rfl) _, ⟨rfl, whole s hs⟩, rfl⟩

theorem noted (n : Note) : Keeps (fun w : World σ κ => I w.site) (World.note n) :=
  fun _ hw => h.write rfl hw

theorem release (l : Lease σ κ) : Keeps (fun w : World σ κ => I w.site) l.release := by
  unfold Lease.release
  cases l.pool with
  | some n =>
    refine (World.keeps_site n (h.pool.giveBack l.member)).attempt.bind fun result => ?_
    cases result <;> exact h.noted _
  | none =>
    have disposes : Keeps (fun w : World σ κ => I w.site) (World.onSite l.member.dispose) :=
      fun w hw => h.call l.member.connector l.member.id .dispose w.site hw
    refine disposes.attempt.bind fun result => ?_
    cases result <;> exact h.noted _

end Site.Lasting

namespace Site.Perennial

variable (h : Perennial I)
include h

theorem acquire (c : Context σ κ) : Keeps (fun w : World σ κ => I w.site) (Lease.acquire c) := by
  unfold Lease.acquire
  cases c.pool with
  | some n =>
    exact (World.keeps_site n h.pool.borrow).bind fun _ => (h.noted _).bind fun _ _ hw => hw
  | none =>
    have creates : Keeps (fun w : World σ κ => I w.site)
        (World.onSite (Instance.create c.factory c.configuration.properties)) :=
      fun w hw => h.pool.create c.noPool _ w.site hw
    exact creates.bind fun _ => (h.noted _).bind fun _ => .pure _

theorem perform (f : Facade σ κ) (x : Request ρ) :
    Keeps (fun s : World σ κ × ρ => I s.1.site) (f.perform x) := by
  cases Facade.together (f := f) (g := f) rfl x with
  | refused e hx _ =>
    rw [hx]
    exact .fail e
  | served b b' hx hy works =>
    rw [hx]
    refine Keeps.bind (Keeps.onFirst fun _ => h.acquire _) fun l s hs => ?_
    have worked := works _ _ _ (h.parallel l.member) (s.1.site, s.2) (s.1.site, s.2) ⟨⟨rfl, hs⟩, rfl⟩
    rw [ensuring_snd]
    exact h.release l (World.onSiteWith (b l.member) s).2.1 worked.2.1.2

end Site.Perennial

end ConnectorHub
