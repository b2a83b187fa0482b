import ConnectorHub.Proofs.Hub.Lasting
import ConnectorHub.Proofs.Hub.Writes
import ConnectorHub.Proofs.Pool.Usage

namespace ConnectorHub

open ConnectorHub.Action
open Pool (Account ids)

variable {σ κ ρ α : Type}

namespace Entry

theorem quiet_of_workOf {id : Nat} {e : Entry κ} (h : e.WorkOf id) : e.Quiet := by
  cases e with
  | built inst maker => cases h
  | called inst c =>
    refine quiet_called ?_
    rintro rfl
    exact absurd h.2 Bool.noConfusion
  | _ => exact ⟨rfl, rfl⟩

theorem constructions_of_quiet {es : List (Entry κ)} (h : ∀ e ∈ es, e.Quiet) (id : Nat) :
    constructions id es = 0 := by
  rw [constructions, List.filterMap_eq_nil_iff.mpr fun e he => (h e he).1, List.count_nil]

theorem disposals_of_quiet {es : List (Entry κ)} (h : ∀ e ∈ es, e.Quiet) (id : Nat) :
    disposals id es = 0 := by
  rw [disposals, List.filterMap_eq_nil_iff.mpr fun e he => (h e he).2, List.count_nil]

end Entry

namespace Pool

/-- Since the books were opened at this place, with `before` outside the pool: what is held outside
now, and what is lost. -/
def Books (p : Pool σ κ) (site : Site σ κ) (before after lost : List Nat) (s : At σ κ) : Prop :=
  ∀ id, (ids s.2.idle).count id + after.count id +
      Entry.disposals id (s.1.since site.journal.length) + lost.count id =
    Entry.constructions id (s.1.since site.journal.length) + (ids p.idle).count id + before.count id

variable {p : Pool σ κ} {site : Site σ κ} {a : Account} {s : At σ κ} {before : List Nat} {why : Stop}

theorem Account.Of.books (h : a.Of s) (opened : a.opened = site.journal.length)
    (given : a.given = ids p.idle ++ before) : p.Books site before a.held a.lost s := by
  intro id
  have balance := h.balance id
  rw [opened, given, List.count_append] at balance
  omega

/-- Only a stop that cuts a call short loses instances. -/
theorem Account.After.books (h : a.After why s) (opened : a.opened = site.journal.length)
    (given : a.given = ids p.idle ++ before) (whole : a.lost = []) :
    ∃ lost, p.Books site before a.held lost s ∧ (why.abrupt = false → lost = []) := by
  obtain ⟨lost, none, books⟩ := h.exists_lost
  refine ⟨lost ++ a.lost, books.books opened given, fun settled => ?_⟩
  rw [none settled, whole, List.nil_append]

/-- The instance that a borrow came to. -/
def Progress.gained : Progress σ κ → List Nat
  | .ended (.ok i) => [i.id]
  | _ => []

end Pool

namespace World

/-- The instances that are idle in the pool, if it is one. -/
def idleAt (w : World σ κ) (pool : Option Nat) : List Nat :=
  ((pool.bind fun n => w.pools[n]?).map fun p => ids p.idle).getD []

/-- What was written since `w`. -/
def news (w w' : World σ κ) : List (Entry κ) := w'.site.since w.site.journal.length

/-- By a move at a pool `before` were given back, `after` were lent, and `lost` are nowhere. -/
structure Exchange (pool : Option Nat) (w w' : World σ κ) (before after lost : List Nat) : Prop where
  written : w'.site.journal = w.site.journal ++ w.news w'
  apart : w.Apart pool w'
  balance (id : Nat) :
    (w.idleAt pool).count id + before.count id + Entry.constructions id (w.news w') =
      (w'.idleAt pool).count id + after.count id + Entry.disposals id (w.news w') + lost.count id

/-- How a computation ended that lends instances of a pool. Only where it is cut short it loses
some. -/
def Lends (pool : Option Nat) (w : World σ κ) (held : α → List Nat) :
    Except Stop α × World σ κ → Prop
  | (.ok v, w') => w.Exchange pool w' [] (held v) []
  | (.error why, w') => ∃ lost, w.Exchange pool w' [] [] lost ∧ (why.abrupt = false → lost = [])

variable {pool : Option Nat} {w w' w'' : World σ κ} {before between after lost lost' : List Nat}
  {p q : Pool σ κ} {n : Nat}

theorem news_of_written {es : List (Entry κ)} (h : w'.site.journal = w.site.journal ++ es) :
    w.news w' = es := by
  rw [news, Site.since, h, List.drop_left]

theorem written_of_grown {kind : Entry κ → Prop} (h : w'.site.Grown kind w.site.journal) :
    w'.site.journal = w.site.journal ++ w.news w' ∧ ∀ e ∈ w.news w', kind e := by
  obtain ⟨es, grown, kinds⟩ := h
  rw [news_of_written grown]
  exact ⟨grown, kinds⟩

theorem idleAt_of_pools_eq (h : w'.pools = w.pools) : w'.idleAt pool = w.idleAt pool := by
  rw [idleAt, idleAt, h]

theorem idleAt_of_getElem? (h : w.pools[n]? = some p) : w.idleAt (some n) = ids p.idle := by
  rw [idleAt, Option.bind_some, h]
  rfl

namespace Exchange

theorem trans (h : w.Exchange pool w' before between lost)
    (h' : w'.Exchange pool w'' between after lost') :
    w.Exchange pool w'' before after (lost ++ lost') := by
  have written : w''.site.journal = w.site.journal ++ (w.news w' ++ w'.news w'') := by
    rw [h'.written, ← List.append_assoc, ← h.written]
  have news := news_of_written written
  refine ⟨news.symm ▸ written, h.apart.trans h'.apart, fun id => ?_⟩
  have first := h.balance id
  have last := h'.balance id
  rw [news, Entry.constructions_append, Entry.disposals_append, List.count_append]
  omega

/-- Nothing is lent or idle afterwards but what was there, was given back or is new. -/
theorem provenance (h : w.Exchange pool w' before after lost) {id : Nat}
    (hid : id ∈ w'.idleAt pool ∨ id ∈ after) :
    id ∈ w.idleAt pool ∨ id ∈ before ∨ id ∈ (w.news w').filterMap Entry.built? := by
  have balance := h.balance id
  have there : 0 < (w'.idleAt pool).count id + after.count id := by
    rcases hid with hid | hid
    · exact Nat.add_pos_left (List.count_pos_iff.mpr hid) _
    · exact Nat.add_pos_right _ (List.count_pos_iff.mpr hid)
  have before : 0 < (w.idleAt pool).count id + before.count id +
      Entry.constructions id (w.news w') := by
    omega
  rw [Entry.constructions] at before
  rcases Nat.add_pos_iff_pos_or_pos.mp before with hid | hid
  · rcases Nat.add_pos_iff_pos_or_pos.mp hid with hid | hid
    · exact .inl (List.count_pos_iff.mp hid)
    · exact .inr (.inl (List.count_pos_iff.mp hid))
  · exact .inr (.inr (List.count_pos_iff.mp hid))

/-- What neither makes instances nor disposes of any leaves all in place. -/
theorem quiet (pools : w'.pools = w.pools) {es : List (Entry κ)}
    (written : w'.site.journal = w.site.journal ++ es) (kinds : ∀ e ∈ es, e.Quiet) (held : List Nat) :
    w.Exchange pool w' held held [] := by
  have news := news_of_written written
  refine ⟨news.symm ▸ written, apart_of_pools_eq pools, fun id => ?_⟩
  rw [news, Entry.constructions_of_quiet kinds, Entry.disposals_of_quiet kinds,
    idleAt_of_pools_eq pools, List.count_nil, Nat.add_zero]

theorem refl (w : World σ κ) (held : List Nat) : w.Exchange pool w held held [] :=
  quiet rfl (List.append_nil _).symm (fun _ he => absurd he List.not_mem_nil) held

/-- The books of a pool are those of its place. -/
theorem of_books (hi : w.idleAt pool = ids p.idle) (hi' : w'.idleAt pool = ids q.idle)
    (books : p.Books w.site before after lost (w'.site, q))
    (written : w'.site.journal = w.site.journal ++ w.news w') (apart : w.Apart pool w') :
    w.Exchange pool w' before after lost := by
  refine ⟨written, apart, fun id => ?_⟩
  have balance := books id
  dsimp only at balance
  rw [hi, hi', news]
  omega

end Exchange

/-- Whatever is called, the journal grows. -/
theorem grown_perennial (before : List (Entry κ)) :
    Site.Perennial (Site.Grown (σ := σ) (fun _ => True) before) where
  write _ hs := hs.write trivial
  change _ _ hs := hs
  construct _ hs := hs.write trivial

/-- Of a computation that keeps the books of its pool, whatever it lends. -/
theorem onPool_exchange {x : Action (Pool.At σ κ) α} {held : α → List Nat}
    (hp : w.pools[n]? = some p)
    (hx : Triple ((p.account w.site []).hold []).Of x
      (fun v => p.Books w.site [] (held v) [])
      fun why s => ∃ lost, p.Books w.site [] [] lost s ∧ (why.abrupt = false → lost = []))
    (lasts : ∀ I, Pool.Perennial I → Keeps I x) :
    w.Lends (some n) held (onPool n x w) := by
  have apart := onPool_apart n (fun f => lasts _ (Pool.factory_lasting f)) w
  have ended := hx (w.site, p) (p.account_of w.site [])
  have grown := lasts _ (grown_perennial w.site.journal).pool (w.site, p) w.site.grown_self
  unfold onPool at apart ⊢
  rw [hp] at apart ⊢
  dsimp only at apart ⊢
  cases run : x (w.site, p) with
  | mk result t =>
    rw [run] at ended grown apart
    have put : (w.pools.set n t.2)[n]? = some t.2 :=
      List.getElem?_set_self (List.getElem?_eq_some_iff.mp hp).1
    have exchange {after lost : List Nat} (books : p.Books w.site [] after lost t) :
        w.Exchange (some n) { w with site := t.1, pools := w.pools.set n t.2 } [] after lost :=
      .of_books (idleAt_of_getElem? hp) (idleAt_of_getElem? put) books (written_of_grown grown).1
        apart
    cases result with
    | ok v => exact exchange ended
    | error why =>
      obtain ⟨lost, books, settled⟩ := ended
      exact ⟨lost, exchange books, settled⟩

theorem progress_exchange {x : Action (Pool.At σ κ) (Pool.Progress σ κ)}
    (hp : w.pools[n]? = some p)
    (hx : ∀ a : Account, Triple (fun s => a.Of s) x (fun progress s => a.Met progress s)
      fun why s => a.After why s)
    (lasts : ∀ I, Pool.Perennial I → Keeps I x) :
    w.Lends (some n) Pool.Progress.gained (onPool n x w) := by
  refine onPool_exchange hp ((hx _).weaken (fun _ => id) (fun progress s met => ?_)
    fun why s after => after.books rfl rfl rfl) lasts
  cases progress with
  | waiting w => exact Account.Of.books met rfl rfl
  | ended result =>
    cases result with
    | ok i => exact Account.Of.books met.2 rfl rfl
    | error e => exact Account.Of.books met rfl rfl

theorem close_exchange (hp : w.pools[n]? = some p) :
    w.Lends (some n) (fun _ => []) (onPool n Pool.close w) :=
  onPool_exchange hp
    (Pool.close_custody.weaken (fun _ => id) (fun _ _ closed => closed.books rfl rfl)
      fun _ _ after => after.books rfl rfl rfl)
    fun _ h => h.toLasting.close

end World

namespace Lease

open World

/-- A lease takes an instance from its pool or makes one. -/
theorem acquire_exchange (c : Context σ κ) (w : World σ κ) :
    w.Lends c.pool (fun l => [l.member.id]) (acquire c w) := by
  have apart := acquire_apart c w
  have written := (written_of_grown ((grown_perennial w.site.journal).acquire c w w.site.grown_self)).1
  cases run : acquire c w with
  | mk result w' =>
    rw [run] at apart written
    cases hc : c.pool with
    | none =>
      have ended := acquire_unpooled hc c.noPool w (c.noPool.account_of w.site [])
      rw [run] at ended
      rw [hc] at apart
      cases result with
      | ok l => exact .of_books (p := c.noPool) (q := c.noPool) rfl rfl (ended.books rfl rfl) written apart
      | error why =>
        obtain ⟨lost, books, settled⟩ := ended.books rfl rfl rfl
        exact ⟨lost, .of_books (p := c.noPool) (q := c.noPool) rfl rfl books written apart, settled⟩
    | some n =>
      cases hp : w.pools[n]? with
      | none =>
        rw [Context.acquire_missing hc hp] at run
        cases run
        exact ⟨[], .refl w [], fun _ => rfl⟩
      | some p =>
        have ended := acquire_pooled hc w ⟨p, hp, p.account_of w.site []⟩
        rw [run] at ended
        rw [hc] at apart
        cases result with
        | ok l =>
          obtain ⟨p', hp', -, lent⟩ := ended
          exact .of_books (idleAt_of_getElem? hp) (idleAt_of_getElem? hp') (lent.books rfl rfl)
            written apart
        | error why =>
          obtain ⟨p', hp', after⟩ := ended
          obtain ⟨lost, books, settled⟩ := after.books rfl rfl rfl
          exact ⟨lost, .of_books (idleAt_of_getElem? hp) (idleAt_of_getElem? hp') books written apart,
            settled⟩

/-- A pool that is never asked: that of an instance without one. -/
def noPool (l : Lease σ κ) : Pool σ κ :=
  ⟨⟨0, l.key, l.member.connector, none⟩, [], {}, ⟨0, [], []⟩, [], false⟩

/-- A release gives the instance back to its pool, or to nobody. -/
theorem release_exchange (l : Lease σ κ) (w : World σ κ)
    (there : ∀ n, l.pool = some n → n < w.pools.length) :
    w.Exchange l.pool (l.release w).2 [l.member.id] [] [] := by
  have apart := l.release_apart w
  have written := (written_of_grown (l.release_grown w)).1
  cases run : l.release w with
  | mk result w' =>
    rw [run] at apart written
    cases hl : l.pool with
    | none =>
      have released := release_unpooled (a := l.noPool.account w.site [l.member.id]) hl l.noPool w
        (l.noPool.account_of w.site [l.member.id])
      rw [run] at released
      have ended : (l.noPool.account w.site [l.member.id]).Of (w'.site, l.noPool) := by
        cases result <;> exact released
      rw [hl] at apart
      exact .of_books (p := l.noPool) (q := l.noPool) rfl rfl (ended.books rfl rfl) written apart
    | some n =>
      obtain ⟨p, hp⟩ : ∃ p, w.pools[n]? = some p := ⟨_, List.getElem?_eq_getElem (there n hl)⟩
      have released := release_pooled (a := p.account w.site [l.member.id]) hl
        (Nat.le_add_left _ _) (.inr (List.mem_singleton_self _)) w
        ⟨p, hp, p.account_of w.site [l.member.id]⟩
      rw [run] at released
      have ended : AtPool n (p.account w.site [l.member.id]).restore.Of w' := by
        cases result <;> exact released
      obtain ⟨p', hp', ended⟩ := ended
      rw [hl] at apart
      exact .of_books (idleAt_of_getElem? hp) (idleAt_of_getElem? hp') (ended.books rfl rfl) written
        apart

end Lease

theorem Context.Course.exchange {c : Context σ κ} {w w' : World σ κ} {result : Except Stop α}
    (h : c.Course w w' result) :
    ∃ lost, w.Exchange c.pool w' [] [] lost ∧ (Pool.cutBy result = false → lost = []) := by
  cases h with
  | refused e told same =>
    rw [same]
    exact ⟨[], .refl w [], fun _ => rfl⟩
  | unacquired why acquired failed told =>
    have exchange := Lease.acquire_exchange c w
    rw [failed] at exchange
    rw [told]
    exact exchange
  | served l w₁ w₂ acquired work closing leased taken upkeep worked still ofMember released =>
    have taken := Lease.acquire_exchange c w
    rw [leased] at taken
    have pool : l.pool = c.pool := (Lease.acquire_pool c).ok trivial leased
    have works : w₁.Exchange c.pool w₂ [l.member.id] [l.member.id] [] :=
      .quiet still worked (fun e he => Entry.quiet_of_workOf (ofMember e he)) _
    have returned : w₂.Exchange l.pool w' [l.member.id] [] [] := by
      rw [← released]
      refine l.release_exchange w₂ fun n hn => ?_
      obtain ⟨p, hp⟩ := Option.isSome_iff_exists.mp
        (Context.acquire_there leased (by rw [← pool, hn]; rfl))
      rw [still]
      rw [Context.pool?_pooled (pool.symm.trans hn)] at hp
      exact (List.getElem?_eq_some_iff.mp hp).1
    exact ⟨[], (taken.trans works).trans (pool ▸ returned), fun _ => rfl⟩

end ConnectorHub
