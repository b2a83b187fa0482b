import ConnectorHub.Proofs.Likeness.Instance

namespace ConnectorHub

open ConnectorHub.Action

variable {σ κ ρ α : Type} {R : Site σ κ → Site σ κ → Prop}

/-- Like sites, with one caller. -/
abbrev Site.LikeBeside (kind : Entry κ → Prop) (before : List (Entry κ)) :
    Site σ κ × ρ → Site σ κ × ρ → Prop :=
  Both (Site.Like kind before) Eq

theorem Action.agree_withState {R : σ → σ → Prop} {x y : Action (σ × ρ) α}
    (h : Agree (Both R Eq) (SameEnd Eq) x y) (r : ρ) :
    Agree R (SameEnd Eq) (withState x r) (withState y r) := by
  intro s t hst
  obtain ⟨ends, next, kept⟩ := h (s, r) (t, r) ⟨hst, rfl⟩
  refine ⟨.ok ?_, next⟩
  rw [ends.eq, kept]

namespace Instance

/-- At sites that `R` relates, the steps of work on the two instances come to the same, and `R`
relates the sites again. -/
structure Parallel (R : Site σ κ → Site σ κ → Prop) (i j : Instance σ κ) : Prop where
  capabilities : i.capabilities = j.capabilities
  rule : i.rule = j.rule
  note (n : Note) : Agree R (SameEnd Eq) (Site.note n) (Site.note n)
  asks (c : Capability) :
    Agree R (SameEnd Eq) (i.connector.asks i.id c) (j.connector.asks j.id c)
  call (x : Call) : x.isUpkeep = false → Agree R (SameEnd Eq) (i.call x) (j.call x)
  translate (oc : ObjectClass) (options : Options) (f : Filter) :
    Agree R (SameEnd Eq) (i.translate oc options f) (j.translate oc options f)
  execute {ρ : Type} (oc : ObjectClass) (query : Option (NativeQuery κ))
    (hd : Handler ρ ResourceObject) (options : Options) :
    Agree (Both R Eq) (SameEnd Eq) (i.execute oc query hd options) (j.execute oc query hd options)
  sync {ρ : Type} (oc : ObjectClass) (token : Option Json) (hd : Handler ρ SyncDelta)
    (options : Options) :
    Agree (Both R Eq) (SameEnd Eq) (i.sync oc token hd options) (j.sync oc token hd options)

namespace Parallel

variable {i j : Instance σ κ} (h : Parallel R i j)
include h

theorem normalizer (oc : ObjectClass) : i.normalizer oc = j.normalizer oc := by
  rw [Instance.normalizer, Instance.normalizer, h.rule]

theorem require (c : Capability) : Agree R (SameEnd Eq) (i.require c) (j.require c) := by
  unfold Instance.require
  rw [h.capabilities]
  split
  · refine Agree.bindEq (h.asks c) fun has => ?_
    split
    · exact Agree.pure rfl
    · exact Agree.fail _
  · exact Agree.fail _

theorem changesValues : Agree R (SameEnd Eq) i.changesValues j.changesValues := by
  unfold Instance.changesValues
  rw [h.capabilities]
  split
  · exact h.asks _
  · exact Agree.pure rfl

theorem uidOf {x y : Action (Site σ κ) Uid} (oc : ObjectClass) (hx : Agree R (SameEnd Eq) x y) :
    Agree R (SameEnd Eq) (i.uidOf oc x) (j.uidOf oc y) := by
  unfold Instance.uidOf
  rw [h.normalizer]
  exact Agree.bindEq hx fun uid => Agree.pure rfl

theorem nativeQueries (oc : ObjectClass) (options : Options) (f : Option Filter) :
    Agree R (SameEnd Eq) (i.nativeQueries oc options f) (j.nativeQueries oc options f) := by
  cases f with
  | none => exact Agree.pure rfl
  | some f => exact h.translate oc options f

omit h

theorem withStages {x y : Action (Site σ κ × (List Stage × ρ)) α}
    (hx : Agree (Both R Eq) (SameEnd Eq) x y) (stages : List Stage) :
    Agree (Both R Eq) (SameEnd Eq) (withStages stages x) (withStages stages y) := by
  intro s t hst
  obtain ⟨ends, next, kept⟩ := hx (s.1, (stages, s.2)) (t.1, (stages, t.2))
    ⟨hst.1, congrArg (stages, ·) hst.2⟩
  have caller : (x (s.1, (stages, s.2))).2.2.2 = (y (t.1, (stages, t.2))).2.2.2 :=
    congrArg Prod.snd kept
  exact ⟨ends, next, caller⟩

include h

theorem executeAll (oc : ObjectClass) (hd : Handler ρ ResourceObject) (options : Options)
    (queries : List κ) : Agree (Both R Eq) (SameEnd Eq) (i.executeAll oc hd options queries)
      (j.executeAll oc hd options queries) := by
  induction queries with
  | nil => exact Agree.pure rfl
  | cons q rest ih =>
    refine Agree.bindEq (h.execute oc (some (.own q)) _ options) fun _ => ?_
    refine Agree.bind Agree.get ?_ .error
    rintro ⟨s, stages, r⟩ ⟨t, _, _⟩ ⟨-, ⟨⟩⟩
    dsimp only
    split
    · exact ih
    · exact (h.note _).onFirst

theorem runQueries (oc : ObjectClass) (hd : Handler ρ ResourceObject) (options : Options)
    (stages : List Stage) (queries : List κ) :
    Agree (Both R Eq) (SameEnd Eq) (i.runQueries oc hd options stages queries)
      (j.runQueries oc hd options stages queries) := by
  match queries with
  | [] => exact withStages (h.execute oc none _ options) stages
  | [q] => exact withStages (h.execute oc (some (.own q)) _ options) stages
  | q :: q' :: rest =>
    refine Agree.bindEq (h.note _).onFirst fun _ => ?_
    exact withStages (h.executeAll oc hd options (q :: q' :: rest)) (.fresh :: stages)

theorem search (oc : ObjectClass) (f : Option Filter) (hd : Handler ρ ResourceObject)
    (options : Options) :
    Agree (Both R Eq) (SameEnd Eq) (i.search oc f hd options) (j.search oc f hd options) := by
  unfold Instance.search
  rw [h.normalizer oc]
  refine Agree.bindEq (h.require .search).onFirst fun _ => ?_
  refine Agree.bindEq (h.nativeQueries oc options _).onFirst fun queries => ?_
  exact h.runQueries oc hd options _ queries

theorem getObject (oc : ObjectClass) (uid : Uid) (options : Options) :
    Agree R (SameEnd Eq) (i.getObject oc uid options) (j.getObject oc uid options) := by
  refine Agree.bindEq (agree_withState (h.search oc _ keepOne options) none) ?_
  intro outcome
  obtain ⟨ended, found⟩ := outcome
  cases ended with
  | ok done => exact Agree.pure rfl
  | error why => exact Agree.stop why

theorem update (reserved : ReservedNames) (oc : ObjectClass) (uid : Uid) (delta : AttributeSet)
    (options : Options) : Agree R (SameEnd Eq) (i.update reserved oc uid delta options)
      (j.update reserved oc uid delta options) := by
  refine Agree.bindEq (Agree.ofExcept _) fun _ => ?_
  refine Agree.bindEq (h.require .update) fun _ => ?_
  dsimp only
  rw [h.normalizer oc]
  exact h.uidOf oc (h.call (.update oc _ _ options) rfl)

theorem changeNatively (change : ValueChange) (oc : ObjectClass) (uid : Uid) (delta : AttributeSet)
    (options : Options) : Agree R (SameEnd Eq) (i.changeNatively change oc uid delta options)
      (j.changeNatively change oc uid delta options) := by
  cases change with
  | add => exact h.call (.addValues oc uid delta options) rfl
  | remove => exact h.call (.removeValues oc uid delta options) rfl

theorem emulate (reserved : ReservedNames) (change : ValueChange) (oc : ObjectClass) (uid : Uid)
    (delta : AttributeSet) (options : Options) :
    Agree R (SameEnd Eq) (i.emulate reserved change oc uid delta options)
      (j.emulate reserved change oc uid delta options) := by
  refine Agree.bindEq (h.note _) fun _ => ?_
  refine Agree.bindEq (h.getObject oc uid _) fun current => ?_
  cases current with
  | none => exact Agree.fail _
  | some current => exact h.update reserved oc uid _ options

theorem changeValues (reserved : ReservedNames) (change : ValueChange) (oc : ObjectClass)
    (uid : Uid) (delta : AttributeSet) (options : Options) :
    Agree R (SameEnd Eq) (i.changeValues reserved change oc uid delta options)
      (j.changeValues reserved change oc uid delta options) := by
  refine Agree.bindEq (Agree.ofExcept _) fun _ => ?_
  dsimp only
  rw [h.normalizer oc]
  refine Agree.bindEq h.changesValues fun natively => ?_
  rw [h.capabilities]
  split
  · exact h.uidOf oc (h.changeNatively change oc _ _ options)
  split
  · exact h.emulate reserved change oc _ _ options
  · exact Agree.fail _

end Parallel

variable {i j : Instance σ κ} {before : List (Entry κ)}

theorem deliver_agree {β : Type} {kind : Entry κ → Prop} {entry : α → Bool → Entry κ}
    (he : ∀ a more, kind (entry a more)) (entry' : α → Bool → Entry κ) (hd : Handler ρ α)
    (feed : Feed α β) {s t : Site σ κ} (hst : s.Like kind before t) (r : ρ) :
    (deliver entry hd feed (s, r)).1 = (deliver entry' hd feed (t, r)).1 ∧
      Site.LikeBeside kind before (deliver entry hd feed (s, r)).2
        (deliver entry' hd feed (t, r)).2 := by
  induction feed generalizing s t r with
  | finish b => exact ⟨rfl, hst, rfl⟩
  | offer a next ih =>
    unfold deliver
    exact ih _ ((hst.write (he a _)).rewrite _) _

theorem stream_agree {kind : Entry κ → Prop} {entry : α → Bool → Entry κ}
    (he : ∀ a more, kind (entry a more)) (entry' : α → Bool → Entry κ) (hd : Handler ρ α)
    (start : σ → Feed α (Except Stop Unit × σ)) :
    Agree (Site.LikeBeside kind before) (SameEnd Eq) (stream entry hd start)
      (stream entry' hd start) := by
  intro s t hst
  obtain ⟨like, same⟩ := hst
  obtain ⟨s, r⟩ := s
  obtain ⟨t, r'⟩ := t
  obtain rfl : r = r' := same
  have delivered := deliver_agree he entry' hd (start s.resource) like r
  have resource : s.resource = t.resource := like.resource
  unfold stream
  dsimp only
  rw [← resource]
  generalize deliver entry hd (start s.resource) (s, r) = x at delivered ⊢
  generalize deliver entry' hd (start s.resource) (t, r) = y at delivered ⊢
  obtain ⟨⟨result, u⟩, s', q⟩ := x
  obtain ⟨⟨result', u'⟩, t', q'⟩ := y
  obtain ⟨same, next, kept⟩ := delivered
  obtain ⟨rfl, rfl⟩ : result = result' ∧ u = u' := Prod.mk.inj same
  exact ⟨.refl (fun _ => rfl) _, { next with resource := rfl }, kept⟩

/-- What runs alike on the two instances, as work of the first, beside a caller. -/
abbrev WorksFor (ρ : Type) (i : Instance σ κ) (x y : Action (Site σ κ × ρ) α) : Prop :=
  ∀ before, Agree (Site.LikeBeside (Entry.WorkOf i.id) before) (SameEnd Eq) x y

theorem Alike.parallel (h : i.Alike j) (before : List (Entry κ)) :
    Parallel (Site.Like (Entry.WorkOf i.id) before) i j where
  capabilities := h.capabilities
  rule := h.rule
  note n := Site.agree_write (by exact trivial) _
  asks c := by
    rw [Connector.asks, Connector.asks, h.id, h.connector.provides]
    exact Site.agree_onResource_self _
  call x hx := by
    have served : x ≠ .dispose := by
      rintro rfl
      exact Bool.noConfusion hx
    refine Agree.bindEq (Site.agree_write (by exact ⟨rfl, hx⟩) _) fun _ => ?_
    rw [h.id, h.connector.perform j.id served]
    exact Site.agree_onResource_self _
  translate oc options f := by
    refine Agree.bindEq (Site.agree_write (by rfl) _) fun _ => ?_
    rw [h.id, h.connector.translate]
    exact Site.agree_onResource_self _
  execute {ρ} oc query hd options := by
    have run (q : Option κ) : Agree (Site.LikeBeside (Entry.WorkOf i.id) before) (SameEnd Eq)
        (do Action.onFirst (Site.write (.queried i.id oc q options))
            stream (.handledObject i.id) hd (i.connector.query i.id oc q options))
        (do Action.onFirst (Site.write (.queried j.id oc q options))
            stream (.handledObject j.id) hd (j.connector.query j.id oc q options)) := by
      refine Agree.bindEq (Site.agree_write (by rfl) _).onFirst fun _ => ?_
      rw [← h.connector.query, ← h.id]
      exact stream_agree (fun _ _ => by rfl) _ hd _
    cases query with
    | none => exact run none
    | some q =>
      cases q with
      | own q => exact run (some q)
      | foreign => exact Agree.fail _
  sync oc token hd options := by
    refine Agree.bindEq (Site.agree_write (by rfl) _).onFirst fun _ => ?_
    rw [← h.connector.sync, ← h.id]
    exact stream_agree (fun _ _ => by rfl) _ hd _

end Instance

end ConnectorHub
