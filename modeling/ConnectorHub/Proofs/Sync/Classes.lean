import ConnectorHub.Proofs.Search.Exact
import ConnectorHub.Proofs.Sync.Deliver

namespace ConnectorHub

variable {σ κ ρ : Type}

namespace SyncDelta

theorem mapObject_congr {f g : ResourceObject → ResourceObject} {d : SyncDelta}
    (h : ∀ o, d.object = some o → f o = g o) : d.mapObject f = d.mapObject g := by
  obtain ⟨token, type, previousUid, objectClass, uid, object, consistent⟩ := d
  cases object with
  | none => rfl
  | some o => simp only [mapObject, h o rfl]

theorem object_mapObject (f : ResourceObject → ResourceObject) (d : SyncDelta) :
    (d.mapObject f).object = d.object.map f := by
  obtain ⟨token, type, previousUid, objectClass, uid, object, consistent⟩ := d
  cases object <;> rfl

end SyncDelta

section

variable {n m : Normalizer}

theorem Normalizer.onObject_congr {o : ResourceObject}
    (alike : ∀ a ∈ o.attributes.toList, n.onAttribute a = m.onAttribute a) :
    n.onObject o = m.onObject o := by
  rw [onObject_eq_withAttributes, onObject_eq_withAttributes, onAttributes_eq_map,
    onAttributes_eq_map, AttributeSet.map, AttributeSet.map, List.map_congr_left alike]

theorem Normalizer.object_onDelta (n : Normalizer) (d : SyncDelta) :
    (n.onDelta d).object = d.object.map n.onObject := by
  rw [onDelta]
  split
  · exact SyncDelta.object_mapObject _ d
  next plain =>
    have unchanged : n.onObject = id := funext fun o => by rw [onObject, plain, id]
    rw [unchanged, Option.map_id, id]

theorem object_delivered (n : Normalizer) (names : Option (List String)) (d : SyncDelta) :
    (delivered n names d).object = d.object.map fun o => projectAll names (n.onObject o) := by
  have normal := n.object_onDelta d
  cases names with
  | none => exact normal
  | some names =>
    have projected := SyncDelta.object_mapObject (ResourceObject.project names) (n.onDelta d)
    rw [normal, Option.map_map] at projected
    exact projected

theorem delivered_congr (same : n.rule = m.rule) (names : Option (List String)) {d : SyncDelta}
    (alike : ∀ o, d.object = some o → n.onObject o = m.onObject o) :
    delivered n names d = delivered m names d := by
  have normal : n.onDelta d = m.onDelta d := by
    rw [Normalizer.onDelta, Normalizer.onDelta, same]
    split
    · exact SyncDelta.mapObject_congr alike
    · rfl
  exact congrArg (DeltaStage.project names).apply normal

end

/-- A sync hands over what is streamed in the normal form of the class that it was asked for. For
another class that is the same if the rule treats the attributes of the object alike for both. -/
theorem Facade.sync_by_class (f : Facade σ κ) {w w₁ : World σ κ} {l : Lease σ κ}
    (leased : Lease.acquire f.context w = (.ok l, w₁)) (token : Option Json)
    (h : Handler ρ SyncDelta) (options : Options) (r : ρ) :
    (∀ oc, ∃ ds, (f.sync oc token h options (w, r)).2.1.site.Shows Entry.delta? w.site.journal ds ∧
      (f.sync oc token h options (w, r)).2.2 =
        taken h (ds.map (delivered (l.member.normalizer oc) options.attributesToGet)) r) ∧
    ∀ (asked c : ObjectClass) (d : SyncDelta) (o : ResourceObject), d.object = some o →
      (∀ a ∈ o.attributes.toList, (l.member.normalizer asked).onAttribute a =
        (l.member.normalizer c).onAttribute a) →
      delivered (l.member.normalizer asked) options.attributesToGet d =
          delivered (l.member.normalizer c) options.attributesToGet d ∧
        (delivered (l.member.normalizer asked) options.attributesToGet d).object =
          some (projectAll options.attributesToGet ((l.member.normalizer c).onObject o)) := by
  refine ⟨fun oc => f.sync_hands leased oc token h options r, fun asked c d o carried alike => ?_⟩
  have normal : (l.member.normalizer asked).onObject o = (l.member.normalizer c).onObject o :=
    Normalizer.onObject_congr alike
  have same : (l.member.normalizer asked).rule = (l.member.normalizer c).rule := rfl
  refine ⟨delivered_congr same _ fun p hp => ?_, ?_⟩
  · obtain rfl : o = p := Option.some.inj (carried.symm.trans hp)
    exact normal
  · rw [object_delivered, carried, Option.map_some, normal]

/-- A resource with one change to report, a new mailbox. -/
def newMailbox (rules : List EditRule) : ConnectorScript where
  key := ⟨"mail", "1", "Mail"⟩
  rules := some rules
  changes := [{
    token := .integer 1
    type := .create
    object := some (.account, [.uid "1", .one (.single "mail" (.text "Ann@Example.com"))]) }]

def newMailboxDelta : SyncDelta where
  token := .integer 1
  type := .create
  previousUid := none
  objectClass := some .account
  uid := ⟨"1"⟩
  object := some (mailbox "1" "Ann@Example.com")
  consistent := ⟨rfl, nofun, fun _ h => Option.some.inj h ▸ rfl⟩

def newMailboxFacade (rules : List EditRule) : Facade Resources Filter where
  id := ⟨0⟩
  context := ⟨(newMailbox rules).factory 0, {}, none⟩
  reserved := .standard

def newMailboxWorld (rules : List EditRule) : World Resources Filter :=
  { site := { resource := [.ofScript (newMailbox rules)] } }

/-- Mail addresses have a normal form, which is another one for groups. -/
def groupsApart : List EditRule :=
  [⟨some "mail", none, .lower⟩, ⟨some "mail", some "__GROUP__", .upper⟩]

/-- Mail addresses have a normal form for accounts only. -/
def accountsOnly : List EditRule := [⟨some "mail", some "__ACCOUNT__", .lower⟩]

theorem exists_newMailbox_lease (rules : List EditRule)
    (acquired : (Lease.acquire (newMailboxFacade rules).context (newMailboxWorld rules)).1.isOk) :
    ∃ l w₁, Lease.acquire (newMailboxFacade rules).context (newMailboxWorld rules) = (.ok l, w₁) ∧
      ∀ oc, l.member.normalizer oc = ⟨oc, some (EditRule.normalRule rules)⟩ := by
  cases leased : Lease.acquire (newMailboxFacade rules).context (newMailboxWorld rules) with
  | mk result w₁ =>
    rw [leased] at acquired
    cases result with
    | error why => cases acquired
    | ok l =>
      refine ⟨l, w₁, rfl, fun oc => ?_⟩
      have rule : l.member.rule = some (EditRule.normalRule rules) :=
        ((Lease.acquire_made rfl).ok trivial leased).2
      rw [Instance.normalizer, rule]

/-- The new mailbox comes in the normal form of accounts to a sync of every class too. -/
theorem newMailbox_by_class :
    ∃ l w₁, Lease.acquire (newMailboxFacade groupsApart).context (newMailboxWorld groupsApart) =
        (.ok l, w₁) ∧
      (∀ a ∈ (mailbox "1" "Ann@Example.com").attributes.toList,
        (l.member.normalizer .all).onAttribute a = (l.member.normalizer .account).onAttribute a) ∧
      delivered (l.member.normalizer .all) none newMailboxDelta =
        delivered (l.member.normalizer .account) none newMailboxDelta ∧
      (delivered (l.member.normalizer .all) none newMailboxDelta).object =
        some (mailbox "1" "ann@example.com") := by
  obtain ⟨l, w₁, leased, normalizer⟩ := exists_newMailbox_lease groupsApart (by decide +kernel)
  have alike : ∀ a ∈ (mailbox "1" "Ann@Example.com").attributes.toList,
      (l.member.normalizer .all).onAttribute a =
        (l.member.normalizer .account).onAttribute a := by
    rw [normalizer, normalizer]
    decide +kernel
  obtain ⟨-, byClass⟩ := (newMailboxFacade groupsApart).sync_by_class leased none
    ResultChain.listed {} ([], [])
  have unasked : ({} : Options).attributesToGet = none := rfl
  obtain ⟨same, normal⟩ := byClass .all .account newMailboxDelta _ rfl alike
  rw [unasked] at same normal
  have presented : projectAll none ((l.member.normalizer .account).onObject
      (mailbox "1" "Ann@Example.com")) = mailbox "1" "ann@example.com" := by
    rw [normalizer]
    decide +kernel
  rw [presented] at normal
  exact ⟨l, w₁, leased, alike, same, normal⟩

/-- A rule for accounts is left out in a sync of every class: the new mailbox comes as the connector
streamed it. -/
theorem newMailbox_as_streamed :
    ¬∀ (f : Facade Resources Filter) (c : ObjectClass) (token : Option Json) (options : Options)
      (w : World Resources Filter) (ds : List SyncDelta),
      (f.sync .all token ResultChain.listed options (w, ([], []))).2.1.site.Shows Entry.delta?
        w.site.journal ds →
      (f.sync c token ResultChain.listed options (w, ([], []))).2.1.site.Shows Entry.delta?
        w.site.journal ds →
      (∀ d ∈ ds, ∃ o, d.object = some o ∧ o.objectClass = c) →
      (f.sync .all token ResultChain.listed options (w, ([], []))).2.2.2 =
        (f.sync c token ResultChain.listed options (w, ([], []))).2.2.2 := by
  intro same
  have ofAccount : ∀ d ∈ [newMailboxDelta], ∃ o, d.object = some o ∧ o.objectClass = .account := by
    intro d hd
    obtain rfl := List.mem_singleton.mp hd
    exact ⟨_, rfl, rfl⟩
  have agree := same (newMailboxFacade accountsOnly) .account none {} (newMailboxWorld accountsOnly)
    [newMailboxDelta] (Site.shows_all (by decide +kernel)) (Site.shows_all (by decide +kernel))
    ofAccount
  exact absurd agree (by decide +kernel)

end ConnectorHub
