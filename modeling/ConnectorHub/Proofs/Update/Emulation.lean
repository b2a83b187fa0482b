import ConnectorHub.Proofs.Attributes.Lowercase
import ConnectorHub.Proofs.Search.Follow
import ConnectorHub.Proofs.Update.Merge
import ConnectorHub.Scripted.Connector

namespace ConnectorHub

variable {σ κ : Type}

/-- The instance searches and updates, and cannot change single values by itself. -/
structure Instance.Emulates (i : Instance σ κ) : Prop where
  searches : i.capabilities.contains .search = true
  updates : i.capabilities.contains .update = true
  unable : i.capabilities.contains .updateAttributeValues = false
  steady (s : σ) : (i.connector.provides i.id .update s).1 = true

namespace ValueChange

/-- What an emulated change sends for the delta's attribute `d`, where `o` is the object that was
streamed: added values stand after the object's, and of the removed ones every repetition goes. -/
def replacement (c : ValueChange) (n : Normalizer) (o : ResourceObject) (d : Attribute) :
    Option Attribute :=
  match c, o.get? d.name with
  | add, some a => some ⟨a.name, (n.onAttribute a).values ++ (n.onAttribute d).values⟩
  | add, none => some (n.onAttribute d)
  | remove, some a =>
    some ⟨a.name, (n.onAttribute a).values.filter fun v => !v.isIn (n.onAttribute d).values⟩
  | remove, none => none

variable {n : Normalizer} {normal : String → Value → Value} {o current : ResourceObject}
  {d : Attribute}

/-- The merged values are normal already; the update that normalizes them again keeps them. -/
theorem mergeOne_normalized (c : ValueChange) (h : n.Valuewise normal)
    (fetched : current.get? d.name = (n.onObject o).get? d.name) :
    (c.mergeOne current (n.onAttribute d)).map n.onAttribute = c.replacement n o d := by
  replace fetched : current.get? (n.onAttribute d).name = (o.get? d.name).map n.onAttribute := by
    rw [h.acts.name_onAttribute, fetched, h.get?_onObject]
  cases held : o.get? d.name with
  | none =>
    rw [held, Option.map_none] at fetched
    rw [c.mergeOne_of_absent fetched]
    cases c with
    | add => simp only [replacement, held, Option.map_some, h.onAttribute_onAttribute]
    | remove => simp only [replacement, held, Option.map_none]
  | some a =>
    rw [held, Option.map_some] at fetched
    rw [c.mergeOne_of_present fetched, h.acts.name_onAttribute a]
    have key : a.key = d.key := AttributeSet.key_of_get? held
    have normalOwn : ∀ v ∈ (n.onAttribute a).values, normal a.key v = v :=
      fun v => h.normal_of_mem_onAttribute
    have normalDelta : ∀ v ∈ (n.onAttribute d).values, normal a.key v = v :=
      fun v mem => key ▸ h.normal_of_mem_onAttribute mem
    have kept {values : List Value} (hv : ∀ v ∈ values, normal a.key v = v) :
        n.onAttribute ⟨a.name, values⟩ = ⟨a.name, values⟩ := h.onAttribute_of_normal hv
    cases c with
    | add =>
      simp only [replacement, held, Option.map_some]
      rw [kept fun v mem => (List.mem_append.mp mem).elim (normalOwn v) (normalDelta v)]
    | remove =>
      simp only [replacement, held, Option.map_some]
      rw [kept fun v mem => normalOwn v (List.mem_filter.mp mem).1]

/-- The object was fetched with the names of the delta, normalized as a whole. -/
theorem get?_normalized_merge (c : ValueChange) (h : n.Valuewise normal) (o : ResourceObject)
    (delta : AttributeSet) (name : String) :
    (n.onAttributes (c.merge ((n.onObject o).project delta.names) (n.onAttributes delta))).get?
        name = (delta.get? name).bind (c.replacement n o) := by
  rw [h.acts.get?_onAttributes, get?_merge, h.acts.get?_onAttributes]
  cases held : delta.get? name with
  | none => rfl
  | some d =>
    have asked : Text.isAmong d.name delta.names = true := by
      rw [AttributeSet.isAmong_names, AttributeSet.contains,
        AttributeSet.get?_name_of_mem (AttributeSet.get?_eq_some_iff.mp held).1, Option.isSome_some]
    exact c.mergeOne_normalized h (ResourceObject.get?_project_of_isAmong asked)

end ValueChange

namespace Instance

variable {i : Instance σ κ}

theorem supports_of_emulates (h : i.Emulates) (change : ValueChange) :
    i.capabilities.supports change.operation = true := by
  cases change <;> simp [ValueChange.operation, CapabilitySet.supports, h.searches, h.updates]

/-- An update that carries no uid is sent, and nothing is written after it. -/
theorem journal_update (h : i.Emulates) {reserved : ReservedNames} {oc : ObjectClass} {uid : Uid}
    {delta : AttributeSet} {options : Options} (valid : delta.contains Attribute.uidName = false)
    (s : Site σ κ) :
    (i.update reserved oc uid delta options s).2.journal =
      s.journal ++ [.called i.id (.update oc ((i.normalizer oc).onUid uid)
        ((i.normalizer oc).onAttributes delta) options)] := by
  have checked : Action.ofExcept (checkDelta .update delta reserved) s = (.ok (), s) := by
    rw [checkDelta, valid]
    rfl
  have required : i.require .update s =
      (.ok (), { s with resource := (i.connector.provides i.id .update s.resource).2 }) := by
    rw [require, if_pos h.updates, Action.bind_apply]
    simp [Connector.asks, Site.onResource, Action.zoom, h.steady]
  rw [update, Action.bind_of_ok checked, Action.bind_of_ok required]
  exact congrArg (·.2.journal) (uidOf_apply i oc _ _)

/-- An instance that emulates comes to the fetch, and what is found is merged and sent. -/
theorem changeValues_of_found (h : i.Emulates) {reserved : ReservedNames} {change : ValueChange}
    {oc : ObjectClass} {uid uid' : Uid} {delta delta' : AttributeSet} {options : Options}
    {s t : Site σ κ} {current : ResourceObject}
    (valid : checkDelta change.operation delta reserved = .ok ())
    (hu : (i.normalizer oc).onUid uid = uid') (hd : (i.normalizer oc).onAttributes delta = delta')
    (found : i.getObject oc uid' { options with attributesToGet := some delta'.names }
        { s with journal :=
            s.journal ++ [.noted (.emulatingUpdate oc uid' change.operation delta'.size)] } =
      (.ok (some current), t)) :
    i.changeValues reserved change oc uid delta options s =
      i.update reserved oc uid' (change.merge current delta') options t := by
  subst hu hd
  have checked : Action.ofExcept (checkDelta change.operation delta reserved) s = (.ok (), s) := by
    rw [valid]
    rfl
  have unable : i.changesValues s = (.ok false, s) := by
    rw [changesValues, if_neg (by simp [h.unable])]
    rfl
  rw [changeValues, Action.bind_of_ok checked, Action.bind_of_ok unable,
    if_neg Bool.false_ne_true, if_pos (supports_of_emulates h change), emulate]
  exact (Action.bind_of_ok rfl).trans (Action.bind_of_ok found)

/-- The values of the object `o` that the fetch found, normalized and merged with the delta, are
sent in one update under the names of the delta, and no other call is made. -/
theorem changeValues_emulated {oc : ObjectClass} {normal : String → Value → Value}
    (emulates : i.Emulates) (valuewise : (i.normalizer oc).Valuewise normal)
    {reserved : ReservedNames} {change : ValueChange} {delta : AttributeSet}
    (valid : checkDelta change.operation delta reserved = .ok ()) (uid : Uid) (options : Options)
    {s t : Site σ κ} {current : ResourceObject}
    (found : i.getObject oc ((i.normalizer oc).onUid uid)
        { options with attributesToGet := some delta.names }
        { s with journal := s.journal ++ [.noted (.emulatingUpdate oc
            ((i.normalizer oc).onUid uid) change.operation delta.size)] } =
      (.ok (some current), t)) :
    ∃ fetched o more sent,
      t.journal = s.journal ++ .noted (.emulatingUpdate oc ((i.normalizer oc).onUid uid)
          change.operation delta.size) :: fetched ∧
      (∀ e ∈ fetched, i.OfSearch oc { options with attributesToGet := some delta.names } e) ∧
      .handledObject i.id o more ∈ fetched ∧
      current = ((i.normalizer oc).onObject o).project delta.names ∧
      (∀ name, sent.get? name = (delta.get? name).bind (change.replacement (i.normalizer oc) o)) ∧
      (i.changeValues reserved change oc uid delta options s).2.journal =
        t.journal ++ [.called i.id (.update oc ((i.normalizer oc).onUid uid) sent options)] := by
  obtain ⟨fetched, grown, ofSearch, o, more, mem, hp⟩ := streamed_of_getObject found
  have projected : current = ((i.normalizer oc).onObject o).project delta.names := by
    rw [passed] at hp
    split at hp
    · exact (Option.some.inj hp).symm
    · cases hp
  have noUid : delta.contains Attribute.uidName = false := by
    cases held : delta.contains Attribute.uidName with
    | false => rfl
    | true => simp [checkDelta, held] at valid
  have noUid' : ((i.normalizer oc).onAttributes delta).contains Attribute.uidName = false := by
    rw [AttributeSet.contains, valuewise.acts.get?_onAttributes, Option.isSome_map]
    exact noUid
  have names := valuewise.acts.names_onAttributes delta
  have size := valuewise.acts.size_onAttributes delta
  have changed := changeValues_of_found emulates valid rfl rfl (names.symm ▸ size.symm ▸ found)
  refine ⟨fetched, o, more, (i.normalizer oc).onAttributes
    (change.merge current ((i.normalizer oc).onAttributes delta)), ?_, ofSearch, mem, projected,
    ?_, ?_⟩
  · rw [grown, List.append_assoc, List.singleton_append]
  · subst projected
    exact change.get?_normalized_merge valuewise o delta
  · rw [changed, journal_update emulates (change.contains_merge current noUid'),
      valuewise.onUid_onUid]

end Instance

/-- A subscriber with several addresses, one of them in two spellings. -/
def subscriber : ResourceObject where
  objectClass := .account
  uid := ⟨"7"⟩
  attributes := (AttributeSet.ofList [⟨"Mail", [.text "Ann@Example.com", .text "ann@example.org",
    .text "ANN@example.com"]⟩, .single "dept" (.text "x")]).insert (Uid.toAttribute ⟨"7"⟩)
  carries_uid := AttributeSet.uid?_insert_toAttribute _ _

/-- Searches and updates subscribers, whose addresses are normal in lower case. -/
def subscriberScript : ConnectorScript where
  key := ⟨"list", "1", "List"⟩
  capabilities := [.search, .update]
  rules := some [⟨some "mail", none, .lower⟩]
  objects := [subscriber]

def subscriberInstance : Instance Resources Filter where
  id := 0
  connector := subscriberScript.fullConnector 0
  capabilities := .ofList [.search, .update]
  rule := subscriberScript.rules.map EditRule.normalRule

def subscriberSite : Site Resources Filter := { resource := [Resource.ofScript subscriberScript] }

theorem subscriberInstance_emulates : subscriberInstance.Emulates where
  searches := by decide
  updates := by decide
  unable := by decide
  steady s := by
    have steady (r : Resource) : (Resource.provides subscriberScript 0 .update r).1 = true := by
      simp [Resource.provides, subscriberScript]
    exact steady _

def formerAddress : AttributeSet := .ofList [⟨"mail", [.text "ann@EXAMPLE.com"]⟩]

/-- The fetch for the removal of the address. -/
def subscriberFetch : Except Stop (Option ResourceObject) × Site Resources Filter :=
  subscriberInstance.getObject .account ⟨"7"⟩ { attributesToGet := some formerAddress.names }
    { subscriberSite with
      journal := subscriberSite.journal ++
        [.noted (.emulatingUpdate .account ⟨"7"⟩ .removeAttributeValues formerAddress.size)] }

/-- Both spellings of the address go, and the rest is sent under the subscriber's own spelling of
the name. -/
theorem formerAddress_emulated :
    subscriberInstance.Emulates ∧
      (subscriberInstance.normalizer .account).Valuewise (EditRule.lowered (some "mail")) ∧
      checkDelta .removeAttributeValues formerAddress .standard = .ok () ∧
      (∃ current t, subscriberFetch = (.ok (some current), t) ∧ ∃ o sent,
        current = ((subscriberInstance.normalizer .account).onObject o).project
          formerAddress.names ∧
        (∀ name, sent.get? name = (formerAddress.get? name).bind
          (ValueChange.remove.replacement (subscriberInstance.normalizer .account) o)) ∧
        (subscriberInstance.changeValues .standard .remove .account ⟨"7"⟩ formerAddress {}
          subscriberSite).2.journal =
            t.journal ++ [.called 0 (.update .account ⟨"7"⟩ sent {})]) ∧
      (subscriberInstance.changeValues .standard .remove .account ⟨"7"⟩ formerAddress {}
        subscriberSite).2.journal.filterMap Entry.replaced? =
          [.ofList [⟨"Mail", [.text "ann@example.org"]⟩]] := by
  have valuewise := EditRule.lower_valuewise .account (some "mail")
  have valid : checkDelta ValueChange.remove.operation formerAddress .standard = .ok () := by
    decide
  refine ⟨subscriberInstance_emulates, valuewise, valid, ?_, by decide +kernel⟩
  have found : subscriberFetch.1 = .ok (some (((subscriberInstance.normalizer .account).onObject
      subscriber).project formerAddress.names)) := by decide +kernel
  have run := Prod.ext (y := (_, subscriberFetch.2)) found rfl
  obtain ⟨fetched, o, more, sent, -, -, -, projected, merged, journal⟩ :=
    Instance.changeValues_emulated subscriberInstance_emulates valuewise
      valid ⟨"7"⟩ {} run
  exact ⟨_, _, run, o, sent, projected, merged, journal⟩

end ConnectorHub
