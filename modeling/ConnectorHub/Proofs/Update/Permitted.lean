import ConnectorHub.Hub.Facade
import ConnectorHub.Proofs.Attributes.Normal
import ConnectorHub.Proofs.Hub.Writes
import ConnectorHub.Proofs.Search.Follow
import ConnectorHub.Scripted.Connector

namespace ConnectorHub

open ConnectorHub.Action

variable {σ κ : Type}

/-- Carries no uid and, if it changes single values, no reserved name. -/
def Call.Permitted (reserved : ReservedNames) : Call → Prop
  | .update _ _ attributes _ => attributes.contains Attribute.uidName = false
  | .addValues _ _ attributes _ | .removeValues _ _ attributes _ =>
    attributes.contains Attribute.uidName = false ∧
      ∀ name ∈ attributes.names, reserved.contains name = false
  | _ => True

def Entry.Permitted (reserved : ReservedNames) : Entry κ → Prop
  | .called _ c => c.Permitted reserved
  | _ => True

/-- Turns nothing else into a uid or into an attribute with a reserved name. -/
structure Normalizer.Discreet (n : Normalizer) (reserved : ReservedNames) : Prop where
  uid {a : Attribute} : (n.onAttribute a).isUid = true → a.isUid = true
  reserved {a : Attribute} :
    reserved.contains (n.onAttribute a).name = true → reserved.contains a.name = true

theorem checkDelta_eq_ok {o : Operation} {delta : AttributeSet} {reserved : ReservedNames}
    (h : checkDelta o delta reserved = .ok ()) :
    delta.contains Attribute.uidName = false ∧
      (o.changesValues = true → ∀ name ∈ delta.names, reserved.contains name = false) := by
  unfold checkDelta at h
  split at h
  · cases h
  next noUid =>
  refine ⟨by simpa using noUid, fun changes => ?_⟩
  rw [if_pos changes] at h
  split at h
  · cases h
  next none => simpa using List.find?_eq_none.mp none

namespace Normalizer.Discreet

variable {n : Normalizer} {reserved : ReservedNames} (h : n.Discreet reserved)
  {delta : AttributeSet}
include h

theorem contains_uid (noUid : delta.contains Attribute.uidName = false) :
    (n.onAttributes delta).contains Attribute.uidName = false := by
  rw [← Bool.not_eq_true, AttributeSet.contains_iff] at noUid ⊢
  rintro ⟨a, ha, key⟩
  obtain ⟨b, hb, rfl⟩ := exists_of_mem_onAttributes ha
  exact noUid ⟨b, hb, Attribute.isNamed_iff.mp (h.uid (Attribute.isNamed_iff.mpr key))⟩

theorem contains_reserved (free : ∀ name ∈ delta.names, reserved.contains name = false) :
    ∀ name ∈ (n.onAttributes delta).names, reserved.contains name = false := by
  intro name mem
  obtain ⟨a, ha, rfl⟩ := AttributeSet.mem_names.mp mem
  obtain ⟨b, hb, rfl⟩ := exists_of_mem_onAttributes ha
  rw [← Bool.not_eq_true]
  intro taken
  have fresh := free b.name (AttributeSet.mem_names.mpr ⟨b, hb, rfl⟩)
  rw [h.reserved taken] at fresh
  cases fresh

end Normalizer.Discreet

namespace Instance

variable {i : Instance σ κ} {oc : ObjectClass} {reserved : ReservedNames}

theorem uidOf_writes {kind : Entry κ → Prop} {x : Action (Site σ κ) Uid} (h : Writes kind x) :
    Writes kind (i.uidOf oc x) :=
  h.bind fun _ => .pure _

theorem permitted_of_ofSearch {options : Options} {e : Entry κ} (h : i.OfSearch oc options e) :
    e.Permitted reserved := by
  cases h <;> exact trivial

variable (discreet : (i.normalizer oc).Discreet reserved)
include discreet

theorem update_permitted (uid : Uid) (delta : AttributeSet) (options : Options) :
    Writes (Entry.Permitted reserved) (i.update reserved oc uid delta options) := by
  refine Writes.ofExcept_bind fun _ valid => (require_writes .update).bind fun _ => ?_
  have sent : (Call.update oc ((i.normalizer oc).onUid uid) ((i.normalizer oc).onAttributes delta)
      options).Permitted reserved := discreet.contains_uid (checkDelta_eq_ok valid).1
  exact uidOf_writes (call_writes sent)

/-- On each of its ways: the native call, and the fetch with the update that follows it. -/
theorem changeValues_permitted (change : ValueChange) (uid : Uid) (delta : AttributeSet)
    (options : Options) :
    Writes (Entry.Permitted reserved) (i.changeValues reserved change oc uid delta options) := by
  refine Writes.ofExcept_bind fun _ valid => changesValues_writes.bind fun native => ?_
  split
  · obtain ⟨noUid, free⟩ := checkDelta_eq_ok valid
    have changes : change.operation.changesValues = true := by cases change <;> rfl
    have sent := And.intro (discreet.contains_uid noUid) (discreet.contains_reserved (free changes))
    cases change <;> exact uidOf_writes (call_writes sent)
  split
  · refine (Writes.write trivial).bind fun _ => ?_
    refine ((getObject_writes _).mono fun _ => permitted_of_ofSearch).bind fun current => ?_
    cases current with
    | none => exact .fail _
    | some current => exact update_permitted discreet _ _ _
  · exact .fail _

end Instance

namespace Entry

variable {reserved : ReservedNames} {e : Entry κ}

theorem permitted_of_upkeep (h : e.Upkeep) : e.Permitted reserved := by
  cases e with
  | called inst c =>
    cases c with
    | init _ | dispose | checkAlive => exact trivial
    | _ => cases h
  | _ => exact trivial

theorem Permitted.replaced {attributes : AttributeSet} (h : e.Permitted reserved)
    (sent : e.replaced? = some attributes) : attributes.contains Attribute.uidName = false := by
  cases e with
  | called inst c =>
    cases c <;> cases sent
    exact h
  | _ => cases sent

theorem permitted_of_closing {id : Nat} (h : e.ClosingOf id) : e.Permitted reserved := by
  cases e with
  | called inst c =>
    obtain ⟨-, rfl⟩ := h
    exact trivial
  | _ => exact trivial

end Entry

/-- A call that its arguments' checks may refuse. -/
theorem World.grown_of_checks {α : Type} {kind : Entry κ → Prop} {w : World σ κ}
    {x : Action (World σ κ) α} (h : (x w).2.site.Grown kind w.site.journal)
    (first second third : Except Error Unit) :
    ((do Action.ofExcept first; Action.ofExcept second; Action.ofExcept third; x :
      Action (World σ κ) α) w).2.site.Grown kind w.site.journal := by
  have untouched : w.site.Grown kind w.site.journal := w.site.grown_self
  refine held_ofExcept_bind (I := fun v : World σ κ => v.site.Grown kind _) untouched fun _ _ => ?_
  refine held_ofExcept_bind (I := fun v : World σ κ => v.site.Grown kind _) untouched fun _ _ => ?_
  exact held_ofExcept_bind (I := fun v : World σ κ => v.site.Grown kind _) untouched fun _ _ => h

/-- Neither a replace nor a change of values takes anything forbidden to the connector, if the
normalizer of whatever instance is leased is discreet. -/
theorem Facade.updates_permitted (f : Facade σ κ) (oc : ObjectClass) (uid : Uid)
    (delta : AttributeSet) (options : Options) (w : World σ κ)
    (discreet : ∀ l w₁, Lease.acquire f.context w = (.ok l, w₁) →
      (l.member.normalizer oc).Discreet f.reserved) :
    (f.update oc uid delta options w).2.site.Grown (Entry.Permitted f.reserved) w.site.journal ∧
      ∀ change, (f.changeValues change oc uid delta options w).2.site.Grown
        (Entry.Permitted f.reserved) w.site.journal := by
  have leased {α : Type} {x : Instance σ κ → Action (Site σ κ) α}
      (works : ∀ i, (i.normalizer oc).Discreet f.reserved →
        Writes (Entry.Permitted f.reserved) (x i)) :
      (f.context.withInstance x w).2.site.Grown (Entry.Permitted f.reserved) w.site.journal :=
    Context.withInstance_grown (fun _ => Entry.permitted_of_upkeep)
      (fun _ _ => Entry.permitted_of_closing) fun l w₁ acquired =>
        works l.member (discreet l w₁ acquired)
  constructor
  · refine World.grown_of_checks (leased fun i hi => ?_) _ _ _
    exact Instance.update_permitted hi uid delta options
  · refine fun change => World.grown_of_checks (leased fun i hi => ?_) _ _ _
    exact Instance.changeValues_permitted hi change uid delta options

/-- A connector that knows the alias of an attribute. -/
def aliasScript (target : String) : ConnectorScript where
  key := ⟨"alias", "1", "Alias"⟩
  rules := some [⟨some "alias", none, .rename target⟩]

def aliasFacade (target : String) : Facade Resources Filter where
  id := ⟨0⟩
  context := ⟨(aliasScript target).factory 0, {}, none⟩
  reserved := .standard

def aliasWorld (target : String) : World Resources Filter :=
  { site := { resource := [Resource.ofScript (aliasScript target)] } }

def aliasDelta : AttributeSet := .ofList [.single "alias" (.text "ann@example.com")]

/-- An alias of a mail address is harmless. -/
theorem mailAlias_discreet (oc : ObjectClass) :
    (⟨oc, (aliasScript "mail").rules.map EditRule.normalRule⟩ : Normalizer).Discreet .standard := by
  have renamed (a : Attribute) :
      (⟨oc, (aliasScript "mail").rules.map EditRule.normalRule⟩ : Normalizer).onAttribute a =
        if a.isNamed "alias" then { a with name := "mail" } else a := by
    have applies : (⟨some "alias", none, .rename "mail"⟩ : EditRule).applies oc a =
        a.isNamed "alias" := Bool.and_true _
    rw [← applies]
    rfl
  constructor
  · intro a
    rw [renamed]
    split
    · exact fun h => absurd (show Text.sameName "mail" Attribute.uidName = true from h) (by decide)
    · exact id
  · intro a
    rw [renamed]
    split
    · exact fun h => absurd (show ReservedNames.standard.contains "mail" = true from h) (by decide)
    · exact id

/-- The update under the alias is sent, and carries nothing forbidden. -/
theorem mailAlias_permitted :
    (∀ l w₁, Lease.acquire (aliasFacade "mail").context (aliasWorld "mail") = (.ok l, w₁) →
        (l.member.normalizer .account).Discreet (aliasFacade "mail").reserved) ∧
      ((aliasFacade "mail").update .account ⟨"7"⟩ aliasDelta {} (aliasWorld "mail")).2.site.Grown
        (Entry.Permitted (aliasFacade "mail").reserved) (aliasWorld "mail").site.journal ∧
      ((aliasFacade "mail").update .account ⟨"7"⟩ aliasDelta {}
        (aliasWorld "mail")).2.site.journal.filterMap Entry.replaced? =
          [.ofList [.single "mail" (.text "ann@example.com")]] := by
  have discreet : ∀ l w₁, Lease.acquire (aliasFacade "mail").context (aliasWorld "mail") =
      (.ok l, w₁) → (l.member.normalizer .account).Discreet (aliasFacade "mail").reserved := by
    intro l w₁ leased
    rw [Instance.normalizer, ((Lease.acquire_made rfl).ok trivial leased).2]
    exact mailAlias_discreet .account
  exact ⟨discreet, ((aliasFacade "mail").updates_permitted .account ⟨"7"⟩ aliasDelta {}
    (aliasWorld "mail") discreet).1, by decide +kernel⟩

/-- With a normalizer that renames an attribute to that of the uid, a uid is sent. -/
theorem uidAlias_not_permitted :
    ¬∀ (f : Facade Resources Filter) (oc : ObjectClass) (uid : Uid) (delta : AttributeSet)
      (options : Options) (w : World Resources Filter),
      (f.update oc uid delta options w).2.site.Grown (Entry.Permitted f.reserved)
        w.site.journal := by
  intro permitted
  obtain ⟨es, grown, hes⟩ := permitted (aliasFacade Attribute.uidName) .account ⟨"7"⟩ aliasDelta {}
    (aliasWorld Attribute.uidName)
  have sent : ((aliasFacade Attribute.uidName).update .account ⟨"7"⟩ aliasDelta {}
      (aliasWorld Attribute.uidName)).2.site.journal.filterMap Entry.replaced? =
        [.ofList [.single Attribute.uidName (.text "ann@example.com")]] := by decide +kernel
  rw [grown, List.filterMap_append] at sent
  have mem : AttributeSet.ofList [.single Attribute.uidName (.text "ann@example.com")] ∈
      es.filterMap Entry.replaced? := by
    rw [show es.filterMap Entry.replaced? = _ from sent]
    exact List.mem_singleton_self _
  obtain ⟨e, he, replaced⟩ := List.mem_filterMap.mp mem
  exact absurd ((hes e he).replaced replaced) (by decide)

end ConnectorHub
