import ConnectorHub.Proofs.Attributes.Normal

namespace ConnectorHub

theorem Attribute.isUid_iff {a : Attribute} :
    a.isUid = true ↔ a.key = Text.fold Attribute.uidName :=
  isNamed_iff

theorem Filter.accepts_uidTest {a : Attribute} {u : Uid} (carries : Uid.ofAttribute? a = some u)
    (o : ResourceObject) : Filter.accepts (.test (.compare .equals a)) o = true ↔ o.uid = u := by
  obtain ⟨named, values⟩ := Uid.ofAttribute?_eq_some_iff.mp carries
  obtain ⟨b, found, held⟩ := o.exists_get?_uid
  have found : o.get? a.name = some b := (AttributeSet.get?_congr named).trans found
  rw [accepts, AttributeTest.accepts, found, Option.any_some, Comparison.holds, held, values,
    ← Uid.value_inj]
  simp [Value.listEquals, Value.equals]

namespace Normalizer

/-- Where no other attribute comes to be one of a uid, the set carries whatever uid comes of the
attribute of its uid. -/
theorem uid?_onAttributes_eq (n : Normalizer) {s : AttributeSet} {a : Attribute}
    (found : s.get? Attribute.uidName = some a)
    (apart : ∀ b ∈ s.toList, b.isUid = false → (n.onAttribute b).isUid = false) :
    (n.onAttributes s).uid? = Uid.ofAttribute? (n.onAttribute a) := by
  have only : ∀ b ∈ s.toList.map n.onAttribute, b.key = Text.fold Attribute.uidName →
      n.onAttribute a = b := by
    intro b mem named
    obtain ⟨c, hc, rfl⟩ := List.mem_map.mp mem
    cases own : c.isUid with
    | false => cases (Attribute.isUid_iff.mpr named).symm.trans (apart c hc own)
    | true =>
      rw [AttributeSet.get?_eq_some_iff.mpr ⟨hc, Attribute.isUid_iff.mp own⟩] at found
      rw [Option.some.inj found]
  have mem : n.onAttribute a ∈ s.toList.map n.onAttribute :=
    List.mem_map_of_mem (AttributeSet.get?_eq_some_iff.mp found).1
  rw [AttributeSet.uid?, onAttributes_eq_map]
  cases turned : (n.onAttribute a).isUid with
  | true =>
    have lookup : (s.map n.onAttribute).get? Attribute.uidName = some (n.onAttribute a) :=
      AttributeSet.get?_ofList_eq
        (fun b hb => Option.some.inj hb ▸ ⟨mem, Attribute.isUid_iff.mp turned⟩)
        fun b hb named => congrArg some (only b hb named)
    rw [lookup, Option.bind_some]
  | false =>
    have lookup : (s.map n.onAttribute).get? Attribute.uidName = none := by
      refine AttributeSet.get?_ofList_eq (fun b hb => ?_) fun b hb named => ?_
      · cases hb
      · rw [← only b hb named, ← Attribute.isUid_iff, turned] at named
        cases named
    rw [lookup, Uid.ofAttribute?, turned]
    rfl

theorem onUid_eq (n : Normalizer) (u : Uid) :
    n.onUid u = (Uid.ofAttribute? (n.onAttribute u.toAttribute)).getD u := by
  cases held : n.rule with
  | some rule => simp [onUid, held]
  | none => simp [onUid, held, onAttribute_of_none held]

/-- The object's uid goes by the name that uids have, and no other attribute of it comes to be one of
a uid. -/
structure SparesUid (n : Normalizer) (o : ResourceObject) : Prop where
  spelled : ∀ a ∈ o.attributes.toList, a.isUid = true → a.name = Attribute.uidName
  apart : ∀ a ∈ o.attributes.toList, a.isUid = false → (n.onAttribute a).isUid = false

theorem SparesUid.get?_uid {n : Normalizer} {o : ResourceObject} (h : n.SparesUid o) :
    o.get? Attribute.uidName = some o.uid.toAttribute := by
  obtain ⟨a, found, held⟩ := o.exists_get?_uid
  obtain ⟨mem, key⟩ := AttributeSet.get?_eq_some_iff.mp found
  have name := h.spelled a mem (Attribute.isUid_iff.mpr key)
  rw [found]
  exact congrArg some (congr (congrArg Attribute.mk name) held)

/-- The uid of the normal form is the normal form of the uid, whatever the normalizer makes of its
attribute: where that is no attribute of a uid any more, both are as they were. -/
theorem SparesUid.uid_onObject {n : Normalizer} {o : ResourceObject} (h : n.SparesUid o) :
    (n.onObject o).uid = n.onUid o.uid := by
  rw [onObject_eq_withAttributes, ResourceObject.uid_withAttributes,
    n.uid?_onAttributes_eq h.get?_uid h.apart, onUid_eq]

/-- The attribute that carries a uid, however its name is spelled, comes to carry a uid again, and no
other attribute comes to be one of a uid. -/
structure KeepsUids (n : Normalizer) : Prop where
  uid (u : Uid) : ∃ v, ∀ a, Uid.ofAttribute? a = some u → Uid.ofAttribute? (n.onAttribute a) = some v
  other {a : Attribute} : (n.onAttribute a).isUid = true → a.isUid = true

variable {n : Normalizer}

theorem Valuewise.keepsUids {normal : String → Value → Value} (h : n.Valuewise normal) :
    n.KeepsUids where
  uid u := by
    refine ⟨n.onUid u, fun a carries => ?_⟩
    obtain ⟨named, values⟩ := Uid.ofAttribute?_eq_some_iff.mp carries
    refine Uid.ofAttribute?_eq_some_iff.mpr ⟨(h.acts.key_onAttribute a).trans named, ?_⟩
    rw [h.values_onAttribute, values, named, List.map_singleton, h.text_onUid]
  other {a} named := by
    rw [Attribute.isUid, Attribute.isNamed, h.acts.name_onAttribute] at named
    exact named

namespace KeepsUids

variable (h : n.KeepsUids)
include h

/-- The uid that an attribute comes to carry is the normal form of the one it carried. -/
theorem ofAttribute?_onAttribute {a : Attribute} {u : Uid} (carries : Uid.ofAttribute? a = some u) :
    Uid.ofAttribute? (n.onAttribute a) = some (n.onUid u) := by
  obtain ⟨v, becomes⟩ := h.uid u
  have normal : n.onUid u = v := by
    rw [n.onUid_eq, becomes u.toAttribute u.ofAttribute?_toAttribute, Option.getD_some]
  rw [becomes a carries, normal]

theorem uid?_onAttributes {s : AttributeSet} {u : Uid} (carries : s.uid? = some u) :
    (n.onAttributes s).uid? = some (n.onUid u) := by
  obtain ⟨a, found, carries⟩ := Option.bind_eq_some_iff.mp carries
  have apart : ∀ b ∈ s.toList, b.isUid = false → (n.onAttribute b).isUid = false := by
    intro b _ unnamed
    rw [← Bool.not_eq_true] at unnamed ⊢
    exact fun named => unnamed (h.other named)
  rw [n.uid?_onAttributes_eq found apart]
  exact h.ofAttribute?_onAttribute carries

theorem uid_onObject (o : ResourceObject) : (n.onObject o).uid = n.onUid o.uid := by
  rw [onObject_eq_withAttributes, ResourceObject.uid_withAttributes,
    h.uid?_onAttributes o.carries_uid, Option.getD_some]

theorem accepts_onFilter (uid : Uid) (o : ResourceObject) :
    (n.onFilter (.uidEquals uid)).accepts o = true ↔ o.uid = n.onUid uid := by
  have test : n.onFilter (.uidEquals uid) =
      .test (.compare .equals (n.onAttribute uid.toAttribute)) := by
    cases held : n.rule with
    | some rule => simp [onFilter, held, Filter.uidEquals, Filter.compare, Filter.mapAttributes]
    | none =>
      rw [onAttribute_of_none held]
      simp [onFilter, held, Filter.uidEquals, Filter.compare]
  rw [test]
  exact Filter.accepts_uidTest (h.ofAttribute?_onAttribute uid.ofAttribute?_toAttribute) o

end KeepsUids

end Normalizer

end ConnectorHub
