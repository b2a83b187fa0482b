import ConnectorHub.Normalizer
import ConnectorHub.Proofs.Attributes.Object

namespace ConnectorHub

namespace ResourceObject

theorem withAttributes_self (o : ResourceObject) : o.withAttributes o.attributes = o := by
  refine ext_get? (objectClass_withAttributes _ _) fun name => ?_
  rw [get?_withAttributes_of_uid (by rw [o.carries_uid, Option.isSome_some])]
  rfl

end ResourceObject

namespace Normalizer

variable {n : Normalizer}

theorem onAttribute_of_none (h : n.rule = none) (a : Attribute) : n.onAttribute a = a := by
  simp [onAttribute, h]

theorem onAttributes_of_none (h : n.rule = none) (s : AttributeSet) : n.onAttributes s = s := by
  simp [onAttributes, h]

theorem onAttributes_eq_map (n : Normalizer) (s : AttributeSet) :
    n.onAttributes s = s.map n.onAttribute := by
  cases held : n.rule with
  | some rule => simp [onAttributes, held]
  | none =>
    have unchanged : n.onAttribute = id := funext (onAttribute_of_none held)
    refine AttributeSet.ext_get? fun name => ?_
    rw [onAttributes_of_none held, unchanged, AttributeSet.get?_map (f := id) fun _ => rfl,
      Option.map_id_fun, id]

theorem exists_of_mem_onAttributes {s : AttributeSet} {a : Attribute}
    (h : a ∈ (n.onAttributes s).toList) : ∃ b ∈ s.toList, n.onAttribute b = a := by
  rw [onAttributes_eq_map] at h
  exact AttributeSet.exists_of_mem_map h

theorem onObject_eq_withAttributes (n : Normalizer) (o : ResourceObject) :
    n.onObject o = o.withAttributes (n.onAttributes o.attributes) := by
  cases held : n.rule with
  | some rule => simp [onObject, held, ResourceObject.mapAttributes]
  | none =>
    rw [onAttributes_of_none held, ResourceObject.withAttributes_self]
    simp [onObject, held]

/-- Every attribute keeps its name, and its name, in whatever case, tells what becomes of its
values. -/
def ActsOnValues (n : Normalizer) (act : String → List Value → List Value) : Prop :=
  ∀ a, n.onAttribute a = ⟨a.name, act a.key a.values⟩

theorem actsOnValues_of_none (h : n.rule = none) : n.ActsOnValues fun _ values => values :=
  onAttribute_of_none h

namespace ActsOnValues

variable {act : String → List Value → List Value}

theorem name_onAttribute (h : n.ActsOnValues act) (a : Attribute) :
    (n.onAttribute a).name = a.name := by
  rw [h]

theorem key_onAttribute (h : n.ActsOnValues act) (a : Attribute) :
    (n.onAttribute a).key = a.key := by
  rw [h]
  rfl

theorem get?_onAttributes (h : n.ActsOnValues act) (s : AttributeSet) (name : String) :
    (n.onAttributes s).get? name = (s.get? name).map n.onAttribute := by
  rw [onAttributes_eq_map, AttributeSet.get?_map h.key_onAttribute]

theorem toList_onAttributes (h : n.ActsOnValues act) (s : AttributeSet) :
    (n.onAttributes s).toList = s.toList.map n.onAttribute := by
  rw [onAttributes_eq_map, AttributeSet.toList_map h.key_onAttribute]

theorem names_onAttributes (h : n.ActsOnValues act) (s : AttributeSet) :
    (n.onAttributes s).names = s.names := by
  rw [AttributeSet.names, h.toList_onAttributes, List.map_map]
  exact List.map_congr_left fun a _ => h.name_onAttribute a

theorem size_onAttributes (h : n.ActsOnValues act) (s : AttributeSet) :
    (n.onAttributes s).size = s.size := by
  rw [AttributeSet.size, h.toList_onAttributes, List.length_map, AttributeSet.size]

theorem get?_onObject (h : n.ActsOnValues act) (o : ResourceObject) (name : String) :
    (n.onObject o).get? name =
      if (n.onAttributes o.attributes).uid? = none ∧
        Text.fold name = Text.fold Attribute.uidName then some o.uid.toAttribute
      else (o.get? name).map n.onAttribute := by
  rw [onObject_eq_withAttributes, ResourceObject.get?_withAttributes, h.get?_onAttributes]
  rfl

end ActsOnValues

/-- Every value is brought into its normal form by itself, which changes no normal form; a uid stays
a single text. -/
structure Valuewise (n : Normalizer) (normal : String → Value → Value) : Prop where
  acts : n.ActsOnValues fun key => List.map (normal key)
  settled (key : String) (v : Value) : normal key (normal key v) = normal key v
  uid (s : String) : ∃ t, normal (Text.fold Attribute.uidName) (.text s) = .text t

namespace Valuewise

variable {normal : String → Value → Value}

theorem values_onAttribute (h : n.Valuewise normal) (a : Attribute) :
    (n.onAttribute a).values = a.values.map (normal a.key) :=
  congrArg Attribute.values (h.acts a)

theorem uid?_onAttributes (h : n.Valuewise normal) (o : ResourceObject) :
    (n.onAttributes o.attributes).uid?.isSome := by
  obtain ⟨a, found, held⟩ := o.exists_get?_uid
  obtain ⟨t, text⟩ := h.uid o.uid.value
  have named : a.key = Text.fold Attribute.uidName := AttributeSet.key_of_get? found
  have normalized : (n.onAttribute a).values = [.text t] := by
    rw [h.values_onAttribute, named, held, List.map_singleton, text]
  refine Option.isSome_of_mem (AttributeSet.uid?_eq_some_iff.mpr ⟨n.onAttribute a, ?_, normalized⟩)
  rw [h.acts.get?_onAttributes]
  exact congrArg (Option.map n.onAttribute) found

theorem get?_onObject (h : n.Valuewise normal) (o : ResourceObject) (name : String) :
    (n.onObject o).get? name = (o.get? name).map n.onAttribute := by
  rw [onObject_eq_withAttributes,
    ResourceObject.get?_withAttributes_of_uid (h.uid?_onAttributes o), h.acts.get?_onAttributes]
  rfl

/-- The values of a normal form that is taken apart and put together stay as they are. -/
theorem onAttribute_of_normal (h : n.Valuewise normal) {a : Attribute}
    (values : ∀ v ∈ a.values, normal a.key v = v) : n.onAttribute a = a := by
  have same : a.values.map (normal a.key) = a.values := by
    rw [List.map_congr_left values, List.map_id']
  exact (h.acts a).trans (congrArg (Attribute.mk a.name) same)

theorem normal_of_mem_onAttribute (h : n.Valuewise normal) {a : Attribute} {v : Value}
    (mem : v ∈ (n.onAttribute a).values) : normal a.key v = v := by
  rw [h.values_onAttribute] at mem
  obtain ⟨u, -, rfl⟩ := List.mem_map.mp mem
  exact h.settled a.key u

theorem onAttribute_onAttribute (h : n.Valuewise normal) (a : Attribute) :
    n.onAttribute (n.onAttribute a) = n.onAttribute a :=
  h.onAttribute_of_normal fun _ mem =>
    h.acts.key_onAttribute a ▸ h.normal_of_mem_onAttribute mem

/-- The uid is normalized as the value of its attribute is. -/
theorem text_onUid (h : n.Valuewise normal) (u : Uid) :
    .text (n.onUid u).value = normal (Text.fold Attribute.uidName) (.text u.value) := by
  obtain ⟨t, text⟩ := h.uid u.value
  have normalized : n.onAttribute u.toAttribute = (⟨t⟩ : Uid).toAttribute := by
    rw [h.acts]
    exact congrArg (Attribute.single Attribute.uidName) text
  have uid : n.onUid u = ⟨t⟩ := by
    cases held : n.rule with
    | some rule => simp [onUid, held, normalized]
    | none =>
      rw [onAttribute_of_none held] at normalized
      have same := congrArg Uid.ofAttribute? normalized
      rw [Uid.ofAttribute?_toAttribute, Uid.ofAttribute?_toAttribute] at same
      simpa [onUid, held] using same
  rw [uid, text]

theorem onUid_onUid (h : n.Valuewise normal) (u : Uid) : n.onUid (n.onUid u) = n.onUid u := by
  have same : Value.text (n.onUid (n.onUid u)).value = .text (n.onUid u).value := by
    rw [h.text_onUid, h.text_onUid, h.settled]
  exact Uid.value_inj.mp (Value.text.inj same)

end Valuewise

end Normalizer

end ConnectorHub
