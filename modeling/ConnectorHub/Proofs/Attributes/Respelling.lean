import ConnectorHub.Proofs.Attributes.Object
import Mathlib.Data.List.Forall2

namespace ConnectorHub

theorem Text.isAmong_eq_contains (name : String) (names : List String) :
    isAmong name names = (names.map fold).contains (fold name) := by
  rw [Bool.eq_iff_iff, isAmong_iff, List.contains_iff_mem, List.mem_map]
  exact exists_congr fun other => and_congr_right fun _ => eq_comm

/-- The same values under one name, up to its case. -/
structure Attribute.Respelled (a b : Attribute) : Prop where
  key : a.key = b.key
  values : a.values = b.values

theorem Attribute.find?_respelled {as bs : List Attribute} (h : List.Forall₂ Respelled as bs)
    (k : String) :
    (Keyed.find? key k as).map values = (Keyed.find? key k bs).map values := by
  induction h with
  | nil => rfl
  | @cons a b as bs first _ ih =>
    by_cases named : a.key = k
    · rw [Keyed.find?_cons_self named, Keyed.find?_cons_self (first.key.symm.trans named)]
      exact congrArg some first.values
    · rw [Keyed.find?_cons_ne named, Keyed.find?_cons_ne fun other => named (first.key.trans other)]
      exact ih

namespace AttributeSet

open Attribute (values)

variable {s t : AttributeSet}

/-- Place by place the same attributes, up to the case of their names. -/
def Respelled (s t : AttributeSet) : Prop := List.Forall₂ Attribute.Respelled s.toList t.toList

theorem Respelled.get? (h : s.Respelled t) (name : String) :
    (s.get? name).map values = (t.get? name).map values :=
  Attribute.find?_respelled h _

/-- Under names that differ in case alone neither set has an attribute, or both have one alike. -/
theorem Respelled.find (h : s.Respelled t) {name other : String}
    (same : Text.fold name = Text.fold other) :
    s.get? name = none ∧ t.get? other = none ∨
      ∃ a b, s.get? name = some a ∧ t.get? other = some b ∧ a.Respelled b := by
  have found := (h.get? name).trans (congrArg _ (get?_congr same))
  cases here : s.get? name with
  | none =>
    rw [here] at found
    exact .inl ⟨rfl, Option.map_eq_none_iff.mp found.symm⟩
  | some a =>
    rw [here] at found
    obtain ⟨b, there, held⟩ := Option.map_eq_some_iff.mp found.symm
    have key : a.key = b.key := (key_of_get? here).trans (same.trans (key_of_get? there).symm)
    exact .inr ⟨a, b, rfl, there, key, held.symm⟩

theorem Respelled.contains (h : s.Respelled t) (name : String) :
    s.contains name = t.contains name := by
  obtain ⟨here, there⟩ | ⟨a, b, here, there, -⟩ := h.find (Eq.refl (Text.fold name)) <;>
    rw [AttributeSet.contains, AttributeSet.contains, here, there]
  rfl

/-- What can be read of the set by name: the values under each folded name. -/
def entries (s : AttributeSet) : List (String × List Value) :=
  s.toList.map fun a => (a.key, a.values)

theorem increasing_entries (s : AttributeSet) : Keyed.Increasing Prod.fst s.entries :=
  List.pairwise_map.mpr s.increasing

theorem mem_entries_of_get? (h : ∀ name, (s.get? name).map values = (t.get? name).map values)
    {e : String × List Value} (mem : e ∈ s.entries) : e ∈ t.entries := by
  obtain ⟨a, ha, rfl⟩ := List.mem_map.mp mem
  have found := h a.name
  rw [get?_name_of_mem ha] at found
  obtain ⟨b, hb, same⟩ := Option.map_eq_some_iff.mp found.symm
  obtain ⟨held, key⟩ := get?_eq_some_iff.mp hb
  exact List.mem_map.mpr ⟨b, held, Prod.ext key same⟩

/-- Sets are told apart, up to the case of names, by the values found under some name. -/
theorem respelled_of_get? (h : ∀ name, (s.get? name).map values = (t.get? name).map values) :
    s.Respelled t := by
  -- Both lists of entries are in increasing order, so it is enough that they have the same members.
  have entries : s.entries = t.entries :=
    s.increasing_entries.eq_of_mem_iff t.increasing_entries fun _ =>
      ⟨mem_entries_of_get? h, mem_entries_of_get? fun name => (h name).symm⟩
  rw [AttributeSet.entries, AttributeSet.entries, ← List.forall₂_eq_eq_eq,
    List.forall₂_map_left_iff, List.forall₂_map_right_iff] at entries
  exact entries.imp fun _ _ same => ⟨congrArg Prod.fst same, congrArg Prod.snd same⟩

theorem respelled_ofList {as bs : List Attribute} (h : List.Forall₂ Attribute.Respelled as bs) :
    (ofList as).Respelled (ofList bs) := by
  refine respelled_of_get? fun name => ?_
  rw [get?_ofList, get?_ofList]
  exact Attribute.find?_respelled (List.forall₂_reverse_iff.mpr h) _

end AttributeSet

namespace ResourceObject

open Attribute (values)

variable {o p : ResourceObject} {names others : List String}

theorem find_respelled (h : o.attributes.Respelled p.attributes) {name other : String}
    (same : Text.fold name = Text.fold other) :
    o.get? name = none ∧ p.get? other = none ∨
      ∃ a b, o.get? name = some a ∧ p.get? other = some b ∧ a.Respelled b :=
  h.find same

theorem uid_eq_of_respelled (h : o.attributes.Respelled p.attributes) : o.uid = p.uid := by
  have carried := AttributeSet.uid?_congr (h.get? Attribute.uidName)
  rw [o.carries_uid, p.carries_uid] at carried
  exact Option.some.inj carried

/-- What is asked for may be spelled in its own way. -/
theorem project_respelled (h : o.attributes.Respelled p.attributes)
    (asked : names.map Text.fold = others.map Text.fold) :
    (o.project names).attributes.Respelled (p.project others).attributes := by
  refine AttributeSet.respelled_of_get? fun name => ?_
  have same := h.get? name
  change ((o.project names).get? name).map values = ((p.project others).get? name).map values
  rw [get?_project, get?_project, Text.isAmong_eq_contains, Text.isAmong_eq_contains, asked,
    uid_eq_of_respelled h]
  split
  · exact same
  · rfl

end ResourceObject

end ConnectorHub
