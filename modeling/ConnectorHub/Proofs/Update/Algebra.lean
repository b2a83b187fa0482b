import ConnectorHub.Proofs.Attributes.Equality
import ConnectorHub.Proofs.Attributes.Object
import ConnectorHub.Proofs.Update.Merge
import ConnectorHub.Proofs.Update.Permitted

namespace ConnectorHub

namespace AttributeSet

/-- The set with the attributes of `t` in place of its own of their names. -/
def replace (s t : AttributeSet) : AttributeSet := s.insertAll t.toList

theorem get?_replace (s t : AttributeSet) (name : String) :
    (s.replace t).get? name = (t.get? name).or (s.get? name) := by
  have last : (ofList t.toList).get? name = t.get? name :=
    get?_ofList_eq (fun _ found => get?_eq_some_iff.mp found) fun _ mem key =>
      get?_eq_some_iff.mpr ⟨mem, key⟩
  rw [get?_ofList] at last
  rw [get?, replace, toList_insertAll, Keyed.find?_foldl_insert, ← last]
  rfl

/-- The values under a name, of which an absent attribute has none. -/
def valuesOf (s : AttributeSet) (name : String) : List Value :=
  ((s.get? name).map Attribute.values).getD []

theorem valuesOf_of_get? {s : AttributeSet} {name : String} {a : Attribute}
    (found : s.get? name = some a) : s.valuesOf name = a.values := by
  rw [valuesOf, found]
  rfl

/-- Under each name the values of `s`, and then those of `t`. A name in both is spelled as in `s`. -/
def concat (s t : AttributeSet) : AttributeSet :=
  s.replace (t.map fun b => match s.get? b.name with
    | some a => ⟨a.name, a.values ++ b.values⟩
    | none => b)

end AttributeSet

/-- The object with these attributes in place of its own of their names, and all others kept. -/
def ResourceObject.replacing (o : ResourceObject) (s : AttributeSet) : ResourceObject :=
  o.mapAttributes fun held => held.replace s

/-- The object after a change of values. -/
def ResourceObject.changed (o : ResourceObject) (c : ValueChange) (delta : AttributeSet) :
    ResourceObject :=
  o.replacing (c.merge o delta)

namespace ValueChange

/-- What is held after a change under a name where `held` was and the delta has `given`. -/
def one (c : ValueChange) (held given : Option Attribute) : Option Attribute :=
  match held, given with
  | held, none => held
  | none, some d => match c with
    | add => some d
    | remove => none
  | some a, some d => match c with
    | add => some ⟨a.name, a.values ++ d.values⟩
    | remove => some ⟨a.name, a.values.filter fun v => !v.isIn d.values⟩

theorem one_mergeOne (c : ValueChange) {o : ResourceObject} {d : Attribute} {name : String}
    (named : d.key = Text.fold name) :
    (c.mergeOne o d).or (o.get? name) = c.one (o.get? name) (some d) := by
  have same : o.get? d.name = o.get? name := AttributeSet.get?_congr named
  cases held : o.get? name with
  | none =>
    rw [c.mergeOne_of_absent (same.trans held)]
    cases c <;> rfl
  | some a =>
    rw [c.mergeOne_of_present (same.trans held)]
    cases c <;> rfl

variable (a b c : Option Attribute)

theorem one_add_assoc : add.one (add.one a b) c = add.one a (add.one b c) := by
  cases a <;> cases b <;> cases c <;> simp [one]

theorem one_remove_comm : remove.one (remove.one a b) c = remove.one (remove.one a c) b := by
  cases a <;> cases b <;> cases c <;> simp [one, List.filter_filter, Bool.and_comm]

theorem one_remove_remove : remove.one (remove.one a b) b = remove.one a b := by
  cases a <;> cases b <;> simp [one]

end ValueChange

namespace AttributeSet

theorem get?_concat (s t : AttributeSet) (name : String) :
    (s.concat t).get? name = ValueChange.add.one (s.get? name) (t.get? name) := by
  have named (b : Attribute) : (match s.get? b.name with
      | some a => ⟨a.name, a.values ++ b.values⟩
      | none => b : Attribute).key = b.key := by
    split
    · next a found =>
      have same : a.key = b.key := key_of_get? found
      exact same
    · rfl
  rw [concat, get?_replace, get?_map named]
  cases given : t.get? name with
  | none => cases s.get? name <;> rfl
  | some b =>
    have same : s.get? b.name = s.get? name := get?_congr (key_of_get? given)
    rw [Option.map_some, Option.some_or, same]
    cases s.get? name <;> rfl

theorem valuesOf_concat (s t : AttributeSet) (name : String) :
    (s.concat t).valuesOf name = s.valuesOf name ++ t.valuesOf name := by
  rw [valuesOf, get?_concat, valuesOf, valuesOf]
  cases s.get? name <;> cases t.get? name <;> simp [ValueChange.one]

end AttributeSet

namespace ResourceObject

variable {o : ResourceObject} {c : ValueChange} {delta : AttributeSet}

@[simp] theorem objectClass_changed : (o.changed c delta).objectClass = o.objectClass :=
  objectClass_withAttributes _ _

/-- A merged set without a uid takes the place of just the attributes that it names. -/
theorem get?_changed_merge (noUid : delta.contains Attribute.uidName = false) (name : String) :
    (o.changed c delta).get? name = ((c.merge o delta).get? name).or (o.get? name) := by
  have apart : (c.merge o delta).get? Attribute.uidName = none := by
    simpa [AttributeSet.contains] using c.contains_merge o noUid
  have uid : (o.attributes.replace (c.merge o delta)).uid? = some o.uid := by
    rw [AttributeSet.uid?, AttributeSet.get?_replace, apart, Option.none_or]
    exact o.carries_uid
  rw [changed, replacing, mapAttributes,
    get?_withAttributes_of_uid (by rw [uid, Option.isSome_some]), AttributeSet.get?_replace]
  rfl

theorem get?_changed (noUid : delta.contains Attribute.uidName = false) (name : String) :
    (o.changed c delta).get? name = c.one (o.get? name) (delta.get? name) := by
  rw [get?_changed_merge noUid, ValueChange.get?_merge]
  cases given : delta.get? name with
  | none => cases held : o.get? name <;> rfl
  | some d => exact c.one_mergeOne (AttributeSet.key_of_get? given)

end ResourceObject

/-- What was added and is not to be told from nothing else goes when it is removed. -/
theorem Value.filter_append_removed {vs us : List Value}
    (other : ∀ v ∈ vs, ∀ u ∈ us, v.equals u = false) (self : ∀ u ∈ us, u.equals u = true) :
    (vs ++ us).filter (fun v => !v.isIn us) = vs := by
  have kept : vs.filter (fun v => !v.isIn us) = vs := by
    refine List.filter_eq_self.mpr fun v hv => ?_
    have absent : v.isIn us = false := by
      refine List.any_eq_false.mpr fun u hu => ?_
      rw [equals_comm, other v hv u hu]
      exact Bool.false_ne_true
    rw [absent, Bool.not_false]
  have gone : us.filter (fun v => !v.isIn us) = [] := by
    refine List.filter_eq_nil_iff.mpr fun u hu => ?_
    have present : u.isIn us = true := List.any_eq_true.mpr ⟨u, hu, self u hu⟩
    rw [present]
    exact Bool.false_ne_true
  rw [List.filter_append, kept, gone, List.append_nil]

/-- No value that the object holds equals one that the delta has for the same attribute, and every
value of the delta equals itself. -/
structure AttributeSet.ApartFrom (delta : AttributeSet) (o : ResourceObject) : Prop where
  other : ∀ d ∈ delta.toList, ∀ v ∈ o.attributes.valuesOf d.name, ∀ u ∈ d.values,
    v.equals u = false
  self : ∀ d ∈ delta.toList, ∀ u ∈ d.values, u.equals u = true

namespace ResourceObject

variable {delta : AttributeSet}

theorem valuesOf_added_removed {o : ResourceObject}
    (noUid : delta.contains Attribute.uidName = false) (apart : delta.ApartFrom o) (name : String) :
    ((o.changed .add delta).changed .remove delta).attributes.valuesOf name =
      o.attributes.valuesOf name := by
  have changed : ((o.changed .add delta).changed .remove delta).attributes.get? name =
      ValueChange.remove.one (ValueChange.add.one (o.attributes.get? name) (delta.get? name))
        (delta.get? name) :=
    (get?_changed noUid name).trans
      (congrArg (ValueChange.remove.one · _) (get?_changed noUid name))
  rw [AttributeSet.valuesOf, changed, AttributeSet.valuesOf]
  cases given : delta.get? name with
  | none => cases o.attributes.get? name <;> rfl
  | some d =>
    obtain ⟨mem, key⟩ := AttributeSet.get?_eq_some_iff.mp given
    have other := apart.other d mem
    have self := apart.self d mem
    cases held : o.attributes.get? name with
    | none => exact @Value.filter_append_removed [] d.values nofun self
    | some a =>
      rw [AttributeSet.valuesOf_of_get? ((AttributeSet.get?_congr key).trans held)] at other
      exact Value.filter_append_removed other self

/-- Additions one after the other come to one addition of both, attribute by attribute. Removals may
change places and be repeated. A removal takes back what was added, unless the object had a value
that equals one of it or one of it does not equal itself. -/
theorem changes_lawful (o : ResourceObject) {change : ValueChange} {reserved : ReservedNames}
    {d₁ d₂ : AttributeSet} (valid₁ : checkDelta change.operation d₁ reserved = .ok ())
    (valid₂ : checkDelta change.operation d₂ reserved = .ok ()) :
    ((o.changed .add d₁).changed .add d₂ = o.changed .add (d₁.concat d₂) ∧
      ∀ name, (d₁.concat d₂).valuesOf name = d₁.valuesOf name ++ d₂.valuesOf name) ∧
    (o.changed .remove d₁).changed .remove d₂ = (o.changed .remove d₂).changed .remove d₁ ∧
    (o.changed .remove d₁).changed .remove d₁ = o.changed .remove d₁ ∧
    (d₁.ApartFrom o → ∀ name,
      ((o.changed .add d₁).changed .remove d₁).attributes.valuesOf name =
        o.attributes.valuesOf name) := by
  have noUid₁ := (checkDelta_eq_ok valid₁).1
  have noUid₂ := (checkDelta_eq_ok valid₂).1
  have noUid : (d₁.concat d₂).contains Attribute.uidName = false := by
    simp only [AttributeSet.contains, Option.isSome_eq_false_iff, Option.isNone_iff_eq_none,
      AttributeSet.get?_concat] at noUid₁ noUid₂ ⊢
    rw [noUid₁, noUid₂]
    rfl
  refine ⟨⟨ext_get? (by simp) fun name => ?_, d₁.valuesOf_concat d₂⟩,
    ext_get? (by simp) fun name => ?_, ext_get? (by simp) fun name => ?_,
    valuesOf_added_removed noUid₁⟩
  · rw [get?_changed noUid₂, get?_changed noUid₁, get?_changed noUid, AttributeSet.get?_concat,
      ValueChange.one_add_assoc]
  · rw [get?_changed noUid₂, get?_changed noUid₁, get?_changed noUid₁, get?_changed noUid₂,
      ValueChange.one_remove_comm]
  · rw [get?_changed noUid₁, get?_changed noUid₁, ValueChange.one_remove_remove]

end ResourceObject

/-- A member of a group twice, with a score that is no number. -/
def clubMember : ResourceObject where
  objectClass := .account
  uid := ⟨"7"⟩
  attributes := (AttributeSet.ofList [⟨"Group", [.text "chess", .text "chess"]⟩,
    .single "score" (.real .quietNaN)]).insert (Uid.toAttribute ⟨"7"⟩)
  carries_uid := AttributeSet.uid?_insert_toAttribute _ _

def autumnGroups : AttributeSet :=
  .ofList [⟨"GROUP", [.text "go", .text "go"]⟩, .single "Badge" (.integer 1)]

def winterGroups : AttributeSet :=
  .ofList [⟨"group", [.text "chess"]⟩, ⟨"badge", [.integer 2, .integer 1]⟩,
    .single "Score" (.real .quietNaN)]

/-- The groups of two seasons, some in both, under names in different cases. What was removed leaves
an attribute of no values behind where there was none. -/
theorem clubMember_changes_lawful :
    checkDelta ValueChange.add.operation autumnGroups .standard = .ok () ∧
      checkDelta ValueChange.add.operation winterGroups .standard = .ok () ∧
      autumnGroups.ApartFrom clubMember ∧
      (clubMember.changed .add autumnGroups).changed .add winterGroups =
        clubMember.changed .add (autumnGroups.concat winterGroups) ∧
      (autumnGroups.concat winterGroups).get? "badge" =
        some ⟨"Badge", [.integer 1, .integer 2, .integer 1]⟩ ∧
      (clubMember.changed .remove autumnGroups).changed .remove winterGroups =
        (clubMember.changed .remove winterGroups).changed .remove autumnGroups ∧
      (clubMember.changed .remove winterGroups).changed .remove winterGroups =
        clubMember.changed .remove winterGroups ∧
      (∀ name, ((clubMember.changed .add autumnGroups).changed .remove
        autumnGroups).attributes.valuesOf name = clubMember.attributes.valuesOf name) ∧
      ((clubMember.changed .add autumnGroups).changed .remove autumnGroups).get? "badge" =
        some ⟨"Badge", []⟩ := by
  have autumn : checkDelta ValueChange.add.operation autumnGroups .standard = .ok () := by decide
  have winter : checkDelta ValueChange.add.operation winterGroups .standard = .ok () := by decide
  have apart : autumnGroups.ApartFrom clubMember := ⟨by decide +kernel, by decide +kernel⟩
  obtain ⟨⟨added, -⟩, swapped, -, restored⟩ := clubMember.changes_lawful autumn winter
  obtain ⟨-, -, repeated, -⟩ := clubMember.changes_lawful winter autumn
  exact ⟨autumn, winter, apart, added, by decide +kernel, swapped, repeated, restored apart,
    by decide +kernel⟩

end ConnectorHub
