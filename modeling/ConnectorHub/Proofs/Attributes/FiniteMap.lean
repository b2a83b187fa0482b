import ConnectorHub.Proofs.Attributes.Distinct
import ConnectorHub.Proofs.Text.Bytes
import Mathlib.Data.Finmap

namespace ConnectorHub

theorem Keyed.find?_erase {α : Type} {key : α → String} (xs : List α) (erased k : String) :
    find? key k (erase key erased xs) = if k = erased then none else find? key k xs := by
  rw [find?, erase, List.find?_filter]
  split
  · next same =>
    refine List.find?_eq_none.mpr fun a _ => ?_
    simp [same]
  · next other =>
    refine congrArg (List.find? · xs) (funext fun a => ?_)
    by_cases named : key a = k <;> simp [named, other]

/-- For a folded name the attribute that was written last under it. -/
abbrev AttributeMap := Finmap fun _ : String => Attribute

namespace AttributeMap

def write (m : AttributeMap) (a : Attribute) : AttributeMap := m.insert a.key a

def ofList (as : List Attribute) : AttributeMap := as.foldl write ∅

theorem lookup_write (m : AttributeMap) (a : Attribute) (key : String) :
    (m.write a).lookup key = if a.key = key then some a else m.lookup key := by
  rw [write]
  split
  · next same => rw [← same, Finmap.lookup_insert]
  · next other => rw [Finmap.lookup_insert_of_ne _ fun same => other same.symm]

theorem lookup_erase (m : AttributeMap) (erased key : String) :
    (m.erase erased).lookup key = if key = erased then none else m.lookup key := by
  split
  · next same => rw [same, Finmap.lookup_erase]
  · next other => rw [Finmap.lookup_erase_ne other]

end AttributeMap

namespace AttributeSet

/-- What may be done to a set. One that is made of a list takes the place of the set before it. -/
inductive Step where
  | insert (a : Attribute)
  | remove (name : String)
  | collect (as : List Attribute)
  | distinct (as : List Attribute)

inductive Answer where
  | done
  | removed (a : Option Attribute)
  | refused (e : Error)
  deriving DecidableEq

/-- The answer to a step, and the set after it. -/
def step (s : AttributeSet) : Step → Answer × AttributeSet
  | .insert a => (.done, s.insert a)
  | .remove name => (.removed (s.get? name), s.erase name)
  | .collect as => (.done, ofList as)
  | .distinct as =>
    match ofDistinct as with
    | .ok t => (.done, t)
    | .error e => (.refused e, s)

def run (s : AttributeSet) : List Step → List Answer × AttributeSet
  | [] => ([], s)
  | x :: rest => ((s.step x).1 :: ((s.step x).2.run rest).1, ((s.step x).2.run rest).2)

end AttributeSet

namespace AttributeMap

open AttributeSet (Step Answer)

/-- How a step goes on a finite map. -/
inductive Goes (m : AttributeMap) : Step → Answer → AttributeMap → Prop
  | insert (a : Attribute) : Goes m (.insert a) .done (m.write a)
  | remove (name : String) :
    Goes m (.remove name) (.removed (m.lookup (Text.fold name))) (m.erase (Text.fold name))
  | collect (as : List Attribute) : Goes m (.collect as) .done (ofList as)
  | distinct {as : List Attribute} (distinct : Attribute.Distinct as) :
    Goes m (.distinct as) .done (ofList as)
  | repeated {as : List Attribute} {a : Attribute} (first : Attribute.FirstRepeat as a) :
    Goes m (.distinct as) (.refused (.duplicateAttribute a.name)) m

/-- How steps go one after the other. -/
inductive Runs : AttributeMap → List Step → List Answer → AttributeMap → Prop
  | nil (m : AttributeMap) : Runs m [] [] m
  | cons {m m₁ m₂ : AttributeMap} {x : Step} {rest : List Step} {answer : Answer}
    {answers : List Answer} (first : m.Goes x answer m₁) (later : Runs m₁ rest answers m₂) :
    Runs m (x :: rest) (answer :: answers) m₂

end AttributeMap

namespace AttributeSet

/-- The set holds what the map holds, and lists it in order. -/
structure Represents (s : AttributeSet) (m : AttributeMap) : Prop where
  get? (name : String) : s.get? name = m.lookup (Text.fold name)
  contains (name : String) : s.contains name = true ↔ Text.fold name ∈ m
  size : s.size = m.keys.card
  mem_iff (a : Attribute) : a ∈ s.toList ↔ m.lookup a.key = some a
  keys (key : String) : key ∈ s.toList.map Attribute.key ↔ key ∈ m
  ordered : (s.toList.map Attribute.key).Pairwise fun k l => Text.bytes k < Text.bytes l

/-- Under every key, a folded name or not, the list holds what the map holds. -/
def Holds (s : AttributeSet) (m : AttributeMap) : Prop :=
  ∀ key, Keyed.find? Attribute.key key s.toList = m.lookup key

variable {s : AttributeSet} {m : AttributeMap}

theorem Holds.keys (h : s.Holds m) (key : String) :
    key ∈ s.toList.map Attribute.key ↔ key ∈ m := by
  rw [List.mem_map, Finmap.mem_iff]
  refine exists_congr fun a => ?_
  rw [← h key]
  exact (Keyed.find?_eq_some_iff s.increasing).symm

theorem Holds.size (h : s.Holds m) : s.size = m.keys.card := by
  have same : (s.toList.map Attribute.key).toFinset = m.keys := by
    ext key
    rw [List.mem_toFinset, Finmap.mem_keys]
    exact h.keys key
  rw [← same, List.toFinset_card_of_nodup s.distinct_toList.nodup_keys, List.length_map]
  rfl

theorem Holds.represents (h : s.Holds m) : s.Represents m where
  get? name := h (Text.fold name)
  contains name := by
    rw [AttributeSet.contains, ← Finmap.lookup_isSome, ← h]
    rfl
  size := h.size
  mem_iff a := by
    rw [← h]
    refine ((Keyed.find?_eq_some_iff s.increasing).trans ?_).symm
    exact and_iff_left rfl
  keys := h.keys
  ordered := by
    refine List.pairwise_map.mpr (s.increasing.imp fun less => ?_)
    exact Text.bytes_lt_iff.mpr less

theorem Holds.insert (h : s.Holds m) (a : Attribute) : (s.insert a).Holds (m.write a) := by
  intro key
  rw [AttributeMap.lookup_write, ← h]
  exact Keyed.find?_insert a s.toList key

theorem Holds.insertAll (h : s.Holds m) (as : List Attribute) :
    (s.insertAll as).Holds (as.foldl AttributeMap.write m) := by
  induction as generalizing s m with
  | nil => exact h
  | cons a rest ih => exact ih (h.insert a)

theorem holds_ofList (as : List Attribute) : (ofList as).Holds (.ofList as) := by
  have start : empty.Holds ∅ := fun _ => rfl
  exact start.insertAll as

theorem Holds.erase (h : s.Holds m) (name : String) :
    (s.erase name).Holds (m.erase (Text.fold name)) := by
  intro key
  rw [AttributeMap.lookup_erase, ← h]
  exact Keyed.find?_erase s.toList _ key

theorem Holds.step (h : s.Holds m) (x : Step) :
    ∃ m', m.Goes x (s.step x).1 m' ∧ (s.step x).2.Holds m' := by
  cases x with
  | insert a => exact ⟨_, .insert a, h.insert a⟩
  | remove name =>
    have answer : s.get? name = m.lookup (Text.fold name) := h _
    rw [AttributeSet.step, answer]
    exact ⟨_, .remove name, h.erase name⟩
  | collect as => exact ⟨_, .collect as, holds_ofList as⟩
  | distinct as =>
    rw [AttributeSet.step]
    cases made : ofDistinct as with
    | ok t =>
      obtain ⟨rfl, distinct⟩ := of_ofDistinct_ok made
      exact ⟨_, .distinct distinct, holds_ofList as⟩
    | error e =>
      obtain ⟨a, first, rfl⟩ := of_ofDistinct_error made
      exact ⟨m, .repeated first, h⟩

theorem Holds.run (h : s.Holds m) (xs : List Step) :
    ∃ m', m.Runs xs (s.run xs).1 m' ∧ (s.run xs).2.Holds m' := by
  induction xs generalizing s m with
  | nil => exact ⟨m, .nil m, h⟩
  | cons x rest ih =>
    obtain ⟨m₁, first, held⟩ := h.step x
    obtain ⟨m₂, later, last⟩ := ih held
    exact ⟨m₂, .cons first later, last⟩

variable {as : List Attribute} {t : AttributeSet}

theorem exists_ofDistinct_iff : (∃ t, ofDistinct as = .ok t) ↔ Attribute.Distinct as := by
  refine ⟨fun ⟨t, made⟩ => (of_ofDistinct_ok made).2, fun distinct => ?_⟩
  cases made : ofDistinct as with
  | ok t => exact ⟨t, rfl⟩
  | error e =>
    obtain ⟨a, first, -⟩ := of_ofDistinct_error made
    exact absurd distinct first.not_distinct

theorem perm_of_ofDistinct (made : ofDistinct as = .ok t) : t.toList.Perm as := by
  obtain ⟨rfl, distinct⟩ := of_ofDistinct_ok made
  have once := distinct.nodup_keys
  have listedOnce := (ofList as).distinct_toList.nodup_keys
  refine (List.perm_ext_iff_of_nodup listedOnce.of_map once.of_map).mpr fun a =>
    ⟨mem_ofList, fun mem => mem_iff_get?.mpr ?_⟩
  refine get?_ofList_eq (fun b same => ?_) fun b hb same => ?_
  · obtain rfl := Option.some.inj same
    exact ⟨mem, rfl⟩
  · exact congrArg some (List.inj_on_of_nodup_map once mem hb same.symm)

end AttributeSet

end ConnectorHub
