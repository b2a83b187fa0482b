import ConnectorHub.Proofs.Filter.Coverage
import ConnectorHub.Proofs.Stream.Feed
import ConnectorHub.Scripted.Connector

namespace ConnectorHub

variable {α β γ σ κ : Type}

/-- The instance searches the objects and changes nothing about them. What it translates is in the
dialect `d`; a native query streams objects only, none of them twice, and at least those it finds.
The states of the resource that hold the objects are the `live` ones. -/
structure Instance.Serves (i : Instance σ κ) (oc : ObjectClass) (options : Options) (d : Dialect κ)
    (finds : κ → ResourceObject → Prop) (live : σ → Prop) (objects : List ResourceObject) :
    Prop where
  plain : i.rule = none
  sound : d.Sound finds
  capable : i.capabilities.contains .search = true
  provides {s : σ} : live s → ∃ t, i.connector.provides i.id .search s = (true, t) ∧ live t
  translate {f : Filter} {s : σ} : live s →
    ∃ t, i.connector.translate i.id oc options f s = (d.queries f, t) ∧ live t
  ends {q : Option κ} {s : σ} : live s →
    ∃ t, (i.connector.query i.id oc q options s).ending = (.ok (), t) ∧ live t
  once {q : κ} {s : σ} : live s → (i.connector.query i.id oc (some q) options s).items.Nodup
  only {q : κ} {s : σ} {o : ResourceObject} : live s →
    o ∈ (i.connector.query i.id oc (some q) options s).items → o ∈ objects
  found {q : κ} {s : σ} {o : ResourceObject} : live s → o ∈ objects → finds q o →
    o ∈ (i.connector.query i.id oc (some q) options s).items
  unrestricted {s : σ} : live s →
    (i.connector.query i.id oc none options s).items.Perm objects

namespace Feed

theorem items_mapResult (f : β → γ) (feed : Feed α β) : (feed.mapResult f).items = feed.items := by
  induction feed with
  | finish b => rfl
  | offer a next ih => rw [mapResult, items, items, ih]

theorem ending_mapResult (f : β → γ) (feed : Feed α β) :
    (feed.mapResult f).ending = f feed.ending := by
  induction feed with
  | finish b => rfl
  | offer a next ih => rw [mapResult, ending, ending, ih]

theorem items_offerAll (ignoreStop : Bool) (last : β) (as : List α) :
    (Resource.offerAll ignoreStop last as).items = as := by
  induction as with
  | nil => rfl
  | cons a as ih => rw [Resource.offerAll, items, Bool.true_or, if_pos rfl, ih]

theorem ending_offerAll (ignoreStop : Bool) (last : β) (as : List α) :
    (Resource.offerAll ignoreStop last as).ending = last := by
  induction as with
  | nil => rfl
  | cons a as ih => rw [Resource.offerAll, ending, Bool.true_or, if_pos rfl, ih]

end Feed

namespace ConnectorScript

/-- Searches without faults, rules or a capability that comes and goes. -/
structure Steady (s : ConnectorScript) : Prop where
  plain : s.rules = none
  faultless : s.faults = []
  searches : s.capabilities.contains .search = true
  keeps : s.flaky.contains .search = false
  prompt : s.late.contains .search = false

/-- The resource at the place holds the objects of the class. -/
def Holds (place : Nat) (oc : ObjectClass) (objects : List ResourceObject) (rs : Resources) :
    Prop :=
  ((resourceAt place rs).objects.filter fun o => o.objectClass.same oc) = objects

theorem objects_put {place : Nat} {r : Resource} {rs : Resources}
    (h : r.objects = (resourceAt place rs).objects) :
    (resourceAt place (put place r rs)).objects = (resourceAt place rs).objects := by
  by_cases hp : place < rs.length
  · simp [resourceAt, put, hp, h]
  · simp [resourceAt, put, hp]

theorem Holds.put {place : Nat} {oc : ObjectClass} {objects : List ResourceObject} {r : Resource}
    {rs : Resources} (hrs : Holds place oc objects rs)
    (h : r.objects = (resourceAt place rs).objects) : Holds place oc objects (put place r rs) := by
  rw [Holds, objects_put h]
  exact hrs

theorem use_of_faultless {s : ConnectorScript} (hs : s.faults = []) (name : String)
    (r : Resource) : Resource.use s name r = (.ok (), { r with uses := name :: r.uses }) := by
  simp [Resource.use, hs]

theorem found_of_holds {s : ConnectorScript} {place : Nat} {oc : ObjectClass}
    {objects : List ResourceObject} {rs : Resources} (hrs : Holds place oc objects rs)
    (q : Option Filter) :
    Resource.found s oc q (resourceAt place rs) =
      objects.filter fun o => s.overmatch || accepted q o := by
  rw [Resource.found, ← hrs, List.filter_filter]
  congr 1
  funext o
  rw [Bool.and_comm]

section

variable {s : ConnectorScript} (hs : s.Steady) {place : Nat} {oc : ObjectClass}
  {options : Options} {objects : List ResourceObject} {rs : Resources}
include hs

theorem Steady.items_query (id : Nat) (q : Option Filter) :
    ((s.fullConnector place).query id oc q options rs).items =
      Resource.found s oc q (resourceAt place rs) := by
  rw [fullConnector, Feed.items_mapResult, Resource.query, use_of_faultless hs.faultless,
    Feed.items_offerAll]
  rfl

theorem Steady.ending_query (rs : Resources) (id : Nat) (q : Option Filter) :
    ∃ r, ((s.fullConnector place).query id oc q options rs).ending = (.ok (), put place r rs) ∧
      r.objects = (resourceAt place rs).objects := by
  refine ⟨{ resourceAt place rs with
    uses := "query_end" :: "query" :: (resourceAt place rs).uses }, ?_, rfl⟩
  rw [fullConnector, Feed.ending_mapResult, Resource.query, use_of_faultless hs.faultless,
    Feed.ending_offerAll, use_of_faultless hs.faultless]

theorem Steady.provides_search (rs : Resources) (id : Nat) :
    ∃ r, (s.fullConnector place).provides id .search rs = (true, put place r rs) ∧
      r.objects = (resourceAt place rs).objects := by
  have asked : Resource.provides s id .search (resourceAt place rs) =
      (true, { resourceAt place rs with
        asked := (id, .search) :: (resourceAt place rs).asked }) := by
    simp only [Resource.provides, hs.searches, hs.keeps, hs.prompt]
    simp
  refine ⟨{ resourceAt place rs with
    asked := (id, .search) :: (resourceAt place rs).asked }, ?_, rfl⟩
  simp only [fullConnector, asked]

/-- An instance of a steady script searches the objects that its resource holds. -/
theorem Steady.serves {i : Instance Resources Filter}
    (made : i.connector = s.fullConnector place) (rule : i.rule = s.rules.map EditRule.normalRule)
    (capable : i.capabilities.contains .search = true)
    (distinct : objects.Nodup) :
    i.Serves oc options s.dialect.dialect (fun q o => q.accepts o = true)
      (Holds place oc objects) objects where
  plain := by
    rw [rule, hs.plain]
    rfl
  sound := s.dialect.dialect_sound
  capable := capable
  provides {rs} hrs := by
    obtain ⟨r, asked, unchanged⟩ := hs.provides_search rs i.id
    exact ⟨put place r rs, by rw [made, asked], hrs.put unchanged⟩
  translate {f rs} hrs := ⟨rs, by rw [made]; rfl, hrs⟩
  ends {q rs} hrs := by
    obtain ⟨r, ended, unchanged⟩ := hs.ending_query rs i.id q
    exact ⟨put place r rs, by rw [made, ended], hrs.put unchanged⟩
  once {q rs} hrs := by
    rw [made, hs.items_query, found_of_holds hrs]
    exact distinct.filter _
  only {q rs o} hrs ho := by
    rw [made, hs.items_query, found_of_holds hrs] at ho
    exact (List.mem_filter.mp ho).1
  found {q rs o} hrs ho hq := by
    rw [made, hs.items_query, found_of_holds hrs]
    exact List.mem_filter.mpr ⟨ho, by simp [accepted, hq]⟩
  unrestricted {rs} hrs := by
    rw [made, hs.items_query, found_of_holds hrs]
    exact .of_eq (List.filter_eq_self.mpr fun o _ => by simp [accepted])

end

end ConnectorScript

end ConnectorHub
