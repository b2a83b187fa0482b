import ConnectorHub.Proofs.Attributes.Normal
import ConnectorHub.Proofs.Filter.Tested
import ConnectorHub.Proofs.Likeness.Work
import ConnectorHub.Proofs.Search.Exact
import ConnectorHub.Proofs.Search.Follow

namespace ConnectorHub

open ConnectorHub.Action

variable {σ κ ρ α β γ : Type}

/-- A feed with its items changed. -/
def Feed.mapItems (g : α → γ) : Feed α β → Feed γ β
  | .finish b => .finish b
  | .offer a next => .offer (g a) fun more => (next more).mapItems g

/-- The connector with every object that it streams trimmed to the attributes that are asked for. -/
def Connector.trimmed (c : Connector σ κ) : Connector σ κ :=
  { c with query := fun id oc q options s =>
      (c.query id oc q options s).mapItems (projectAll options.attributesToGet) }

def Instance.trimmed (i : Instance σ κ) : Instance σ κ :=
  { i with connector := i.connector.trimmed }

namespace ResourceObject

variable {o p : ResourceObject} {names : List String} {name : String}

/-- The objects are the same as far as the names and the uid go. -/
structure AgreesOn (names : List String) (o p : ResourceObject) : Prop where
  objectClass : o.objectClass = p.objectClass
  uid : o.uid = p.uid
  asked {name : String} : Text.isAmong name names = true → o.get? name = p.get? name

theorem project_agreesOn (names : List String) (o : ResourceObject) :
    (o.project names).AgreesOn names o :=
  ⟨objectClass_project o names, uid_project o names, get?_project_of_isAmong⟩

namespace AgreesOn

variable (h : o.AgreesOn names p)
include h

theorem values_uid :
    (o.get? Attribute.uidName).map Attribute.values =
      (p.get? Attribute.uidName).map Attribute.values := by
  obtain ⟨a, ha, held⟩ := o.exists_get?_uid
  obtain ⟨b, hb, held'⟩ := p.exists_get?_uid
  rw [ha, hb, Option.map_some, Option.map_some, held, held', h.uid]

/-- The attribute of the uid may be spelled in two ways, but it holds the same. -/
theorem values_eq (read : Text.isAmong name names = true ∨
      Text.fold name = Text.fold Attribute.uidName) :
    (o.get? name).map Attribute.values = (p.get? name).map Attribute.values := by
  rcases read with asked | named
  · rw [h.asked asked]
  · rw [get?, get?, AttributeSet.get?_congr named, AttributeSet.get?_congr named]
    exact h.values_uid

theorem project_eq : o.project names = p.project names := by
  refine ext_get? ?_ fun name => ?_
  · rw [objectClass_project, objectClass_project, h.objectClass]
  · rw [get?_project, get?_project, h.uid]
    split
    · next asked => exact h.asked asked
    · rfl

theorem onObject {n : Normalizer} {act : String → List Value → List Value}
    (acts : n.ActsOnValues act) : (n.onObject o).AgreesOn names (n.onObject p) := by
  have normalized (q : ResourceObject) :
      ((n.onAttributes q.attributes).get? Attribute.uidName).map Attribute.values =
        some (act (Text.fold Attribute.uidName) [.text q.uid.value]) := by
    obtain ⟨a, found, held⟩ := q.exists_get?_uid
    have named : a.key = Text.fold Attribute.uidName := AttributeSet.key_of_get? found
    have found : q.attributes.get? Attribute.uidName = some a := found
    rw [acts.get?_onAttributes, found, Option.map_some, Option.map_some, acts, named, held]
  have uid : (n.onAttributes o.attributes).uid? = (n.onAttributes p.attributes).uid? :=
    AttributeSet.uid?_congr (by rw [normalized, normalized, h.uid])
  refine ⟨?_, ?_, fun asked => ?_⟩
  · rw [Normalizer.onObject_eq_withAttributes, Normalizer.onObject_eq_withAttributes,
      objectClass_withAttributes, objectClass_withAttributes, h.objectClass]
  · rw [Normalizer.onObject_eq_withAttributes, Normalizer.onObject_eq_withAttributes,
      uid_withAttributes, uid_withAttributes, uid, h.uid]
  · rw [acts.get?_onObject, acts.get?_onObject, uid, h.uid, h.asked asked]

end AgreesOn

end ResourceObject

/-- Nothing is tested but what is asked for, and the uid. -/
def Filter.TestsOnly (f : Filter) (names : List String) : Prop :=
  ∀ name ∈ f.tested, Text.isAmong name names = true ∨ Text.fold name = Text.fold Attribute.uidName

/-- The search's filter, if there is one, tests nothing that its options leave out. -/
def Options.Cover (options : Options) (f : Option Filter) : Prop :=
  ∀ names, options.attributesToGet = some names → ∀ g, f = some g → g.TestsOnly names

section

variable {n : Normalizer} {act : String → List Value → List Value} (acts : n.ActsOnValues act)
include acts

theorem tested_onFilter (f : Filter) : (n.onFilter f).tested = f.tested := by
  unfold Normalizer.onFilter
  split
  · exact Filter.tested_mapAttributes acts.name_onAttribute f
  · rfl

/-- The stages make the same of an object and of what is left of it. -/
theorem passed_projectAll {options : Options} {f : Option Filter} (cover : options.Cover f)
    (o : ResourceObject) :
    passed n (f.map n.onFilter) options.attributesToGet (projectAll options.attributesToGet o) =
      passed n (f.map n.onFilter) options.attributesToGet o := by
  cases asked : options.attributesToGet with
  | none => rfl
  | some names =>
    have agrees := (o.project_agreesOn names).onObject acts
    have tests : accepted (f.map n.onFilter) (n.onObject (o.project names)) =
        accepted (f.map n.onFilter) (n.onObject o) := by
      cases f with
      | none => rfl
      | some f =>
        refine Filter.accepts_congr fun name mem => agrees.values_eq ?_
        rw [tested_onFilter acts] at mem
        exact cover names asked f rfl name mem
    have projected : projectAll (some names) (n.onObject (o.project names)) =
        projectAll (some names) (n.onObject o) := agrees.project_eq
    rw [passed, passed, projectAll, tests, projected]

theorem push_projectAll {options : Options} {f : Option Filter} (cover : options.Cover f)
    {stages : List Stage}
    (chain : Instance.SearchChain n (f.map n.onFilter) options.attributesToGet stages)
    (h : Handler ρ ResourceObject) (o : ResourceObject) (r : ρ) :
    ResultChain.push h stages (projectAll options.attributesToGet o) r =
      ResultChain.push h stages o r := by
  have plain : ResultChain.push h (Instance.searchStages n (f.map n.onFilter)
      options.attributesToGet) (projectAll options.attributesToGet o) r =
        ResultChain.push h (Instance.searchStages n (f.map n.onFilter)
          options.attributesToGet) o r := by
    rw [ResultChain.push_searchStages, ResultChain.push_searchStages, passed_projectAll acts cover]
  cases chain with
  | plain => exact plain
  | distinct seen => rw [ResultChain.push, ResultChain.push, plain, ResourceObject.uid_projectAll]

end

namespace Instance

/-- Like sites with one caller, of whom something is known. -/
abbrev LikeWith (kind : Entry κ → Prop) (before : List (Entry κ)) (K : ρ → Prop) :
    Site σ κ × ρ → Site σ κ × ρ → Prop :=
  Both (Site.Like kind before) fun c d => c = d ∧ K c

section

variable {kind : Entry κ → Prop} {before : List (Entry κ)} {entry : α → Bool → Entry κ}
  (entry' : α → Bool → Entry κ) (he : ∀ a more, kind (entry a more)) {g : α → α}
  {hd : Handler ρ α} {K : ρ → Prop}
  (same : ∀ a r, K r → hd (g a) r = hd a r ∧ K (hd a r).2)
include he same

/-- A handler that makes the same of an item and of its changed form goes the same way with both
feeds. -/
theorem deliver_mapItems (feed : Feed α β) {s t : Site σ κ} (hst : s.Like kind before t) {r : ρ}
    (hr : K r) :
    (deliver entry hd feed (s, r)).1 = (deliver entry' hd (feed.mapItems g) (t, r)).1 ∧
      LikeWith kind before K (deliver entry hd feed (s, r)).2
        (deliver entry' hd (feed.mapItems g) (t, r)).2 := by
  induction feed generalizing s t r with
  | finish b => exact ⟨rfl, hst, rfl, hr⟩
  | offer a next ih =>
    obtain ⟨answer, kept⟩ := same a r hr
    rw [Feed.mapItems, deliver, deliver, answer]
    exact ih _ ((hst.write (he a _)).rewrite _) kept

theorem stream_mapItems (start : σ → Feed α (Except Stop Unit × σ)) :
    Agree (LikeWith kind before K) (SameEnd Eq) (stream entry hd start)
      (stream entry' hd fun s => (start s).mapItems g) := by
  rintro ⟨s, r⟩ ⟨t, r'⟩ ⟨like, rfl, hr⟩
  have delivered := deliver_mapItems entry' he same (start s.resource) like hr
  have resource : s.resource = t.resource := like.resource
  unfold stream
  dsimp only
  rw [← resource]
  generalize deliver entry hd (start s.resource) (s, r) = x at delivered ⊢
  generalize deliver entry' hd ((start s.resource).mapItems g) (t, r) = y at delivered ⊢
  obtain ⟨⟨result, u⟩, s', q⟩ := x
  obtain ⟨⟨result', u'⟩, t', q'⟩ := y
  obtain ⟨ended, next, kept⟩ := delivered
  obtain ⟨rfl, rfl⟩ : result = result' ∧ u = u' := Prod.mk.inj ended
  exact ⟨.refl (fun _ => rfl) _, { next with resource := rfl }, kept⟩

end

variable {i : Instance σ κ} {oc : ObjectClass} {options : Options} {f : Option Filter}
  {h : Handler ρ ResourceObject} {act : String → List Value → List Value}
  (acts : (i.normalizer oc).ActsOnValues act) (cover : options.Cover f)
  (before : List (Entry κ))

/-- The sites are alike, and both searches have come to the same chain and caller. -/
abbrev SearchesLike (i : Instance σ κ) (oc : ObjectClass) (options : Options) (f : Option Filter)
    (before : List (Entry κ)) :
    Site σ κ × (List Stage × ρ) → Site σ κ × (List Stage × ρ) → Prop :=
  LikeWith (Entry.WorkOf i.id) before fun c =>
    SearchChain (i.normalizer oc) (f.map (i.normalizer oc).onFilter) options.attributesToGet c.1

theorem write_searchesLike {e : Entry κ} (he : e.WorkOf i.id) :
    Agree (SearchesLike (σ := σ) (ρ := ρ) i oc options f before) (SameEnd Eq)
      (Action.onFirst (Site.write e)) (Action.onFirst (Site.write e)) :=
  (Site.agree_write he e).onFirst

theorem withStages_trimmed {stages : List Stage}
    (chain : SearchChain (i.normalizer oc) (f.map (i.normalizer oc).onFilter)
      options.attributesToGet stages) {x y : Action (Site σ κ × (List Stage × ρ)) α}
    (hxy : Agree (SearchesLike i oc options f before) (SameEnd Eq) x y) :
    Agree (Site.LikeBeside (Entry.WorkOf i.id) before) (SameEnd Eq) (withStages stages x)
      (withStages stages y) := by
  rintro ⟨s, r⟩ ⟨t, r'⟩ ⟨like, rfl⟩
  obtain ⟨ends, next, kept, -⟩ := hxy (s, (stages, r)) (t, (stages, r)) ⟨like, rfl, chain⟩
  have caller : (x (s, (stages, r))).2.2.2 = (y (t, (stages, r))).2.2.2 := congrArg Prod.snd kept
  exact ⟨ends, next, caller⟩

include acts cover

theorem execute_trimmed (q : Option κ) :
    Agree (SearchesLike i oc options f before) (SameEnd Eq)
      (i.execute oc (q.map .own) (ResultChain.handler h) options)
      (i.trimmed.execute oc (q.map .own) (ResultChain.handler h) options) := by
  have same (o : ResourceObject) (c : List Stage × ρ)
      (chain : SearchChain (i.normalizer oc) (f.map (i.normalizer oc).onFilter)
        options.attributesToGet c.1) :
      ResultChain.handler h (projectAll options.attributesToGet o) c =
          ResultChain.handler h o c ∧
        SearchChain (i.normalizer oc) (f.map (i.normalizer oc).onFilter) options.attributesToGet
          (ResultChain.handler h o c).2.1 :=
    ⟨push_projectAll acts cover chain h o c.2, (chain.push h o c.2).1⟩
  have ofMember (o : ResourceObject) (more : Bool) :
      Entry.WorkOf i.id (.handledObject (κ := κ) i.id o more) := rfl
  cases q <;>
    exact Agree.bindEq (write_searchesLike before rfl) fun _ =>
      stream_mapItems (.handledObject i.id) ofMember same _

theorem executeAll_trimmed (queries : List κ) :
    Agree (SearchesLike i oc options f before) (SameEnd Eq) (i.executeAll oc h options queries)
      (i.trimmed.executeAll oc h options queries) := by
  induction queries with
  | nil => exact Agree.pure rfl
  | cons q rest ih =>
    refine Agree.bindEq (execute_trimmed acts cover before (some q)) fun _ => ?_
    refine Agree.bind Agree.get ?_ .error
    rintro ⟨s, stages, r⟩ ⟨t, _, _⟩ ⟨-, ⟨⟩, -⟩
    dsimp only
    split
    · exact ih
    · exact write_searchesLike before trivial

theorem runQueries_trimmed (queries : List κ) :
    Agree (Site.LikeBeside (Entry.WorkOf i.id) before) (SameEnd Eq)
      (i.runQueries oc h options (searchStages (i.normalizer oc)
        (f.map (i.normalizer oc).onFilter) options.attributesToGet) queries)
      (i.trimmed.runQueries oc h options (searchStages (i.normalizer oc)
        (f.map (i.normalizer oc).onFilter) options.attributesToGet) queries) := by
  match queries with
  | [] => exact withStages_trimmed before .plain (execute_trimmed acts cover before none)
  | [q] => exact withStages_trimmed before .plain (execute_trimmed acts cover before (some q))
  | q :: q' :: rest =>
    refine Agree.bindEq (((Alike.refl i).parallel before).note _).onFirst fun _ => ?_
    exact withStages_trimmed before (.distinct {}) (executeAll_trimmed acts cover before _)

/-- A search finds the same whether the connector trims its objects to what is asked for or not. -/
theorem search_trimmed (s : Site σ κ) (r : ρ) :
    (i.trimmed.search oc f h options (s, r)).1 = (i.search oc f h options (s, r)).1 ∧
      (i.trimmed.search oc f h options (s, r)).2.2 = (i.search oc f h options (s, r)).2.2 ∧
      (i.trimmed.search oc f h options (s, r)).2.1.Alike (i.search oc f h options (s, r)).2.1 := by
  have agree : Agree (Site.LikeBeside (Entry.WorkOf i.id) s.journal) (SameEnd Eq)
      (i.search oc f h options) (i.trimmed.search oc f h options) := by
    have same := (Alike.refl i).parallel s.journal
    refine Agree.bindEq (same.require .search).onFirst fun _ => ?_
    refine Agree.bindEq (same.nativeQueries oc options _).onFirst fun queries => ?_
    exact runQueries_trimmed acts cover _ queries
  have start : Site.LikeBeside (Entry.WorkOf i.id) s.journal (s, r) (s, r) :=
    ⟨Site.Alike.like ⟨rfl, rfl, rfl⟩ _, rfl⟩
  obtain ⟨ends, like, caller⟩ := agree (s, r) (s, r) start
  exact ⟨ends.eq.symm, caller.symm, ⟨like.clock.symm, like.resource.symm, like.built.symm⟩⟩

end Instance

def annsAddress : Filter := .value .equals "mail" (.text "ann@example.com")

/-- What a caller that takes everything has received of a search for the mailbox. -/
def annsMailbox (i : Instance Resources Filter) (names : List String) : List ResourceObject :=
  (i.search .account (some annsAddress) ResultChain.listed { attributesToGet := some names }
    (mailSite, ([], []))).2.2.2

/-- The address is tested and asked for, in another case. -/
theorem annsMailbox_trimmed :
    ((mailInstance (mailScript .full false)).normalizer .account).ActsOnValues
        (fun _ values => values) ∧
      ({ attributesToGet := some ["MAIL"] } : Options).Cover (some annsAddress) ∧
      annsMailbox (mailInstance (mailScript .full false)).trimmed ["MAIL"] =
        annsMailbox (mailInstance (mailScript .full false)) ["MAIL"] ∧
      annsMailbox (mailInstance (mailScript .full false)) ["MAIL"] =
        [mailbox "1" "ann@example.com"] := by
  have acts : ((mailInstance (mailScript .full false)).normalizer .account).ActsOnValues
      (fun _ values => values) := Normalizer.actsOnValues_of_none rfl
  have cover : ({ attributesToGet := some ["MAIL"] } : Options).Cover (some annsAddress) := by
    rintro names ⟨⟩ g ⟨⟩
    intro name mem
    obtain rfl := List.mem_singleton.mp mem
    exact .inl (by decide)
  obtain ⟨-, caller, -⟩ := Instance.search_trimmed acts cover (h := ResultChain.listed)
    mailSite ([], [])
  exact ⟨acts, cover, congrArg Prod.snd caller, by decide +kernel⟩

/-- What is tested and not asked for is lost before it is tested: the mailbox is found among full
objects only. -/
theorem annsMailbox_lost :
    ¬∀ (i : Instance Resources Filter) (oc : ObjectClass) (f : Option Filter) (options : Options)
      (s : Site Resources Filter) (c : List Bool × List ResourceObject),
      (i.trimmed.search oc f ResultChain.listed options (s, c)).2.2 =
        (i.search oc f ResultChain.listed options (s, c)).2.2 := by
  intro same
  have received := congrArg Prod.snd (same (mailInstance (mailScript .full false)) .account
    (some annsAddress) { attributesToGet := some [] } mailSite ([], []))
  have full : (annsMailbox (mailInstance (mailScript .full false)) []).length = 1 := by
    decide +kernel
  have trimmed : annsMailbox (mailInstance (mailScript .full false)).trimmed [] = [] := by
    decide +kernel
  have empty : annsMailbox (mailInstance (mailScript .full false)) [] = [] :=
    received.symm.trans trimmed
  rw [empty] at full
  exact absurd full (by decide)

end ConnectorHub
