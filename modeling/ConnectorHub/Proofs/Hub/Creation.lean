import ConnectorHub.Proofs.Attributes.FiniteMap
import ConnectorHub.Proofs.Hub.Refusal
import ConnectorHub.Proofs.Update.Once

namespace ConnectorHub

open ConnectorHub.Action

variable {σ κ : Type}

theorem Check.ofDistinct_of_newAttributes {as : List Attribute} {s : AttributeSet}
    (h : newAttributes as = .ok s) : AttributeSet.ofDistinct as = .ok s := by
  unfold newAttributes at h
  cases made : AttributeSet.ofDistinct as with
  | error e =>
    rw [made] at h
    cases h
  | ok t =>
    rw [made] at h
    change (if t.contains Attribute.uidName then _ else .ok t) = Except.ok s at h
    split at h
    · cases h
    · exact h

namespace Instance

/-- The work of a create on the instance that it takes. -/
def creating (i : Instance σ κ) (oc : ObjectClass) (s : AttributeSet) (options : Options) :
    Action (Site σ κ) Uid := do
  i.require .create
  i.uidOf oc (i.call (.create oc ((i.normalizer oc).onAttributes s) options))

/-- How a create comes to its connector: it fails and nothing is handed over, or there is one call,
with the attributes that were given. -/
def Creates (oc : ObjectClass) (as : List Attribute) (options : Options) (result : Except Stop Uid)
    (calls : List Call) : Prop :=
  ((∃ why, result = .error why) ∧ calls = []) ∨
    ∃ s : AttributeSet, calls = [.create oc s options] ∧ s.toList.Perm as

theorem creating_goes {i : Instance σ κ} (plain : i.rule = none) (oc : ObjectClass)
    {as : List Attribute} {s : AttributeSet} (given : s.toList.Perm as) (options : Options) :
    Goes (fun _ => Creates oc as options) (i.creating oc s options) := by
  intro t
  have asIs : (i.normalizer oc).onAttributes s = s := by
    rw [normalizer, Normalizer.onAttributes, plain]
  have written : (i.require .create t).2.Grown (fun e => e.modification? = none) t.journal :=
    (require_writes .create).grown t
  have asked := written.shows fun _ he => he
  rw [creating, asIs]
  cases required : i.require .create t with
  | mk ended u =>
    rw [required] at asked
    cases ended with
    | error why =>
      rw [bind_of_error required]
      exact ⟨[], .inl ⟨⟨why, rfl⟩, rfl⟩, asked⟩
    | ok done =>
      rw [bind_of_ok required]
      exact uidOf_goes rfl asked rfl (.inr ⟨s, rfl, given⟩)

end Instance

/-- The release after the work can only turn its end into an error. -/
theorem Instance.Creates.overridden {oc : ObjectClass} {as : List Attribute} {options : Options}
    {result : Except Stop Uid} {calls : List Call} (h : Creates oc as options result calls)
    (ended : Except Stop Unit) : Creates oc as options (overriding ended result) calls := by
  cases ended with
  | ok done => exact h
  | error why => exact h.imp_left fun nothing => ⟨⟨why, rfl⟩, nothing.2⟩

open Instance

theorem Facade.create_eq (f : Facade σ κ) (oc : ObjectClass) (as : List Attribute)
    (options : Options) :
    f.create oc as options = (do
      Action.ofExcept (Check.objectClass oc .create)
      let s ← Action.ofExcept (Check.newAttributes as)
      f.context.withInstance fun i => i.creating oc s options) :=
  rfl

theorem Facade.create_hands (f : Facade σ κ) (oc : ObjectClass) (as : List Attribute)
    (options : Options) (w : World σ κ)
    (plain : ∀ l w₁, Lease.acquire f.context w = (.ok l, w₁) →
      l.member.rule = none) :
    ∃ calls, Creates oc as options (f.create oc as options w).1 calls ∧
      (f.create oc as options w).2.site.Shows Entry.modification? w.site.journal calls := by
  have refused (e : Error) : ∃ calls,
      Creates oc as options ((Action.fail e : Action (World σ κ) Uid) w).1 calls ∧
      ((Action.fail e : Action (World σ κ) Uid) w).2.site.Shows Entry.modification? w.site.journal
        calls :=
    ⟨[], .inl ⟨⟨_, rfl⟩, rfl⟩, w.site.shows_self⟩
  rw [create_eq]
  cases Check.objectClass oc .create with
  | error e => exact refused e
  | ok done =>
  rw [bind_of_ok (rfl : Action.ofExcept (.ok done) w = (.ok done, w))]
  cases made : Check.newAttributes as with
  | error e => exact refused e
  | ok s =>
  rw [bind_of_ok (rfl : Action.ofExcept (.ok s) w = (.ok s, w))]
  have given := AttributeSet.perm_of_ofDistinct (Check.ofDistinct_of_newAttributes made)
  cases leased : Lease.acquire f.context w with
  | mk acquired w₁ =>
  cases acquired with
  | error why =>
    rw [Context.withInstance, bind_of_error leased]
    exact ⟨[], .inl ⟨⟨why, rfl⟩, rfl⟩,
      Lease.acquire_shows (fun _ => Entry.modification?_of_upkeep) leased⟩
  | ok l =>
    obtain ⟨calls, creates, shows⟩ := creating_goes (plain l w₁ leased) oc given options w₁.site
    cases worked : World.onSite (l.member.creating oc s options) w₁ with
    | mk result w₂ =>
    cases released : l.release w₂ with
    | mk ended w' =>
    obtain ⟨rfl, rfl⟩ := Prod.mk.inj worked
    obtain ⟨told, shown⟩ := Context.withInstance_of_leased (x := fun i => i.creating oc s options)
      leased worked released shows
    rw [told]
    exact ⟨calls, creates.overridden ended, shown⟩

open AttributeSet (Step) in
/-- A set of attributes is a finite map on folded names, whatever was done to it. A list makes a set
when its names are different, and then the set is of its attributes; otherwise it is refused for the
first name that repeats an earlier one. Of attributes without a normal form the connector is handed
those that were given, or the create fails and nothing is handed over. -/
theorem AttributeSet.lawful_map (steps : List Step) (as : List Attribute) :
    (∃ m, AttributeMap.Runs ∅ steps (empty.run steps).1 m ∧ (empty.run steps).2.Represents m) ∧
      ((∃ t, ofDistinct as = .ok t) ↔ Attribute.Distinct as) ∧
      (∀ t, ofDistinct as = .ok t → t.toList.Perm as) ∧
      (∀ e, ofDistinct as = .error e →
        ∃ a, Attribute.FirstRepeat as a ∧ e = .duplicateAttribute a.name) ∧
      ∀ (σ κ : Type) (f : Facade σ κ) (oc : ObjectClass) (options : Options) (w : World σ κ),
        (∀ l w₁, Lease.acquire f.context w = (.ok l, w₁) →
          l.member.rule = none) →
        ∃ calls, Creates oc as options (f.create oc as options w).1 calls ∧
          (f.create oc as options w).2.site.Shows Entry.modification? w.site.journal calls := by
  have start : empty.Holds ∅ := fun _ => rfl
  obtain ⟨m, runs, held⟩ := start.run steps
  exact ⟨⟨m, runs, held.represents⟩, exists_ofDistinct_iff, fun t made => perm_of_ofDistinct made,
    fun e refused => of_ofDistinct_error refused,
    fun σ κ f oc options w plain => f.create_hands oc as options w plain⟩

/-- Creates objects as they are given. -/
def ledgerScript : ConnectorScript where
  key := ⟨"ledger", "1", "Ledger"⟩
  capabilities := [.create]

def ledgerFacade : Facade Resources Filter :=
  ⟨⟨0⟩, ⟨ledgerScript.factory 0, {}, none⟩, .standard⟩

def ledgerWorld : World Resources Filter :=
  { site := { resource := [Resource.ofScript ledgerScript] } }

def newEntry : List Attribute := [⟨"sum", [.integer 7]⟩, ⟨"Payee", []⟩]

/-- A name that is spelled anew, a list that is refused, and a removal by another spelling. -/
def ledgerSteps : List AttributeSet.Step :=
  [.insert ⟨"Sum", []⟩, .insert ⟨"SUM", [.integer 1]⟩,
    .distinct [⟨"a", []⟩, ⟨"b", []⟩, ⟨"B", []⟩, ⟨"A", []⟩], .insert ⟨"note", []⟩, .remove "Note"]

/-- The new entry is handed over in the order of its folded names. -/
theorem newEntry_lawful_map :
    (∃ m, AttributeMap.Runs ∅ ledgerSteps
        [.done, .done, .refused (.duplicateAttribute "B"), .done, .removed (some ⟨"note", []⟩)] m ∧
        (AttributeSet.ofList [⟨"SUM", [.integer 1]⟩]).Represents m) ∧
      (∃ t, AttributeSet.ofDistinct newEntry = .ok t) ∧
      (∀ l w₁, Lease.acquire ledgerFacade.context ledgerWorld = (.ok l, w₁) →
        l.member.rule = none) ∧
      (∃ calls, Creates .account newEntry {}
          (ledgerFacade.create .account newEntry {} ledgerWorld).1 calls ∧
        (ledgerFacade.create .account newEntry {} ledgerWorld).2.site.Shows Entry.modification?
          ledgerWorld.site.journal calls) ∧
      (ledgerFacade.create .account newEntry {} ledgerWorld).2.site.journal.filterMap
        Entry.modification? = [.create .account (.ofList newEntry) {}] ∧
      (AttributeSet.ofList newEntry).names = ["Payee", "sum"] := by
  have ran : AttributeSet.empty.run ledgerSteps =
      ([.done, .done, .refused (.duplicateAttribute "B"), .done, .removed (some ⟨"note", []⟩)],
        .ofList [⟨"SUM", [.integer 1]⟩]) := by decide +kernel
  have plain : ∀ l w₁, Lease.acquire ledgerFacade.context ledgerWorld = (.ok l, w₁) →
      l.member.rule = none :=
    fun _ _ leased => ((Lease.acquire_made rfl).ok trivial leased).2
  obtain ⟨kept, made, -, -, creates⟩ := AttributeSet.lawful_map ledgerSteps newEntry
  rw [ran] at kept
  exact ⟨kept, made.mpr (by unfold Attribute.Distinct; decide +kernel), plain,
    creates _ _ ledgerFacade .account {} ledgerWorld plain, by decide +kernel, by decide +kernel⟩

end ConnectorHub
