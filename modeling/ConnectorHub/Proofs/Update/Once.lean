import ConnectorHub.Proofs.Hub.Release
import ConnectorHub.Proofs.Hub.Writes
import ConnectorHub.Proofs.Search.Follow
import ConnectorHub.Scripted.Connector

namespace ConnectorHub

open ConnectorHub.Action

variable {σ κ α : Type}

/-- Whether a call is there to modify what is behind the connector. -/
def Call.modifies : Call → Bool
  | create .. | delete .. | update .. | addValues .. | removeValues .. => true
  | scriptOnConnector .. | scriptOnResource .. => true
  | _ => false

/-- The modifying call that was made. -/
def Entry.modification? : Entry κ → Option Call
  | called _ c => if c.modifies then some c else none
  | _ => none

namespace Entry

variable {e : Entry κ}

theorem modification?_of_upkeep (h : e.Upkeep) : e.modification? = none := by
  cases e with
  | called inst c =>
    cases c with
    | init _ | dispose | checkAlive => rfl
    | _ => cases h
  | _ => rfl

theorem modification?_of_closing {id : Nat} (h : e.ClosingOf id) : e.modification? = none := by
  cases e with
  | called inst c =>
    obtain ⟨-, rfl⟩ := h
    rfl
  | _ => rfl

theorem modification?_of_ofSearch {i : Instance σ κ} {oc : ObjectClass} {options : Options}
    (h : i.OfSearch oc options e) : e.modification? = none := by
  cases h <;> rfl

end Entry

/-- The call that changes values natively. -/
def ValueChange.native (change : ValueChange) (oc : ObjectClass) (uid : Uid) (delta : AttributeSet)
    (options : Options) : Call :=
  match change with
  | add => .addValues oc uid delta options
  | remove => .removeValues oc uid delta options

namespace Instance

section

variable (i : Instance σ κ) (reserved : ReservedNames) (change : ValueChange) (oc : ObjectClass)
  (uid : Uid) (delta : AttributeSet) (options : Options) (s : Site σ κ)

/-- How a replace goes from `s` on: what it comes to and the modifications that it makes. -/
inductive Replacing : Except Stop Uid → List Call → Prop
  | invalid (e : Error) (checked : checkDelta .update delta reserved = .error e) :
    Replacing (.error (.error e)) []
  | incapable (why : Stop) (t : Site σ κ) (valid : checkDelta .update delta reserved = .ok ())
    (required : i.require .update s = (.error why, t)) : Replacing (.error why) []
  | sent (result : Except Stop Uid) (t u : Site σ κ)
    (valid : checkDelta .update delta reserved = .ok ())
    (required : i.require .update s = (.ok (), t))
    (answered : i.call (.update oc ((i.normalizer oc).onUid uid)
      ((i.normalizer oc).onAttributes delta) options) t = (result, u)) :
    Replacing (result.map (i.normalizer oc).onUid)
      [.update oc ((i.normalizer oc).onUid uid) ((i.normalizer oc).onAttributes delta) options]

/-- The search for the object of an emulated change, and how it ends. -/
def Seeks (ended : Except Stop Unit) (t : Site σ κ) (found : Option ResourceObject) : Prop :=
  i.search oc (some (.uidEquals uid)) keepOne { options with attributesToGet := some delta.names }
    (s, none) = (ended, (t, found))

/-- How a change of values goes with a fetch. An object that was found counts only if the search
has succeeded. -/
inductive Emulating : Except Stop Uid → List Call → Prop
  | failed (why : Stop) (t : Site σ κ) (found : Option ResourceObject)
    (sought : i.Seeks oc uid delta options s (.error why) t found) : Emulating (.error why) []
  | unknown (t : Site σ κ) (sought : i.Seeks oc uid delta options s (.ok ()) t none) :
    Emulating (.error (.error (.unknownUid oc.name uid.value))) []
  | found (t : Site σ κ) (current : ResourceObject)
    (sought : i.Seeks oc uid delta options s (.ok ()) t (some current)) {result : Except Stop Uid}
    {calls : List Call}
    (replacing : i.Replacing reserved oc uid (change.merge current delta) options t result calls) :
    Emulating result calls

/-- How a change of values goes on an instance: by one native call, or else by a fetch. -/
inductive Changing : Except Stop Uid → List Call → Prop
  | invalid (e : Error) (checked : checkDelta change.operation delta reserved = .error e) :
    Changing (.error (.error e)) []
  | natively (result : Except Stop Uid) (t u : Site σ κ)
    (valid : checkDelta change.operation delta reserved = .ok ())
    (able : i.changesValues s = (.ok true, t))
    (answered : i.changeNatively change oc ((i.normalizer oc).onUid uid)
      ((i.normalizer oc).onAttributes delta) options t = (result, u)) :
    Changing (result.map (i.normalizer oc).onUid)
      [change.native oc ((i.normalizer oc).onUid uid) ((i.normalizer oc).onAttributes delta) options]
  | unsupported (t : Site σ κ) (valid : checkDelta change.operation delta reserved = .ok ())
    (unable : i.changesValues s = (.ok false, t))
    (unsupported : i.capabilities.supports change.operation = false) :
    Changing (.error (.error (.notSupported change.operation))) []
  | emulated (t : Site σ κ) (valid : checkDelta change.operation delta reserved = .ok ())
    (unable : i.changesValues s = (.ok false, t))
    (supported : i.capabilities.supports change.operation = true) {result : Except Stop Uid}
    {calls : List Call}
    (emulating : i.Emulating reserved change oc ((i.normalizer oc).onUid uid)
      ((i.normalizer oc).onAttributes delta) options
      { t with journal := t.journal ++ [.noted (.emulatingUpdate oc ((i.normalizer oc).onUid uid)
        change.operation ((i.normalizer oc).onAttributes delta).size)] } result calls) :
    Changing result calls

end

/-- The run goes as `course` tells, with the modifications that go with it. -/
def Goes (course : Site σ κ → Except Stop α → List Call → Prop) (x : Action (Site σ κ) α) : Prop :=
  ∀ s, ∃ calls, course s (x s).1 calls ∧ (x s).2.Shows Entry.modification? s.journal calls

variable {i : Instance σ κ} {reserved : ReservedNames} {change : ValueChange} {oc : ObjectClass}
  {uid : Uid} {delta : AttributeSet} {options : Options} {s : Site σ κ} {result : Except Stop Uid}
  {calls : List Call}

theorem Replacing.length_le (h : i.Replacing reserved oc uid delta options s result calls) :
    calls.length ≤ 1 := by
  cases h with
  | invalid => decide
  | incapable => decide
  | sent => exact Nat.le_refl 1

theorem Emulating.length_le
    (h : i.Emulating reserved change oc uid delta options s result calls) : calls.length ≤ 1 := by
  cases h with
  | failed => decide
  | unknown => decide
  | found t current sought replacing => exact replacing.length_le

theorem Changing.length_le (h : i.Changing reserved change oc uid delta options s result calls) :
    calls.length ≤ 1 := by
  cases h with
  | invalid => decide
  | natively => exact Nat.le_refl 1
  | unsupported => decide
  | emulated t valid unable supported emulating => exact emulating.length_le

/-- The last step of a change: a modifying call, of whose answer the uid is taken. -/
theorem uidOf_goes {course : Except Stop Uid → List Call → Prop} {x : Action (Site σ κ) Uid}
    {before : List (Entry κ)} {call : Call} {t : Site σ κ} (modifies : call.modifies = true)
    (silent : t.Shows Entry.modification? before [])
    (called : (x t).2.journal = t.journal ++ [.called i.id call])
    (told : course ((x t).1.map (i.normalizer oc).onUid) [call]) :
    ∃ calls, course (i.uidOf oc x t).1 calls ∧
      (i.uidOf oc x t).2.Shows Entry.modification? before calls := by
  have shown : [.called i.id call].filterMap (Entry.modification? (κ := κ)) = [call] := by
    simp [Entry.modification?, modifies]
  rw [uidOf_apply]
  exact ⟨[call], told, silent.append ⟨[.called i.id call], called, shown⟩⟩

theorem journal_changeNatively (i : Instance σ κ) (change : ValueChange) (oc : ObjectClass)
    (uid : Uid) (delta : AttributeSet) (options : Options) (s : Site σ κ) :
    (i.changeNatively change oc uid delta options s).2.journal =
      s.journal ++ [.called i.id (change.native oc uid delta options)] := by
  cases change <;> rfl

theorem update_goes (i : Instance σ κ) (reserved : ReservedNames) (oc : ObjectClass) (uid : Uid)
    (delta : AttributeSet) (options : Options) :
    Goes (i.Replacing reserved oc uid delta options) (i.update reserved oc uid delta options) := by
  intro s
  rw [update]
  cases checked : checkDelta .update delta reserved with
  | error e => exact ⟨[], .invalid e checked, s.shows_self⟩
  | ok done =>
    have written : (i.require .update s).2.Grown (fun e => e.modification? = none) s.journal :=
      (require_writes .update).grown s
    have asked := written.shows fun _ he => he
    cases required : i.require .update s with
    | mk ended t =>
      rw [required] at asked
      rw [bind_of_ok (rfl : Action.ofExcept (.ok done) s = (.ok done, s))]
      cases ended with
      | error why =>
        rw [bind_of_error required]
        exact ⟨[], .incapable why t checked required, asked⟩
      | ok done' =>
        rw [bind_of_ok required]
        exact uidOf_goes rfl asked rfl (.sent _ t _ checked required rfl)

theorem emulate_goes (i : Instance σ κ) (reserved : ReservedNames) (change : ValueChange)
    (oc : ObjectClass) (uid : Uid) (delta : AttributeSet) (options : Options) :
    Goes (fun s => i.Emulating reserved change oc uid delta options
        { s with journal :=
            s.journal ++ [.noted (.emulatingUpdate oc uid change.operation delta.size)] })
      (i.emulate reserved change oc uid delta options) := by
  intro s
  let noted : Note := .emulatingUpdate oc uid change.operation delta.size
  let s₁ : Site σ κ := { s with journal := s.journal ++ [.noted noted] }
  let fetch : Options := { options with attributesToGet := some delta.names }
  have before : s₁.Shows Entry.modification? s.journal [] := ⟨[.noted noted], rfl, rfl⟩
  have fetched : (i.getObject oc uid fetch s₁).2.Shows Entry.modification? s₁.journal [] :=
    ((getObject_writes uid).grown s₁).shows fun _ => Entry.modification?_of_ofSearch
  rw [emulate, bind_of_ok (rfl : Site.note noted s = (.ok (), s₁))]
  cases sought : i.search oc (some (.uidEquals uid)) keepOne fetch (s₁, none) with
  | mk ended u =>
    obtain ⟨t, found⟩ := u
    have got : i.getObject oc uid fetch s₁ = (ended.map fun _ => found, t) := by
      rw [getObject_apply, sought]
    rw [got] at fetched
    have silent : t.Shows Entry.modification? s.journal [] := before.append fetched
    cases ended with
    | error why =>
      rw [bind_of_error got]
      exact ⟨[], .failed why t found sought, silent⟩
    | ok done =>
      rw [bind_of_ok got]
      cases found with
      | none => exact ⟨[], .unknown t sought, silent⟩
      | some current =>
        obtain ⟨calls, replacing, shows⟩ :=
          i.update_goes reserved oc uid (change.merge current delta) options t
        exact ⟨calls, .found t current sought replacing, silent.append shows⟩

theorem changesValues_asks (i : Instance σ κ) (s : Site σ κ) :
    ∃ able t, i.changesValues s = (.ok able, t) ∧ t.Shows Entry.modification? s.journal [] := by
  have written : (i.changesValues s).2.Grown (fun e => e.modification? = none) s.journal :=
    changesValues_writes.grown s
  have asked := written.shows fun _ he => he
  obtain ⟨able, t, run⟩ : ∃ able t, i.changesValues s = (.ok able, t) := by
    rw [changesValues]
    split <;> exact ⟨_, _, rfl⟩
  rw [run] at asked
  exact ⟨able, t, run, asked⟩

theorem changeValues_goes (i : Instance σ κ) (reserved : ReservedNames) (change : ValueChange)
    (oc : ObjectClass) (uid : Uid) (delta : AttributeSet) (options : Options) :
    Goes (i.Changing reserved change oc uid delta options)
      (i.changeValues reserved change oc uid delta options) := by
  intro s
  rw [changeValues]
  cases checked : checkDelta change.operation delta reserved with
  | error e => exact ⟨[], .invalid e checked, s.shows_self⟩
  | ok done =>
    obtain ⟨able, t, asked, silent⟩ := i.changesValues_asks s
    rw [bind_of_ok (rfl : Action.ofExcept (.ok done) s = (.ok done, s)), bind_of_ok asked]
    cases able with
    | true =>
      have modifies : (change.native oc ((i.normalizer oc).onUid uid)
          ((i.normalizer oc).onAttributes delta) options).modifies = true := by cases change <;> rfl
      rw [if_pos rfl]
      exact uidOf_goes modifies silent (i.journal_changeNatively change oc _ _ options t)
        (.natively _ t _ checked asked rfl)
    | false =>
      rw [if_neg Bool.false_ne_true]
      cases supported : i.capabilities.supports change.operation with
      | false => exact ⟨[], .unsupported t checked asked supported, silent⟩
      | true =>
        obtain ⟨calls, emulating, shows⟩ := i.emulate_goes reserved change oc
          ((i.normalizer oc).onUid uid) ((i.normalizer oc).onAttributes delta) options t
        exact ⟨calls, .emulated t checked asked supported emulating, silent.append shows⟩

end Instance

/-- Only being cut short keeps a release from its end. -/
theorem Lease.release_abrupt (l : Lease σ κ) :
    Triple (fun _ => True) l.release (fun _ _ => True) fun why _ => why.abrupt = true := by
  unfold release
  split
  all_goals
    refine (Triple.attempt_abrupt _).bind fun result => ?_
    cases result <;> exact fun _ _ => trivial

/-- Around the work on a leased instance nothing is modified. -/
theorem Context.withInstance_of_leased {c : Context σ κ} {x : Instance σ κ → Action (Site σ κ) α}
    {w w₁ w₂ w' : World σ κ} {l : Lease σ κ} {ended : Except Stop Unit} {result : Except Stop α}
    {calls : List Call} (leased : Lease.acquire c w = (.ok l, w₁))
    (worked : World.onSite (x l.member) w₁ = (result, w₂)) (released : l.release w₂ = (ended, w'))
    (shows : w₂.site.Shows Entry.modification? w₁.site.journal calls) :
    c.withInstance x w = (overriding ended result, w') ∧
      w'.site.Shows Entry.modification? w.site.journal calls := by
  refine ⟨(bind_of_ok leased).trans (ensuring_of_run worked released), ?_⟩
  have around := Lease.shows_around (fun _ => Entry.modification?_of_upkeep)
    (fun _ _ => Entry.modification?_of_closing) leased shows
  rwa [released] at around

namespace Facade

/-- The check of the arguments of a change of values. -/
def checkChange (f : Facade σ κ) (change : ValueChange) (oc : ObjectClass) (uid : Uid)
    (delta : AttributeSet) : Except Error Unit := do
  Check.objectClass oc change.operation
  Check.uid uid
  checkDelta change.operation delta f.reserved

/-- How a change of values goes that leads from `w` to `w'`. -/
inductive Changing (f : Facade σ κ) (change : ValueChange) (oc : ObjectClass) (uid : Uid)
    (delta : AttributeSet) (options : Options) (w w' : World σ κ) :
    Except Stop Uid → List Call → Prop
  | refused (e : Error) (checked : f.checkChange change oc uid delta = .error e) (same : w' = w) :
    Changing f change oc uid delta options w w' (.error (.error e)) []
  | unacquired (why : Stop) (valid : f.checkChange change oc uid delta = .ok ())
    (failed : Lease.acquire f.context w = (.error why, w')) :
    Changing f change oc uid delta options w w' (.error why) []
  | served (l : Lease σ κ) (w₁ w₂ : World σ κ) (ended : Except Stop Unit)
    (valid : f.checkChange change oc uid delta = .ok ())
    (leased : Lease.acquire f.context w = (.ok l, w₁)) {result : Except Stop Uid}
    {calls : List Call}
    (worked : World.onSite (l.member.changeValues f.reserved change oc uid delta options) w₁ =
      (result, w₂))
    (changing : l.member.Changing f.reserved change oc uid delta options w₁.site result calls)
    (released : l.release w₂ = (ended, w'))
    (abrupt : ∀ why, ended = .error why → why.abrupt = true) :
    Changing f change oc uid delta options w w' (overriding ended result) calls

variable (f : Facade σ κ) (change : ValueChange) (oc : ObjectClass) (uid : Uid)
  (delta : AttributeSet) (options : Options) (w : World σ κ)

theorem changeValues_eq :
    f.changeValues change oc uid delta options = (do
      Action.ofExcept (f.checkChange change oc uid delta)
      f.context.withInstance fun i => i.changeValues f.reserved change oc uid delta options) := by
  unfold checkChange changeValues
  cases Check.objectClass oc change.operation with
  | error e => rfl
  | ok done =>
    cases Check.uid uid with
    | error e => rfl
    | ok done => rfl

/-- A change of values makes one modification at most: the native call where the instance has it,
and otherwise the replace that follows a search which has succeeded and found the object. With any
other end nothing is modified, and the caller has the error that ended it. -/
theorem changeValues_once :
    ∃ calls,
      f.Changing change oc uid delta options w (f.changeValues change oc uid delta options w).2
        (f.changeValues change oc uid delta options w).1 calls ∧
      (f.changeValues change oc uid delta options w).2.site.Shows Entry.modification? w.site.journal
        calls ∧
      calls.length ≤ 1 := by
  cases checked : f.checkChange change oc uid delta with
  | error e =>
    rw [changeValues_eq, checked]
    exact ⟨[], .refused e checked rfl, w.site.shows_self, by decide⟩
  | ok done =>
    rw [changeValues_eq, checked, bind_of_ok (rfl : Action.ofExcept (.ok done) w = (.ok done, w))]
    cases leased : Lease.acquire f.context w with
    | mk acquired w₁ =>
    cases acquired with
    | error why =>
      rw [Context.withInstance, bind_of_error leased]
      exact ⟨[], .unacquired why checked leased,
        Lease.acquire_shows (fun _ => Entry.modification?_of_upkeep) leased, by decide⟩
    | ok l =>
      obtain ⟨calls, changing, shows⟩ := l.member.changeValues_goes f.reserved change oc uid delta
        options w₁.site
      cases worked : World.onSite
          (l.member.changeValues f.reserved change oc uid delta options) w₁ with
      | mk result w₂ =>
      cases released : l.release w₂ with
      | mk ended w' =>
      obtain ⟨rfl, rfl⟩ := Prod.mk.inj worked
      obtain ⟨told, shown⟩ := Context.withInstance_of_leased
        (x := fun i => i.changeValues f.reserved change oc uid delta options) leased worked released
        shows
      have abrupt : ∀ why, ended = .error why → why.abrupt = true := by
        rintro why rfl
        exact l.release_abrupt.error trivial released
      rw [told]
      exact ⟨calls, .served l w₁ _ ended checked leased worked changing released abrupt, shown,
        changing.length_le⟩

end Facade

def staffMember : ResourceObject where
  objectClass := .account
  uid := ⟨"7"⟩
  attributes := (AttributeSet.ofList [.single "group" (.text "staff")]).insert
    (Uid.toAttribute ⟨"7"⟩)
  carries_uid := AttributeSet.uid?_insert_toAttribute _ _

/-- Searches and replaces one account. -/
def staffScript (flaky : List Capability) : ConnectorScript where
  key := ⟨"staff", "1", "Staff"⟩
  capabilities := [.search, .update]
  flaky := flaky
  objects := [staffMember]

/-- The modifications that come of adding a group to the account. -/
def promotion (flaky : List Capability) : List Call :=
  let f : Facade Resources Filter := ⟨⟨0⟩, ⟨(staffScript flaky).factory 0, {}, none⟩, .standard⟩
  let w : World Resources Filter :=
    { site := { resource := [Resource.ofScript (staffScript flaky)] } }
  (f.changeValues .add .account ⟨"7"⟩ (.ofList [.single "group" (.text "admin")]) {}
    w).2.site.journal.filterMap Entry.modification?

example : promotion [] =
    [.update .account ⟨"7"⟩ (.ofList [⟨"group", [.text "staff", .text "admin"]⟩]) {}] := by
  decide +kernel

-- The account is still found, and then the replace is refused.
example : promotion [.update] = [] := by decide +kernel

end ConnectorHub
