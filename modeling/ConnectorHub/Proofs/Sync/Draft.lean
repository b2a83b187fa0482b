import ConnectorHub.Proofs.Sync.Deliver
import Mathlib.Data.List.Induction

namespace ConnectorHub

/-- One step of making a delta. -/
inductive DraftStep where
  | uid (u : Uid)
  | previousUid (u : Uid)
  | objectClass (oc : ObjectClass)
  | object (o : ResourceObject)

namespace DraftStep

variable {α : Type}

def uid? : DraftStep → Option Uid
  | uid u => some u
  | object o => some o.uid
  | _ => none

def previousUid? : DraftStep → Option Uid
  | previousUid u => some u
  | _ => none

def objectClass? : DraftStep → Option ObjectClass
  | objectClass oc => some oc
  | object o => some o.objectClass
  | _ => none

def object? : DraftStep → Option ResourceObject
  | object o => some o
  | _ => none

/-- What is said last about one part. -/
def last? (part : DraftStep → Option α) (steps : List DraftStep) : Option α :=
  steps.reverse.findSome? part

theorem last?_concat (part : DraftStep → Option α) (steps : List DraftStep) (s : DraftStep) :
    last? part (steps ++ [s]) = (part s).or (last? part steps) := by
  rw [last?, List.reverse_append, List.reverse_singleton, List.singleton_append,
    List.findSome?_cons]
  cases part s <;> rfl

end DraftStep

namespace DeltaDraft

open DraftStep (last?)

def take (d : DeltaDraft) : DraftStep → DeltaDraft
  | .uid u => { d with uid := some u }
  | .previousUid u => { d with previousUid := some u }
  | .objectClass oc => { d with objectClass := some oc }
  | .object o => d.withObject o

def ofSteps (token : Json) (type : DeltaType) (steps : List DraftStep) : DeltaDraft :=
  steps.foldl take { token := token, type := type }

theorem ofSteps_eq (token : Json) (type : DeltaType) (steps : List DraftStep) :
    ofSteps token type steps =
      ⟨token, type, last? DraftStep.previousUid? steps, last? DraftStep.objectClass? steps,
        last? DraftStep.uid? steps, last? DraftStep.object? steps⟩ := by
  induction steps using List.reverseRecOn with
  | nil => rfl
  | append_singleton steps s ih =>
    have taken : ofSteps token type (steps ++ [s]) = (ofSteps token type steps).take s :=
      List.foldl_concat ..
    rw [taken, ih]
    simp only [DraftStep.last?_concat]
    cases s <;> rfl

end DeltaDraft

namespace SyncDelta

/-- An object is there unless a deletion is reported, a deletion has no earlier uid, and the uid is
the object's. -/
structure Fitting (type : DeltaType) (previousUid : Option Uid) (uid : Uid)
    (object : Option ResourceObject) : Prop where
  present : object.isSome ↔ type ≠ .delete
  unmoved : type = .delete → previousUid = none
  same : ∀ o, object = some o → o.uid = uid

theorem fitting_iff {type : DeltaType} {previousUid : Option Uid} {uid : Uid}
    {object : Option ResourceObject} :
    Fitting type previousUid uid object ↔ Consistent type previousUid uid object := by
  have carries : object.isSome = type.carriesObject ↔ (object.isSome ↔ type ≠ .delete) := by
    rw [Bool.eq_iff_iff, DeltaType.carriesObject, bne_iff_ne]
  constructor
  · intro h
    exact ⟨carries.mpr h.present, h.unmoved, h.same⟩
  · rintro ⟨present, unmoved, same⟩
    exact ⟨carries.mp present, unmoved, same⟩

def Fits (d : SyncDelta) : Prop := Fitting d.type d.previousUid d.uid d.object

theorem fits (d : SyncDelta) : d.Fits := fitting_iff.mpr d.consistent

end SyncDelta

namespace DeltaDraft

open DraftStep (last?)

/-- A delta of all the parts of a draft. -/
structure Becomes (d : DeltaDraft) (made : SyncDelta) : Prop where
  token : made.token = d.token
  type : made.type = d.type
  previousUid : made.previousUid = d.previousUid
  objectClass : made.objectClass = d.objectClass
  uid : d.uid = some made.uid
  object : made.object = d.object

/-- A draft becomes a delta if it has a uid and its parts fit, and fails otherwise. -/
theorem build_cases (d : DeltaDraft) :
    (∃ made, d.build = .ok made ∧ d.Becomes made) ∨
      (∃ e, d.build = .error e) ∧
        ¬∃ uid, d.uid = some uid ∧ SyncDelta.Fitting d.type d.previousUid uid d.object := by
  unfold build
  split
  · next absent => exact .inr ⟨⟨_, rfl⟩, fun ⟨uid, held, _⟩ => by simp [absent] at held⟩
  next uid held =>
  have only (u : Uid) (hu : d.uid = some u) : u = uid := Option.some.inj (hu.symm.trans held)
  split
  · next carried =>
    split
    · next plain =>
      unfold matchUid
      split
      · exact .inl ⟨_, rfl, rfl, rfl, rfl, rfl, held, rfl⟩
      · next other =>
        refine .inr ⟨⟨_, rfl⟩, fun ⟨u, hu, fits⟩ => other ?_⟩
        exact only u hu ▸ fits.same
    · next earlier => exact .inr ⟨⟨_, rfl⟩, fun ⟨_, _, fits⟩ => earlier fits.unmoved⟩
  · next mismatch =>
    refine .inr ⟨?_, fun ⟨_, _, fits⟩ => mismatch (SyncDelta.fitting_iff.mp fits).1⟩
    split <;> exact ⟨_, rfl⟩

end DeltaDraft

namespace SyncDelta

variable {d d' d'' : SyncDelta}

/-- The second delta reports the change that the first one does. -/
structure Relayed (d d' : SyncDelta) : Prop where
  token : d'.token = d.token
  type : d'.type = d.type
  previousUid : d'.previousUid = d.previousUid
  deleted : d.type = .delete → d' = d

theorem Relayed.refl (d : SyncDelta) : d.Relayed d := ⟨rfl, rfl, rfl, fun _ => rfl⟩

theorem Relayed.trans (h : d.Relayed d') (h' : d'.Relayed d'') : d.Relayed d'' where
  token := h'.token.trans h.token
  type := h'.type.trans h.type
  previousUid := h'.previousUid.trans h.previousUid
  deleted gone := (h'.deleted (h.type.trans gone)).trans (h.deleted gone)

theorem mapObject_of_none (f : ResourceObject → ResourceObject) (h : d.object = none) :
    d.mapObject f = d := by
  unfold mapObject
  split
  · rfl
  · next o held => simp [h] at held

theorem relayed_mapObject (f : ResourceObject → ResourceObject) (d : SyncDelta) :
    d.Relayed (d.mapObject f) := by
  cases held : d.object with
  | none =>
    rw [mapObject_of_none f held]
    exact .refl d
  | some o =>
    have kept : d.type ≠ .delete := d.fits.present.mp (by simp [held])
    unfold mapObject
    split
    · exact .refl d
    · exact ⟨rfl, rfl, rfl, fun gone => absurd gone kept⟩

theorem relayed_stage (s : DeltaStage) (d : SyncDelta) : d.Relayed (s.apply d) := by
  match s with
  | .normalize n =>
    rw [DeltaStage.apply, Normalizer.onDelta]
    split
    · exact relayed_mapObject _ d
    · exact .refl d
  | .project none => exact .refl d
  | .project (some names) => exact relayed_mapObject _ d

/-- What may become of a delta after its making. -/
inductive Change where
  | mapObject (f : ResourceObject → ResourceObject)
  | stage (s : DeltaStage)

def Change.apply : Change → SyncDelta → SyncDelta
  | mapObject f, d => d.mapObject f
  | stage s, d => s.apply d

def Change.applyAll (changes : List Change) (d : SyncDelta) : SyncDelta :=
  changes.foldl (fun d c => c.apply d) d

theorem relayed_change (c : Change) (d : SyncDelta) : d.Relayed (c.apply d) := by
  cases c with
  | mapObject f => exact relayed_mapObject f d
  | stage s => exact relayed_stage s d

theorem relayed_applyAll (changes : List Change) (d : SyncDelta) :
    d.Relayed (Change.applyAll changes d) := by
  induction changes generalizing d with
  | nil => exact .refl d
  | cons c rest ih => exact (relayed_change c d).trans (ih (c.apply d))

end SyncDelta

end ConnectorHub
