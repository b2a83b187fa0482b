import ConnectorHub.Proofs.Filter.Respelling
import ConnectorHub.Proofs.Update.Merge

namespace ConnectorHub

open Attribute (values)

namespace AttributeSet

variable {s t : AttributeSet}

theorem contains_iff_names {name : String} :
    s.contains name = true ↔ ∃ other ∈ s.names, Text.fold other = Text.fold name := by
  rw [← isAmong_names, Text.isAmong_iff]
  exact exists_congr fun _ => and_congr_right fun _ => eq_comm

end AttributeSet

namespace ValueChange

variable {o p : ResourceObject} {d e : AttributeSet}

theorem mergeOne_respelled (c : ValueChange) (h : o.attributes.Respelled p.attributes)
    {a b : Attribute} (same : a.Respelled b) :
    (c.mergeOne o a).map values = (c.mergeOne p b).map values := by
  obtain ⟨here, there⟩ | ⟨x, y, here, there, alike⟩ :=
    ResourceObject.find_respelled h same.key
  · rw [c.mergeOne_of_absent here, c.mergeOne_of_absent there]
    cases c with
    | add => exact congrArg some same.values
    | remove => rfl
  · rw [c.mergeOne_of_present here, c.mergeOne_of_present there]
    cases c <;> simp [alike.values, same.values]

theorem merge_respelled (c : ValueChange) (h : o.attributes.Respelled p.attributes)
    (deltas : d.Respelled e) : (c.merge o d).Respelled (c.merge p e) := by
  refine AttributeSet.respelled_of_get? fun name => ?_
  rw [get?_merge, get?_merge]
  obtain ⟨here, there⟩ | ⟨a, b, here, there, alike⟩ := deltas.find (Eq.refl (Text.fold name))
  · rw [here, there]
    rfl
  · rw [here, there]
    exact c.mergeOne_respelled h alike

end ValueChange

/-- The error of a delta: that of the uid, or else that of its first name that is reserved. -/
inductive Operation.Refuses (op : Operation) (reserved : List String) (d : AttributeSet) :
    Error → Prop where
  | uid (held : ∃ name ∈ d.names, Text.fold name = Text.fold "__UID__") :
      op.Refuses reserved d (.invalidDelta "__UID__" "the uid cannot be part of an update delta")
  | reserved {before after : List String} {name : String}
      (changes : op = .addAttributeValues ∨ op = .removeAttributeValues)
      (noUid : ∀ other ∈ d.names, Text.fold other ≠ Text.fold "__UID__")
      (split : d.names = before ++ name :: after)
      (free : ∀ other ∈ before, Text.isAmong other reserved = false)
      (taken : Text.isAmong name reserved = true) :
      op.Refuses reserved d
        (.invalidDelta name ("reserved attribute cannot be used with " ++ op.name))

theorem ReservedNames.contains_ofList (reserved : List String) :
    (ofList reserved).contains = fun name => Text.isAmong name reserved := by
  funext name
  exact (Text.isAmong_eq_contains name reserved).symm

theorem Operation.changesValues_iff {op : Operation} :
    op.changesValues = true ↔ op = .addAttributeValues ∨ op = .removeAttributeValues := by
  simp [changesValues]

section

variable {op : Operation} {d e : AttributeSet} {reserved forbidden : List String}

theorem checkDelta_eq_error_iff {error : Error} :
    checkDelta op d (.ofList reserved) = .error error ↔ op.Refuses reserved d error := by
  rw [checkDelta, ReservedNames.contains_ofList]
  split
  · next held =>
    have uid := AttributeSet.contains_iff_names.mp held
    refine ⟨fun failed => ?_, fun refused => ?_⟩
    · cases failed
      exact .uid uid
    · cases refused with
      | uid => rfl
      | reserved _ noUid =>
        obtain ⟨name, mem, same⟩ := uid
        exact absurd same (noUid name mem)
  next free =>
  have noUid : ∀ name ∈ d.names, Text.fold name ≠ Text.fold "__UID__" := fun name mem same =>
    free (AttributeSet.contains_iff_names.mpr ⟨name, mem, same⟩)
  split
  · next changes =>
    refine ⟨fun failed => ?_, fun refused => ?_⟩
    · split at failed
      · next name first =>
        obtain ⟨taken, before, after, split, earlier⟩ := List.find?_eq_some_iff_append.mp first
        cases failed
        exact .reserved (Operation.changesValues_iff.mp changes) noUid split
          (fun other mem => by simpa using earlier other mem) taken
      · cases failed
    · cases refused with
      | uid held =>
        obtain ⟨name, mem, same⟩ := held
        exact absurd same (noUid name mem)
      | @reserved before after name _ _ split earlier taken =>
        have first : d.names.find? (fun name => Text.isAmong name reserved) = some name :=
          List.find?_eq_some_iff_append.mpr
            ⟨taken, before, after, split, fun other mem => by rw [earlier other mem]; rfl⟩
        rw [first]
  · next keeps =>
    refine ⟨nofun, fun refused => ?_⟩
    cases refused with
    | uid held =>
      obtain ⟨name, mem, same⟩ := held
      exact absurd same (noUid name mem)
    | reserved changes => exact absurd (Operation.changesValues_iff.mpr changes) keeps

theorem find?_reserved_eq_none_iff :
    d.names.find? (fun name => Text.isAmong name reserved) = none ↔
      ∀ other ∈ reserved, d.contains other = false := by
  simp only [List.find?_eq_none, Text.isAmong_iff, ← Bool.not_eq_true,
    AttributeSet.contains_iff_names]
  exact ⟨fun free other ho ⟨name, mem, same⟩ => free name mem ⟨other, ho, same⟩,
    fun free name mem ⟨other, ho, same⟩ => free other ho ⟨name, mem, same⟩⟩

theorem checkDelta_eq_ok_iff :
    checkDelta op d (.ofList reserved) = .ok () ↔
      d.contains Attribute.uidName = false ∧
        (op.changesValues = true → ∀ other ∈ reserved, d.contains other = false) := by
  rw [checkDelta, ReservedNames.contains_ofList]
  split
  · next held => simp [held]
  next free =>
  rw [← find?_reserved_eq_none_iff, and_iff_right (Bool.eq_false_iff.mpr free)]
  split
  · next changes =>
    rw [imp_iff_right changes]
    split
    · next taken => simp [taken]
    · next none => simp [none]
  · next keeps => simp [keeps]

theorem checkDelta_rejects_iff :
    (∃ error, checkDelta op d (.ofList reserved) = .error error) ↔
      (∃ name ∈ d.names, Text.fold name = Text.fold "__UID__") ∨
        (op = .addAttributeValues ∨ op = .removeAttributeValues) ∧
          ∃ name ∈ d.names, ∃ other ∈ reserved, Text.fold name = Text.fold other := by
  have rejects : (∃ error, checkDelta op d (.ofList reserved) = .error error) ↔
      ¬checkDelta op d (.ofList reserved) = .ok () := by
    cases checkDelta op d (.ofList reserved) <;> simp
  have carries : (∃ name ∈ d.names, Text.fold name = Text.fold "__UID__") ↔
      d.contains Attribute.uidName = true := AttributeSet.contains_iff_names.symm
  have offends : (∃ name ∈ d.names, ∃ other ∈ reserved, Text.fold name = Text.fold other) ↔
      ∃ other ∈ reserved, d.contains other = true := by
    simp only [AttributeSet.contains_iff_names]
    exact ⟨fun ⟨name, mem, other, ho, same⟩ => ⟨other, ho, name, mem, same⟩,
      fun ⟨other, ho, name, mem, same⟩ => ⟨name, mem, other, ho, same⟩⟩
  rw [rejects, carries, offends, checkDelta_eq_ok_iff, ← Operation.changesValues_iff]
  simp only [not_and_or, Classical.not_imp, not_forall, Bool.not_eq_false]

theorem checkDelta_respelled (deltas : d.Respelled e)
    (kept : reserved.map Text.fold = forbidden.map Text.fold) :
    checkDelta op d (.ofList reserved) = .ok () ↔ checkDelta op e (.ofList forbidden) = .ok () := by
  have same : ReservedNames.ofList reserved = .ofList forbidden := congrArg ReservedNames.mk kept
  rw [same, checkDelta_eq_ok_iff, checkDelta_eq_ok_iff]
  simp only [deltas.contains]

end

/-- Names may be spelled one way on one side and another way on the other: neither what a filter
accepts, nor what a projection and a change of values leave under each name, nor whether a delta is
accepted depends on it. A delta is refused for the uid or, if single values change, for the first of
its names that is reserved, in whatever case these are. -/
theorem respelling_unseen {o p : ResourceObject} {f g : Filter} {d e : AttributeSet}
    {names others reserved forbidden : List String}
    (objects : o.attributes.Respelled p.attributes) (filters : f.Respelled g)
    (asked : names.map Text.fold = others.map Text.fold) (deltas : d.Respelled e)
    (kept : reserved.map Text.fold = forbidden.map Text.fold) :
    f.accepts o = g.accepts p ∧
      (o.project names).attributes.Respelled (p.project others).attributes ∧
      (∀ (c : ValueChange) (name : String),
        ((c.merge o d).get? name).map values = ((c.merge p e).get? name).map values) ∧
      ∀ op : Operation,
        (checkDelta op d (.ofList reserved) = .ok () ↔
          checkDelta op e (.ofList forbidden) = .ok ()) ∧
        ((∃ error, checkDelta op d (.ofList reserved) = .error error) ↔
          (∃ name ∈ d.names, Text.fold name = Text.fold "__UID__") ∨
            (op = .addAttributeValues ∨ op = .removeAttributeValues) ∧
              ∃ name ∈ d.names, ∃ other ∈ reserved, Text.fold name = Text.fold other) ∧
        ∀ error, checkDelta op d (.ofList reserved) = .error error ↔
          op.Refuses reserved d error :=
  ⟨Filter.accepts_respelled objects filters, ResourceObject.project_respelled objects asked,
    fun c name => (c.merge_respelled objects deltas).get? name,
    fun _ => ⟨checkDelta_respelled deltas kept, checkDelta_rejects_iff,
      fun _ => checkDelta_eq_error_iff⟩⟩

/-- A member of a team, its attributes under these names. -/
def memberNamed (uid mail team : String) : AttributeSet :=
  .ofList [⟨uid, [.text "7"]⟩, ⟨mail, [.text "ann@example.com"]⟩, ⟨team, [.integer 1]⟩]

def quietMember : ResourceObject where
  objectClass := .account
  uid := ⟨"7"⟩
  attributes := memberNamed "__uid__" "mail" "Team"
  carries_uid := by decide +kernel

def loudMember : ResourceObject where
  objectClass := .account
  uid := ⟨"7"⟩
  attributes := memberNamed "__UID__" "MAIL" "TEAM"
  carries_uid := by decide +kernel

def outsideTeam (team : String) : Filter := .not (.value .equals team (.integer 2))

/-- A change of teams and of the password at once. -/
def teamChange (team password : String) : AttributeSet :=
  .ofList [⟨team, [.integer 3]⟩, ⟨password, [.text "sesame"]⟩]

/-- The password stays reserved in any case, and the error has the delta's own spelling of it. -/
theorem member_respelling_unseen :
    quietMember.attributes.Respelled loudMember.attributes ∧
      (outsideTeam "TEAM").Respelled (outsideTeam "team") ∧
      ["MAIL"].map Text.fold = ["Mail"].map Text.fold ∧
      (teamChange "team" "__password__").Respelled (teamChange "Team" "__PASSWORD__") ∧
      ["__Password__"].map Text.fold = ["__PASSWORD__"].map Text.fold ∧
      (outsideTeam "TEAM").accepts quietMember = (outsideTeam "team").accepts loudMember ∧
      (outsideTeam "team").accepts loudMember = true ∧
      (quietMember.project ["MAIL"]).attributes.Respelled
        (loudMember.project ["Mail"]).attributes ∧
      (quietMember.project ["MAIL"]).attributes.names = ["__UID__", "mail"] ∧
      checkDelta .removeAttributeValues (teamChange "team" "__password__")
          (.ofList ["__Password__"]) =
        .error (.invalidDelta "__password__"
          ("reserved attribute cannot be used with " ++ Operation.removeAttributeValues.name)) := by
  have objects : quietMember.attributes.Respelled loudMember.attributes :=
    AttributeSet.respelled_ofList
      (.cons ⟨by decide, rfl⟩ (.cons ⟨by decide, rfl⟩ (.cons ⟨by decide, rfl⟩ .nil)))
  have filters : (outsideTeam "TEAM").Respelled (outsideTeam "team") :=
    .not (.compare .equals ⟨by decide, rfl⟩)
  have asked : ["MAIL"].map Text.fold = ["Mail"].map Text.fold := by decide
  have deltas : (teamChange "team" "__password__").Respelled (teamChange "Team" "__PASSWORD__") :=
    AttributeSet.respelled_ofList (.cons ⟨by decide, rfl⟩ (.cons ⟨by decide, rfl⟩ .nil))
  have kept : ["__Password__"].map Text.fold = ["__PASSWORD__"].map Text.fold := by decide
  obtain ⟨accepted, projected, -, checked⟩ :=
    respelling_unseen objects filters asked deltas kept
  have first : (teamChange "team" "__password__").names = [] ++ "__password__" :: ["team"] := by
    decide +kernel
  have refused : Operation.removeAttributeValues.Refuses ["__Password__"]
      (teamChange "team" "__password__") _ :=
    .reserved (.inr rfl) (by decide +kernel) first (by decide) (by decide +kernel)
  exact ⟨objects, filters, asked, deltas, kept, accepted, by decide +kernel, projected,
    by decide +kernel, ((checked .removeAttributeValues).2.2 _).mpr refused⟩

end ConnectorHub
