import ConnectorHub.Proofs.Attributes.Distinct
import ConnectorHub.Proofs.Hub.Request

namespace ConnectorHub

variable {σ κ ρ α β : Type}

/-- What is required of the arguments of a request. -/
inductive Requirement where
  | notBlank (argument text : String)
  /-- Not the class that stands for every class. -/
  | singleClass (oc : ObjectClass)
  /-- No two attributes of a new object have one name. -/
  | distinct (as : List Attribute)
  /-- No attribute of a new object is its uid. -/
  | withoutUid (as : List Attribute)
  /-- A delta leaves the uid alone. -/
  | sparesUid (delta : AttributeSet)
  /-- A delta of values leaves reserved attributes alone. -/
  | sparesReserved (o : Operation) (reserved : ReservedNames) (delta : AttributeSet)

namespace Requirement

/-- The requirement is not met, and this error says so. -/
def Breaks : Requirement → Error → Prop
  | notBlank argument text, e =>
    (∀ c ∈ text.toList, Text.isWhiteSpace c = true) ∧
      e = .invalidArgument argument "must not be blank"
  | singleClass oc, e =>
    Text.fold oc.name = Text.fold "__ALL__" ∧
      e = .invalidArgument "object_class" "__ALL__ is only accepted by sync operations"
  | distinct as, e => ∃ a, Attribute.FirstRepeat as a ∧ e = .duplicateAttribute a.name
  | withoutUid as, e =>
    (∃ a ∈ as, Text.fold a.name = Text.fold "__UID__") ∧
      e = .invalidAttributeSet "create attributes cannot contain the uid"
  | sparesUid delta, e =>
    (∃ name ∈ delta.names, Text.fold name = Text.fold "__UID__") ∧
      e = .invalidDelta "__UID__" "the uid cannot be part of an update delta"
  | sparesReserved o reserved delta, e =>
    ∃ before name after, delta.names = before ++ name :: after ∧
      (∀ other ∈ before, Text.fold other ∉ reserved.folded) ∧ Text.fold name ∈ reserved.folded ∧
      e = .invalidDelta name ("reserved attribute cannot be used with " ++ o.name)

def Met (c : Requirement) : Prop := ∀ e, ¬c.Breaks e

/-- The error of the first requirement of the list that is not met. -/
def FirstBroken (cs : List Requirement) (e : Error) : Prop :=
  ∃ before c after, cs = before ++ c :: after ∧ (∀ b ∈ before, b.Met) ∧ c.Breaks e

theorem FirstBroken.not_met {cs : List Requirement} {e : Error} (h : FirstBroken cs e) :
    ¬∀ c ∈ cs, c.Met := by
  obtain ⟨before, c, after, rfl, -, broken⟩ := h
  exact fun met => met c (by simp) e broken

/-- What is required of the class of an operation on objects of one class. -/
def ofClass (oc : ObjectClass) : List Requirement :=
  [.notBlank "object_class" oc.name, .singleClass oc]

/-- The result of a check is right for the requirements. -/
def Decides (cs : List Requirement) : Except Error α → Prop
  | .ok _ => ∀ c ∈ cs, c.Met
  | .error e => FirstBroken cs e

variable {cs ds : List Requirement} {c : Requirement} {e : Error}

theorem FirstBroken.append (h : FirstBroken cs e) (ds : List Requirement) :
    FirstBroken (cs ++ ds) e := by
  obtain ⟨before, c, after, rfl, met, broken⟩ := h
  exact ⟨before, c, after ++ ds, by simp, met, broken⟩

theorem FirstBroken.prepend (h : FirstBroken ds e) (met : ∀ c ∈ cs, c.Met) :
    FirstBroken (cs ++ ds) e := by
  obtain ⟨before, c, after, rfl, earlier, broken⟩ := h
  refine ⟨cs ++ before, c, after, by simp, ?_, broken⟩
  intro b hb
  exact (List.mem_append.mp hb).elim (met b) (earlier b)

namespace Decides

theorem of_ok {r : Except Error α} (h : Decides cs r) {a : α} (hr : r = .ok a) :
    ∀ c ∈ cs, c.Met := by
  rw [hr] at h
  exact h

theorem of_error {r : Except Error α} (h : Decides cs r) (hr : r = .error e) :
    FirstBroken cs e := by
  rw [hr] at h
  exact h

theorem passes {r : Except Error α} (h : Decides cs r) (met : ∀ c ∈ cs, c.Met) :
    ∃ a, r = .ok a := by
  cases r with
  | ok a => exact ⟨a, rfl⟩
  | error e => exact absurd met (FirstBroken.not_met h)

theorem met {a : α} (h : c.Met) : Decides [c] (.ok a : Except Error α) := by
  intro d hd
  exact List.mem_singleton.mp hd ▸ h

theorem broken (h : c.Breaks e) : Decides [c] (.error e : Except Error α) :=
  ⟨[], c, [], rfl, by simp, h⟩

theorem bind {r : Except Error α} {f : α → Except Error β} (hr : Decides cs r)
    (hf : ∀ a, r = .ok a → Decides ds (f a)) : Decides (cs ++ ds) (r >>= f) := by
  cases run : r with
  | error e => exact (hr.of_error run).append ds
  | ok a =>
    have first := hr.of_ok run
    have second := hf a run
    change Decides (cs ++ ds) (f a)
    cases later : f a with
    | error e => exact (second.of_error later).prepend first
    | ok b =>
      intro c hc
      exact (List.mem_append.mp hc).elim (first c) (second.of_ok later c)

end Decides

theorem notBlank_decides (argument text : String) :
    Decides [.notBlank argument text] (Check.notBlank argument text) := by
  unfold Check.notBlank
  split
  · next blank => exact .broken ⟨by simpa [Text.isBlank] using blank, rfl⟩
  · next lettered =>
    refine .met fun e broken => ?_
    have blank : Text.isBlank text = true := by simpa [Text.isBlank] using broken.1
    exact lettered blank

theorem script_decides (script : Script) :
    Decides [.notBlank "language" script.language, .notBlank "text" script.text]
      (Check.script script) :=
  (notBlank_decides "language" script.language).bind fun _ _ =>
    notBlank_decides "text" script.text

theorem isAll_iff (oc : ObjectClass) : oc.isAll = true ↔ Text.fold oc.name = Text.fold "__ALL__" :=
  Text.sameName_iff

theorem objectClass_decides (oc : ObjectClass) {o : Operation} (h : o.acceptsAllClasses = false) :
    Decides (ofClass oc) (Check.objectClass oc o) := by
  refine (notBlank_decides "object_class" oc.name).bind fun _ _ => ?_
  rw [h]
  split
  · next all => exact .broken ⟨(isAll_iff oc).mp (by simpa using all), rfl⟩
  · next single =>
    refine .met fun e broken => ?_
    have all : oc.isAll = true := (isAll_iff oc).mpr broken.1
    simp [all] at single

/-- Operations that take every class at once require a name of the class only. -/
theorem anyClass_decides (oc : ObjectClass) {o : Operation} (h : o.acceptsAllClasses = true) :
    Decides [.notBlank "object_class" oc.name] (Check.objectClass oc o) := by
  have whole : Decides ([.notBlank "object_class" oc.name] ++ []) (Check.objectClass oc o) := by
    refine (notBlank_decides "object_class" oc.name).bind fun _ _ => ?_
    simp [h, Decides]
  exact whole

theorem newAttributes_decides (as : List Attribute) :
    Decides [.distinct as, .withoutUid as] (Check.newAttributes as) := by
  have distinct : Decides [.distinct as] (AttributeSet.ofDistinct as) := by
    cases run : AttributeSet.ofDistinct as with
    | error e => exact .broken (AttributeSet.of_ofDistinct_error run)
    | ok s =>
      refine .met fun e broken => ?_
      obtain ⟨a, repeated, -⟩ := broken
      exact repeated.not_distinct (AttributeSet.of_ofDistinct_ok run).2
  refine distinct.bind fun s run => ?_
  obtain ⟨rfl, -⟩ := AttributeSet.of_ofDistinct_ok run
  split
  · next held => exact .broken ⟨(AttributeSet.contains_ofList as _).mp held, rfl⟩
  · next free =>
    refine .met fun e broken => ?_
    exact free ((AttributeSet.contains_ofList as _).mpr broken.1)

theorem eq_ofList_of_newAttributes {as : List Attribute} {s : AttributeSet}
    (h : Check.newAttributes as = .ok s) : s = .ofList as := by
  unfold Check.newAttributes at h
  cases run : AttributeSet.ofDistinct as with
  | error e => simp [run, bind, Except.bind] at h
  | ok t =>
    obtain ⟨made, -⟩ := AttributeSet.of_ofDistinct_ok run
    simp only [run, bind, Except.bind] at h
    split at h
    · cases h
    · exact (Except.ok.inj h).symm.trans made

theorem contains_uid_iff (delta : AttributeSet) :
    delta.contains Attribute.uidName = true ↔
      ∃ name ∈ delta.names, Text.fold name = Text.fold "__UID__" := by
  rw [← AttributeSet.isAmong_names, Text.isAmong_iff]
  exact exists_congr fun name => and_congr_right fun _ => eq_comm

/-- The check of a delta takes its requirements one after the other. -/
theorem checkDelta_eq_bind (o : Operation) (delta : AttributeSet) (reserved : ReservedNames) :
    checkDelta o delta reserved =
      (if delta.contains Attribute.uidName then
        .error (.invalidDelta Attribute.uidName "the uid cannot be part of an update delta")
        else .ok () : Except Error Unit) >>= fun _ =>
      if o.changesValues then
        match delta.names.find? reserved.contains with
        | some name =>
          .error (.invalidDelta name ("reserved attribute cannot be used with " ++ o.name))
        | none => .ok ()
      else .ok () := by
  unfold checkDelta
  split <;> rfl

theorem sparesUid_decides (delta : AttributeSet) :
    Decides [.sparesUid delta]
      (if delta.contains Attribute.uidName then
        .error (.invalidDelta Attribute.uidName "the uid cannot be part of an update delta")
        else .ok () : Except Error Unit) := by
  split
  · next held => exact .broken ⟨(contains_uid_iff delta).mp held, rfl⟩
  · next free =>
    refine .met fun e broken => ?_
    exact free ((contains_uid_iff delta).mpr broken.1)

theorem sparesReserved_decides (o : Operation) (reserved : ReservedNames) (delta : AttributeSet) :
    Decides [.sparesReserved o reserved delta]
      (match delta.names.find? reserved.contains with
        | some name =>
          .error (.invalidDelta name ("reserved attribute cannot be used with " ++ o.name))
        | none => .ok () : Except Error Unit) := by
  have reserved_iff (name : String) :
      reserved.contains name = true ↔ Text.fold name ∈ reserved.folded := List.contains_iff_mem
  cases first : delta.names.find? reserved.contains with
  | some name =>
    obtain ⟨taken, before, after, names, earlier⟩ := List.find?_eq_some_iff_append.mp first
    refine .broken ⟨before, name, after, names, ?_, (reserved_iff name).mp taken, rfl⟩
    intro other ho taken
    have free := earlier other ho
    simp [(reserved_iff other).mpr taken] at free
  | none =>
    refine .met fun e broken => ?_
    obtain ⟨before, name, after, names, -, taken, -⟩ := broken
    have mem : name ∈ delta.names := by simp [names]
    exact List.find?_eq_none.mp first name mem ((reserved_iff name).mpr taken)

theorem replacement_decides {o : Operation} (delta : AttributeSet) (reserved : ReservedNames)
    (h : o.changesValues = false) :
    Decides ([.sparesUid delta] ++ []) (checkDelta o delta reserved) := by
  rw [checkDelta_eq_bind]
  refine (sparesUid_decides delta).bind fun _ _ => ?_
  simp [h, Decides]

theorem valueChange_decides {o : Operation} (delta : AttributeSet) (reserved : ReservedNames)
    (h : o.changesValues = true) :
    Decides ([.sparesUid delta] ++ [.sparesReserved o reserved delta])
      (checkDelta o delta reserved) := by
  rw [checkDelta_eq_bind]
  refine (sparesUid_decides delta).bind fun _ _ => ?_
  rw [if_pos h]
  exact sparesReserved_decides o reserved delta

end Requirement

/-- All that is required of the arguments of a request, in the order of its checks. -/
def Request.requirements (reserved : ReservedNames) : Request ρ → List Requirement
  | .create oc as _ => Requirement.ofClass oc ++ [.distinct as, .withoutUid as]
  | .delete oc uid _ | .getObject oc uid _ => Requirement.ofClass oc ++ [.notBlank "uid" uid.value]
  | .update oc uid delta _ =>
    Requirement.ofClass oc ++ [.notBlank "uid" uid.value, .sparesUid delta]
  | .changeValues change oc uid delta _ =>
    Requirement.ofClass oc ++
      [.notBlank "uid" uid.value, .sparesUid delta,
        .sparesReserved change.operation reserved delta]
  | .search oc .. => Requirement.ofClass oc
  | .sync oc .. | .latestToken oc => [.notBlank "object_class" oc.name]
  | .authenticate oc username .. | .resolveUsername oc username _ =>
    Requirement.ofClass oc ++ [.notBlank "username" username]
  | .scriptOnConnector script _ | .scriptOnResource script _ =>
    [.notBlank "language" script.language, .notBlank "text" script.text]
  | .schema | .test | .capabilities => []

namespace Context

/-- The call begins with asking for an instance, on which all its work is done. -/
def Attempts (c : Context σ κ) (x : Action (World σ κ × ρ) α) : Prop :=
  ∃ work, x = c.feedingFrom work

/-- The call ends at once with the error of the first requirement that is not met, or all are met and
it asks for an instance. -/
def Admits (c : Context σ κ) (cs : List Requirement) (x : Action (World σ κ × ρ) α) : Prop :=
  (∃ e, Requirement.FirstBroken cs e ∧ x = Action.fail e) ∨ (∀ r ∈ cs, r.Met) ∧ c.Attempts x

/-- The call ends at once with the error of the first requirement that is not met, or all are met and
it does this work on an instance that it asks for. -/
def Performs (c : Context σ κ) (cs : List Requirement)
    (work : Instance σ κ → Action (Site σ κ × ρ) α) (x : Action (World σ κ × ρ) α) : Prop :=
  (∃ e, Requirement.FirstBroken cs e ∧ x = Action.fail e) ∨
    (∀ r ∈ cs, r.Met) ∧ x = c.feedingFrom work

variable {c : Context σ κ} {cs ds : List Requirement}
  {work : Instance σ κ → Action (Site σ κ × ρ) α}

theorem Performs.admits {x : Action (World σ κ × ρ) α} (h : c.Performs cs work x) :
    c.Admits cs x :=
  h.imp_right (And.imp_right fun whole => ⟨work, whole⟩)

theorem Performs.of_met {x : Action (World σ κ × ρ) α} (met : ∀ r ∈ cs, r.Met)
    (h : c.Performs ds work x) : c.Performs (cs ++ ds) work x := by
  obtain ⟨e, first, failed⟩ | ⟨rest, whole⟩ := h
  · exact .inl ⟨e, first.prepend met, failed⟩
  · refine .inr ⟨fun r hr => ?_, whole⟩
    exact (List.mem_append.mp hr).elim (met r) (rest r)

theorem Performs.check {r : Except Error β} {f : β → Action (World σ κ × ρ) α}
    (decides : Requirement.Decides cs r) (h : ∀ a, c.Performs ds work (f a)) :
    c.Performs (cs ++ ds) work (Action.ofExcept r >>= f) := by
  cases r with
  | ok a => exact (h a).of_met decides
  | error e => exact .inl ⟨e, decides.append ds, rfl⟩

/-- The work may make use of what the check has made. -/
theorem Performs.checkFirst {r : Except Error β} {f : β → Action (World σ κ) α}
    (decides : Requirement.Decides cs r)
    (h : ∀ a, r = .ok a → c.Performs ds work (Action.onFirst (f a))) :
    c.Performs (cs ++ ds) work (Action.onFirst (Action.ofExcept r >>= f)) := by
  cases r with
  | ok a => exact (h a rfl).of_met decides
  | error e => exact .inl ⟨e, decides.append ds, rfl⟩

theorem performs_withInstance (c : Context σ κ) (work : Instance σ κ → Action (Site σ κ) α) :
    c.Performs (ρ := ρ) [] (fun i => Action.onFirst (work i)) (Action.onFirst (c.withInstance work)) :=
  .inr ⟨by simp, c.onFirst_withInstance work⟩

theorem performs_feedingFrom (c : Context σ κ) (work : Instance σ κ → Action (Site σ κ × ρ) α) :
    c.Performs [] work (c.feedingFrom work) :=
  .inr ⟨by simp, rfl⟩

end Context

namespace Facade

open Context Requirement

variable (f : Facade σ κ)

/-- One object of one class is asked for by a text that must not be blank. -/
theorem performs_named {oc : ObjectClass} {o : Operation} (single : o.acceptsAllClasses = false)
    (argument text : String) (work : Instance σ κ → Action (Site σ κ) α) :
    f.context.Performs (ρ := ρ) (ofClass oc ++ [.notBlank argument text])
      (fun i => Action.onFirst (work i))
      (Action.onFirst (do
        Action.ofExcept (Check.objectClass oc o)
        Action.ofExcept (Check.notBlank argument text)
        f.context.withInstance work)) :=
  Performs.checkFirst (objectClass_decides oc single) fun _ _ =>
    Performs.checkFirst (notBlank_decides argument text) fun _ _ => performs_withInstance _ work

theorem performs (x : Request ρ) :
    f.context.Performs (x.requirements f.reserved) (fun i => x.work f.reserved i) (f.perform x) := by
  cases x with
  | create oc as options =>
    refine Performs.checkFirst (objectClass_decides oc rfl) fun _ _ => ?_
    refine Performs.checkFirst (newAttributes_decides as) fun s run => ?_
    obtain rfl := eq_ofList_of_newAttributes run
    exact performs_withInstance _ _
  | delete oc uid options => exact f.performs_named rfl "uid" uid.value _
  | update oc uid delta options =>
    refine Performs.checkFirst (objectClass_decides oc rfl) fun _ _ => ?_
    refine Performs.checkFirst (notBlank_decides "uid" uid.value) fun _ _ => ?_
    exact Performs.checkFirst (replacement_decides delta f.reserved rfl) fun _ _ =>
      performs_withInstance _ _
  | changeValues change oc uid delta options =>
    have single : change.operation.acceptsAllClasses = false := by cases change <;> rfl
    have values : change.operation.changesValues = true := by cases change <;> rfl
    refine Performs.checkFirst (objectClass_decides oc single) fun _ _ => ?_
    refine Performs.checkFirst (notBlank_decides "uid" uid.value) fun _ _ => ?_
    exact Performs.checkFirst (valueChange_decides delta f.reserved values) fun _ _ =>
      performs_withInstance _ _
  | search oc filter h options =>
    have whole := Performs.check (objectClass_decides (o := .search) oc rfl) fun _ =>
      f.context.performs_feedingFrom fun i => i.search oc filter h options
    rw [List.append_nil] at whole
    exact whole
  | getObject oc uid options => exact f.performs_named rfl "uid" uid.value _
  | sync oc token h options =>
    exact Performs.check (anyClass_decides oc rfl) fun _ => performs_feedingFrom _ _
  | latestToken oc =>
    exact Performs.checkFirst (anyClass_decides oc rfl) fun _ _ => performs_withInstance _ _
  | schema => exact performs_withInstance _ _
  | test => exact performs_withInstance _ _
  | authenticate oc username password options => exact f.performs_named rfl "username" username _
  | resolveUsername oc username options => exact f.performs_named rfl "username" username _
  | scriptOnConnector script options =>
    exact Performs.checkFirst (script_decides script) fun _ _ => performs_withInstance _ _
  | scriptOnResource script options =>
    exact Performs.checkFirst (script_decides script) fun _ _ => performs_withInstance _ _
  | capabilities => exact performs_withInstance _ _

theorem admits (x : Request ρ) : f.context.Admits (x.requirements f.reserved) (f.perform x) :=
  (f.performs x).admits

/-- A request with an argument that is not as required has the error of the first such, and the
world and what the caller keeps are as before; every other request asks for an instance. -/
theorem refused_or_attempts (x : Request ρ) :
    (∃ e, FirstBroken (x.requirements f.reserved) e ∧
        ∀ w r, f.perform x (w, r) = (.error (.error e), (w, r))) ∨
      (∀ c ∈ x.requirements f.reserved, c.Met) ∧ f.context.Attempts (f.perform x) := by
  obtain ⟨e, first, failed⟩ | attempts := f.admits x
  · refine .inl ⟨e, first, fun w r => ?_⟩
    rw [failed]
    rfl
  · exact .inr attempts

end Facade

end ConnectorHub
