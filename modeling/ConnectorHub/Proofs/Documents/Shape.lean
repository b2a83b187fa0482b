import ConnectorHub.Proofs.Documents.Written
import Mathlib.Data.List.Nodup

namespace ConnectorHub

/-- A field that a record is asked for: its name, what stands for it when it is missing, if that may
be, and what is asked of its document. -/
structure Slot (σ : Type) where
  name : String
  default? : Option Json
  shape : σ

/-- What is asked of a document: nothing that can be told here, an integer from zero up to a bound, a
list of such documents, or a record of such fields. -/
inductive Shape where
  | whole
  | word (bound : Nat)
  | list (items : Shape)
  | record (slots : List (Slot Shape))

namespace Slot

def required (name : String) (shape : Shape) : Slot Shape := ⟨name, none, shape⟩

def optional (name : String) (default : Json) (shape : Shape) : Slot Shape :=
  ⟨name, some default, shape⟩

def flag (name : String) (default : Bool) : Slot Shape := optional name (.bool default) .whole

/-- The document in the field, or else its default. -/
def content (f : Slot Shape) (fields : Fields) : Option Json :=
  (Document.lookup fields f.name).or f.default?

end Slot

namespace Shape

variable {α β : Type} {s : Shape} {d e : Json}

/-- The second document says what the first says. Records may differ in fields that they are not asked
for, and in whether they leave out a default or write it out; within lists and fields likewise. -/
inductive Restates : Shape → Json → Json → Prop where
  | same (s : Shape) (d : Json) : Restates s d d
  | list {items : Shape} {ds es : List Json} (length : ds.length = es.length)
      (restated : ∀ p ∈ ds.zip es, Restates items p.1 p.2) :
      Restates (.list items) (.list ds) (.list es)
  | record {slots : List (Slot Shape)} {xs ys : Fields}
      (present : ∀ f ∈ slots, f.content xs = none ↔ f.content ys = none)
      (restated : ∀ f ∈ slots, ∀ d e, f.content xs = some d → f.content ys = some e →
        Restates f.shape d e) :
      Restates (.record slots) (.object xs) (.object ys)

/-- Somewhere in the document a field is missing that has no default, or the document of a word is not
an integer of its range. -/
inductive Broken : Shape → Json → Prop where
  | word {bound : Nat} {d : Json} (other : ∀ i : Int, 0 ≤ i → i < bound → d ≠ .integer i) :
      Broken (.word bound) d
  | item {items : Shape} {ds : List Json} {d : Json} (mem : d ∈ ds) (broken : Broken items d) :
      Broken (.list items) (.list ds)
  | missing {slots : List (Slot Shape)} {f : Slot Shape} {xs : Fields} (mem : f ∈ slots)
      (missing : f.content xs = none) : Broken (.record slots) (.object xs)
  | field {slots : List (Slot Shape)} {f : Slot Shape} {xs : Fields} {d : Json} (mem : f ∈ slots)
      (content : f.content xs = some d) (broken : Broken f.shape d) :
      Broken (.record slots) (.object xs)

section

variable {slots : List (Slot Shape)} {f : Slot Shape} {xs ys : Fields}

theorem restates_of_content (h : ∀ f ∈ slots, f.content xs = f.content ys) :
    Restates (.record slots) (.object xs) (.object ys) := by
  refine .record (fun f mem => by rw [h f mem]) fun f mem a b here there => ?_
  cases here.symm.trans ((h f mem).trans there)
  exact .same f.shape a

/-- A field that is not asked for may be put in, whatever is in it. -/
theorem restates_unknown {name : String} (unknown : ∀ f ∈ slots, f.name ≠ name) (xs : Fields)
    (d : Json) :
    Restates (.record slots) (.object xs) (.object (Keyed.insert Prod.fst (name, d) xs)) := by
  refine restates_of_content fun f mem => ?_
  rw [Slot.content, Slot.content, Document.lookup_insert, if_neg (unknown f mem).symm]

variable (distinct : (slots.map Slot.name).Nodup) (mem : f ∈ slots)
include distinct mem

/-- A default may be written out where it is missing. -/
theorem restates_default (default : f.default? = some d)
    (missing : Document.lookup xs f.name = none) :
    Restates (.record slots) (.object xs) (.object (Keyed.insert Prod.fst (f.name, d) xs)) := by
  refine restates_of_content fun g hg => ?_
  rw [Slot.content, Slot.content, Document.lookup_insert]
  by_cases named : f.name = g.name
  · rw [if_pos named, ← List.inj_on_of_nodup_map distinct mem hg named, missing, default]
    rfl
  · rw [if_neg named]

/-- What is in a field may be said in another way. -/
theorem restates_inside (given : Document.lookup xs f.name = some d)
    (restated : f.shape.Restates d e) :
    Restates (.record slots) (.object xs) (.object (Keyed.insert Prod.fst (f.name, e) xs)) := by
  have here : f.content xs = some d := by rw [Slot.content, given, Option.some_or]
  have there : f.content (Keyed.insert Prod.fst (f.name, e) xs) = some e := by
    rw [Slot.content, Document.lookup_insert, if_pos rfl, Option.some_or]
  have once {g : Slot Shape} (hg : g ∈ slots) (named : g.name = f.name) : g = f :=
    List.inj_on_of_nodup_map distinct hg mem named
  have other {g : Slot Shape} (named : g.name ≠ f.name) :
      g.content xs = g.content (Keyed.insert Prod.fst (f.name, e) xs) := by
    rw [Slot.content, Slot.content, Document.lookup_insert, if_neg named.symm]
  refine .record (fun g hg => ?_) fun g hg a b ha hb => ?_
  · by_cases named : g.name = f.name
    · rw [once hg named, here, there]
      simp
    · rw [other named]
  · by_cases named : g.name = f.name
    · rw [once hg named] at ha hb ⊢
      cases here.symm.trans ha
      cases there.symm.trans hb
      exact restated
    · cases ha.symm.trans ((other named).trans hb)
      exact .same g.shape a

end

/-- The reader tells no two documents of the shape apart that say the same, and takes none that
breaks it. -/
structure Reads (s : Shape) (read : Json → Option α) : Prop where
  restated {d e : Json} (h : s.Restates d e) : read d = read e
  refused {d : Json} (h : s.Broken d) : read d = none

/-- The same of a reader of a record's fields. -/
structure ReadsSlots (slots : List (Slot Shape)) (read : Fields → Option α) : Prop where
  restated {xs ys : Fields} (h : Restates (.record slots) (.object xs) (.object ys)) :
    read xs = read ys
  refused {xs : Fields} (h : Broken (.record slots) (.object xs)) : read xs = none

/-- The field is read by itself, and as this is asked of it. -/
def ReadsSlot (f : Slot Shape) (read : Fields → Option α) : Prop :=
  ∃ r : Json → Option α, f.shape.Reads r ∧ ∀ xs, read xs = (f.content xs).bind r

theorem reads_whole (read : Json → Option α) : whole.Reads read where
  restated h := by
    cases h
    rfl
  refused h := nomatch h

theorem Reads.map {read : Json → Option α} (h : s.Reads read) (f : α → β) :
    s.Reads fun d => (read d).map f where
  restated same := congrArg (Option.map f) (h.restated same)
  refused broken := congrArg (Option.map f) (h.refused broken)

theorem reads_natBelow? (bound : Nat) : (word bound).Reads (Document.natBelow? bound) where
  restated h := by
    cases h
    rfl
  refused h := by
    obtain ⟨other⟩ := h
    unfold Document.natBelow?
    split
    · next i =>
      rw [if_neg]
      rintro ⟨least, below⟩
      exact other i least below rfl
    · rfl

theorem Reads.mapM_eq {read : Json → Option α} (h : s.Reads read) :
    ∀ {ds es : List Json}, ds.length = es.length → (∀ p ∈ ds.zip es, s.Restates p.1 p.2) →
      ds.mapM read = es.mapM read
  | [], [], _, _ => rfl
  | d :: ds, e :: es, length, restated => by
    have first : read d = read e := h.restated (restated (d, e) (by simp))
    have rest : ds.mapM read = es.mapM read :=
      h.mapM_eq (Nat.succ.inj length) fun p mem => restated p (by simp [mem])
    rw [List.mapM_cons, List.mapM_cons, first, rest]

theorem Reads.mapM_eq_none {read : Json → Option α} (h : s.Reads read) {ds : List Json}
    (mem : d ∈ ds) (broken : s.Broken d) : ds.mapM read = none := by
  induction mem with
  | head ds => rw [List.mapM_cons, h.refused broken, Option.bind_eq_bind, Option.bind_none]
  | @tail c ds mem ih =>
    rw [List.mapM_cons, ih]
    cases read c <;> rfl

theorem Reads.list {read : Json → Option α} (h : s.Reads read) :
    (list s).Reads (Document.list? read) where
  restated same := by
    cases same with
    | same => rfl
    | list length restated => exact h.mapM_eq length restated
  refused broken := by
    cases broken with
    | item mem broken => exact h.mapM_eq_none mem broken

theorem Reads.record {slots : List (Slot Shape)} {read : Fields → Option α}
    (h : ReadsSlots slots read) :
    (record slots).Reads fun d => Document.fields? d >>= read where
  restated same := by
    cases same with
    | same => rfl
    | record present restated => exact h.restated (.record present restated)
  refused broken := by
    cases broken with
    | missing mem missing => exact h.refused (.missing mem missing)
    | field mem content broken => exact h.refused (.field mem content broken)

theorem readsSlots_pure (a : α) : ReadsSlots [] fun _ => pure a where
  restated _ := rfl
  refused broken := by
    cases broken with
    | missing mem => cases mem
    | field mem => cases mem

section

variable {f : Slot Shape} {read : Fields → Option α} {xs ys : Fields} (h : ReadsSlot f read)
include h

theorem ReadsSlot.restated (present : f.content xs = none ↔ f.content ys = none)
    (restated : ∀ d e, f.content xs = some d → f.content ys = some e → f.shape.Restates d e) :
    read xs = read ys := by
  obtain ⟨r, reads, eq⟩ := h
  rw [eq, eq]
  cases here : f.content xs with
  | none => rw [present.mp here]
  | some d =>
    cases there : f.content ys with
    | none => cases here.symm.trans (present.mpr there)
    | some e => exact reads.restated (restated d e here there)

theorem ReadsSlot.eq_none_of_missing (missing : f.content xs = none) : read xs = none := by
  obtain ⟨r, -, eq⟩ := h
  rw [eq, missing, Option.bind_none]

theorem ReadsSlot.eq_none_of_broken (content : f.content xs = some d) (broken : f.shape.Broken d) :
    read xs = none := by
  obtain ⟨r, reads, eq⟩ := h
  rw [eq, content, Option.bind_some, reads.refused broken]

end

/-- A reader that reads one field and then, whatever it holds, the others. -/
theorem ReadsSlot.andThen {f : Slot Shape} {slots : List (Slot Shape)} {first : Fields → Option α}
    {rest : α → Fields → Option β} (h : ReadsSlot f first) (g : ∀ a, ReadsSlots slots (rest a)) :
    ReadsSlots (f :: slots) fun xs => first xs >>= fun a => rest a xs where
  restated {xs ys} same := by
    cases same with
    | same => rfl
    | record present restated =>
      have head : first xs = first ys :=
        h.restated (present f List.mem_cons_self) (restated f List.mem_cons_self)
      have tail (a : α) : rest a xs = rest a ys :=
        (g a).restated (.record (fun k mem => present k (List.mem_cons_of_mem f mem))
          fun k mem => restated k (List.mem_cons_of_mem f mem))
      simp only [head, tail]
  refused {xs} broken := by
    have stop (later : ∀ a, rest a xs = none) : (first xs >>= fun a => rest a xs) = none := by
      cases first xs with
      | none => rfl
      | some a => exact later a
    cases broken with
    | missing mem missing =>
      rcases List.mem_cons.mp mem with rfl | mem
      · rw [h.eq_none_of_missing missing]
        rfl
      · exact stop fun a => (g a).refused (.missing mem missing)
    | field mem content broken =>
      rcases List.mem_cons.mp mem with rfl | mem
      · rw [h.eq_none_of_broken content broken]
        rfl
      · exact stop fun a => (g a).refused (.field mem content broken)

theorem readsSlot_required (name : String) {read : Json → Option α} (h : s.Reads read) :
    ReadsSlot (.required name s) fun xs => Document.required xs name read :=
  ⟨read, h, fun xs => by simp only [Slot.content, Slot.required, Option.or_none, Document.required]⟩

theorem readsSlot_optional (name : String) {default : α} {written : Json}
    {read : Json → Option α} (h : s.Reads read) (standard : read written = some default) :
    ReadsSlot (.optional name written s) fun xs => Document.withDefault xs name default read := by
  refine ⟨read, h, fun xs => ?_⟩
  simp only [Document.withDefault, Slot.content, Slot.optional]
  cases Document.lookup xs name with
  | none => exact standard.symm
  | some j => rfl

theorem readsSlot_flag (name : String) (default : Bool) :
    ReadsSlot (.flag name default) fun xs =>
      Document.withDefault xs name default Document.bool? :=
  readsSlot_optional name (reads_whole _) rfl

end Shape

end ConnectorHub
