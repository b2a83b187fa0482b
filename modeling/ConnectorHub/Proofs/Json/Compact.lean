import Mathlib
import ConnectorHub.Json.Printer
import ConnectorHub.Json.Reader

namespace ConnectorHub.Json

theorem nat?_digits : ∀ n < 32, ∃ a b c d, Hex.digits 4 n = [a, b, c, d] ∧
    Hex.nat? [a, b, c, d] = some n := by
  intro n small
  have four : (Hex.digits 4 n).length = 4 ∧ Hex.nat? (Hex.digits 4 n) = some n := by
    revert n
    decide
  obtain ⟨length, value⟩ := four
  match digits : Hex.digits 4 n, length with
  | [a, b, c, d], _ => exact ⟨a, b, c, d, rfl, digits ▸ value⟩

theorem readText_escaped (fuel : Nat) (done : List Char) (c : Char) (xs : List Char) :
    readText (fuel + 1) done (escaped c ++ xs) = readText fuel (c :: done) xs := by
  unfold escaped
  split
  · next h => subst h; rfl
  split
  · next h => subst h; rfl
  split
  · next h =>
    obtain rfl : c = '\x08' := Char.toNat_inj.mp h
    rfl
  split
  · next h =>
    obtain rfl : c = '\x0c' := Char.toNat_inj.mp h
    rfl
  split
  · next h => subst h; rfl
  split
  · next h => subst h; rfl
  split
  · next h => subst h; rfl
  split
  · next control =>
    obtain ⟨h₁, h₂, h₃, h₄, digits, value⟩ := nat?_digits c.toNat control
    have low : ¬(0xD800 ≤ c.toNat ∧ c.toNat < 0xDC00) := by omega
    have low' : ¬(0xDC00 ≤ c.toNat ∧ c.toNat < 0xE000) := by omega
    have read : readUnicodeEscape (h₁ :: h₂ :: h₃ :: h₄ :: xs) = some (c, xs) := by
      simp [readUnicodeEscape, readHex4, value, low, low', Char.ofNat_toNat]
    rw [digits]
    simp [readText, read]
  · next quote backslash _ _ _ _ _ control =>
    simp [readText, quote, backslash, control]

/-- What is quoted is read back, and so is what follows. -/
theorem readText_quoted (cs : List Char) (fuel : Nat) (done xs : List Char) :
    readText (cs.length + fuel + 1) done (cs.flatMap escaped ++ '"' :: xs) =
      some (cs.reverse ++ done, xs) := by
  induction cs generalizing done with
  | nil => simp [readText]
  | cons c cs ih =>
    have step := readText_escaped (cs.length + fuel + 1) done c (cs.flatMap escaped ++ '"' :: xs)
    simp only [List.flatMap_cons, List.append_assoc, List.length_cons, List.reverse_cons]
    rw [show cs.length + 1 + fuel + 1 = cs.length + fuel + 1 + 1 by omega, step, ih]
    simp

theorem quote_append_inj {s t : String} {xs ys : List Char} (h : quote s ++ xs = quote t ++ ys) :
    s = t ∧ xs = ys := by
  simp only [quote, List.cons_append, List.append_assoc, List.nil_append, List.cons.injEq,
    true_and] at h
  have first := readText_quoted s.toList t.toList.length [] xs
  have second := readText_quoted t.toList s.toList.length [] ys
  rw [Nat.add_comm t.toList.length s.toList.length, ← h, first] at second
  simp only [List.append_nil, Option.some.injEq, Prod.mk.injEq, List.reverse_inj] at second
  exact ⟨String.toList_inj.mp second.1, second.2⟩

def isNumeric (c : Char) : Bool := c.isDigit || c == '-' || c == '+' || c == '.' || c == 'e'

/-- Nothing, or what follows a value in a list or an object. -/
def Ends (rest : List Char) : Prop := ∀ c ∈ rest.head?, c = ',' ∨ c = ']' ∨ c = '\x7d'

theorem ends_comma (rest : List Char) : Ends (',' :: rest) := by simp [Ends]

theorem ends_bracket (rest : List Char) : Ends (']' :: rest) := by simp [Ends]

theorem ends_brace (rest : List Char) : Ends ('\x7d' :: rest) := by simp [Ends]

theorem Ends.not_numeric {c : Char} {rest : List Char} (h : Ends (c :: rest)) :
    isNumeric c = false := by
  rcases h c rfl with rfl | rfl | rfl <;> decide

theorem numeric_append_inj {as bs xs ys : List Char} (ha : ∀ c ∈ as, isNumeric c = true)
    (hb : ∀ c ∈ bs, isNumeric c = true) (hx : Ends xs) (hy : Ends ys)
    (h : as ++ xs = bs ++ ys) : as = bs ∧ xs = ys := by
  induction as generalizing bs with
  | nil =>
    cases bs with
    | nil => exact ⟨rfl, h⟩
    | cons b bs =>
      have starts : xs = b :: (bs ++ ys) := h
      have numeric := hb b List.mem_cons_self
      rw [starts] at hx
      rw [hx.not_numeric] at numeric
      cases numeric
  | cons a as ih =>
    cases bs with
    | nil =>
      have starts : a :: (as ++ xs) = ys := h
      have numeric := ha a List.mem_cons_self
      rw [← starts] at hy
      rw [hy.not_numeric] at numeric
      cases numeric
    | cons b bs =>
      obtain ⟨rfl, rest⟩ := List.cons.inj h
      have tails := ih (fun c hc => ha c (List.mem_cons_of_mem _ hc))
        (fun c hc => hb c (List.mem_cons_of_mem _ hc)) rest
      exact ⟨congrArg (a :: ·) tails.1, tails.2⟩

theorem isDigit_of_mem_toDigits {n : Nat} {c : Char} (h : c ∈ Nat.toDigits 10 n) :
    c.isDigit = true :=
  Nat.isDigit_of_mem_toDigits (by decide) (by decide) h

theorem integer_chars (i : Int) {c : Char} (h : c ∈ (toString i).toList) :
    c.isDigit = true ∨ c = '-' := by
  cases i with
  | ofNat n => exact .inl (isDigit_of_mem_toDigits (by simpa [toString, Int.repr, Nat.repr] using h))
  | negSucc n =>
    have chars : c = '-' ∨ c ∈ Nat.toDigits 10 (n + 1) := by
      simpa [toString, Int.repr, Nat.repr] using h
    exact chars.symm.imp_left isDigit_of_mem_toDigits

theorem layout_numeric {digits : List Char} (hd : ∀ c ∈ digits, isNumeric c = true) (exponent : Int)
    {c : Char} (h : c ∈ Binary64.layout digits exponent) : isNumeric c = true := by
  have zero (n : Nat) : ∀ c ∈ Binary64.zeros n, isNumeric c = true := by
    intro c hc
    rw [List.eq_of_mem_replicate hc]
    decide
  have power (n : Nat) : ∀ c ∈ (toString n).toList, isNumeric c = true := by
    intro c hc
    have digit := isDigit_of_mem_toDigits (n := n) (c := c) (by simpa [toString, Nat.repr] using hc)
    simp [isNumeric, digit]
  have sign (b : Prop) [Decidable b] : isNumeric (if b then '-' else '+') = true := by
    split <;> decide
  unfold Binary64.layout at h
  dsimp only at h
  split at h
  · simp only [List.mem_append, List.mem_cons, List.not_mem_nil, or_false] at h
    rcases h with (h | h) | rfl | rfl
    · exact hd c h
    · exact zero _ c h
    · decide
    · decide
  split at h
  · rcases List.mem_append.mp h with h | h
    · exact hd c (List.mem_of_mem_take h)
    · rcases List.mem_cons.mp h with rfl | h
      · decide
      · exact hd c (List.mem_of_mem_drop h)
  split at h
  · simp only [List.mem_cons, List.mem_append] at h
    rcases h with rfl | rfl | h | h
    · decide
    · decide
    · exact zero _ c h
    · exact hd c h
  · have marks : ∀ c ∈ 'e' :: (if (digits.length : Int) + exponent < 1 then '-' else '+') ::
        (toString ((digits.length : Int) + exponent - 1).natAbs).toList, isNumeric c = true := by
      intro c hc
      simp only [List.mem_cons] at hc
      rcases hc with rfl | rfl | hc
      · decide
      · exact sign _
      · exact power _ c hc
    split at h
    · next d =>
      rcases List.mem_cons.mp h with rfl | h
      · exact hd c List.mem_cons_self
      · exact marks c h
    · next d more _ =>
      simp only [List.mem_cons, List.mem_append] at h
      rcases h with rfl | rfl | h | h
      · exact hd c List.mem_cons_self
      · decide
      · exact hd c (List.mem_cons_of_mem _ h)
      · exact marks c (by simpa using h)
    · exact marks c h

/-- A point or an exponent always shows. -/
theorem layout_marked (digits : List Char) (exponent : Int) :
    '.' ∈ Binary64.layout digits exponent ∨ 'e' ∈ Binary64.layout digits exponent := by
  unfold Binary64.layout
  dsimp only
  split
  · simp
  split
  · simp
  split
  · simp
  split <;> simp

theorem real_numeric (x : Binary64) {c : Char} (h : c ∈ x.decimal.toList) : isNumeric c = true := by
  have body : ∀ c ∈ (if x.magnitude = 0 then ['0', '.', '0']
      else Binary64.layout (Nat.toDigits 10 x.shortest.1) x.shortest.2), isNumeric c = true := by
    intro c hc
    split at hc
    · simp only [List.mem_cons, List.not_mem_nil, or_false] at hc
      rcases hc with rfl | rfl | rfl <;> decide
    · refine layout_numeric (fun d hd => ?_) _ hc
      simp [isNumeric, isDigit_of_mem_toDigits hd]
  rw [Binary64.decimal, String.toList_ofList] at h
  split at h
  · rcases List.mem_cons.mp h with rfl | h
    · decide
    · exact body c h
  · exact body c h

theorem real_marked (x : Binary64) : '.' ∈ x.decimal.toList ∨ 'e' ∈ x.decimal.toList := by
  have body : '.' ∈ (if x.magnitude = 0 then ['0', '.', '0']
        else Binary64.layout (Nat.toDigits 10 x.shortest.1) x.shortest.2) ∨
      'e' ∈ (if x.magnitude = 0 then ['0', '.', '0']
        else Binary64.layout (Nat.toDigits 10 x.shortest.1) x.shortest.2) := by
    split
    · simp
    · exact layout_marked _ _
  rw [Binary64.decimal, String.toList_ofList]
  split
  · exact body.imp (List.mem_cons_of_mem _) (List.mem_cons_of_mem _)
  · exact body

theorem integer_numeric (i : Int) {c : Char} (h : c ∈ (toString i).toList) : isNumeric c = true := by
  rcases integer_chars i h with digit | rfl
  · simp [isNumeric, digit]
  · decide

theorem integer_ne_real (i : Int) (x : Binary64) : (toString i).toList ≠ x.decimal.toList := by
  intro same
  rcases real_marked x with point | mark
  · rcases integer_chars i (same ▸ point) with digit | minus
    · exact absurd digit (by decide)
    · exact absurd minus (by decide)
  · rcases integer_chars i (same ▸ mark) with digit | minus
    · exact absurd digit (by decide)
    · exact absurd minus (by decide)

theorem integer_inj {i j : Int} (h : (toString i).toList = (toString j).toList) : i = j :=
  Int.repr_inj.mp (String.toList_inj.mp h)

theorem integer_ne_nil (i : Int) : (toString i).toList ≠ [] := by
  cases i with
  | ofNat n => simp [toString, Int.repr]
  | negSucc n => simp [toString, Int.repr]

mutual

/-- The reals in a value. -/
def reals : Json → List Binary64
  | .real x => [x]
  | .list items => itemReals items
  | .object fields => fieldReals fields
  | _ => []

def itemReals : List Json → List Binary64
  | [] => []
  | a :: rest => reals a ++ itemReals rest

def fieldReals : List (String × Json) → List Binary64
  | [] => []
  | (_, a) :: rest => reals a ++ fieldReals rest

end

/-- Reals of the one list are written like reals of the other only where they are the same. -/
def ToldApart (xs ys : List Binary64) : Prop := ∀ x ∈ xs, ∀ y ∈ ys, x.decimal = y.decimal → x = y

instance (xs ys : List Binary64) : Decidable (ToldApart xs ys) :=
  inferInstanceAs (Decidable (∀ x ∈ xs, ∀ y ∈ ys, x.decimal = y.decimal → x = y))

theorem ToldApart.left {xs xs' ys ys' : List Binary64} (h : ToldApart (xs ++ xs') (ys ++ ys')) :
    ToldApart xs ys :=
  fun x hx y hy => h x (List.mem_append_left _ hx) y (List.mem_append_left _ hy)

theorem ToldApart.right {xs xs' ys ys' : List Binary64} (h : ToldApart (xs ++ xs') (ys ++ ys')) :
    ToldApart xs' ys' :=
  fun x hx y hy => h x (List.mem_append_right _ hx) y (List.mem_append_right _ hy)

/-- What a value is, by a character that its text may start with. -/
def sort : Json → Char
  | .null => 'n'
  | .bool _ => 't'
  | .integer _ | .real _ => '0'
  | .text _ => '"'
  | .list _ => '['
  | .object _ => '\x7b'

def sortOf (c : Char) : Char := if c = 'f' then 't' else if isNumeric c then '0' else c

theorem sortOf_of_numeric {c : Char} (h : isNumeric c = true) : sortOf c = '0' := by
  have other : c ≠ 'f' := by
    rintro rfl
    exact absurd h (by decide)
  rw [sortOf, if_neg other, if_pos h]

/-- The first character of its text tells what a value is. -/
theorem exists_lead (a : Json) : ∃ c rest, a.chars = c :: rest ∧ sortOf c = a.sort := by
  have number {cs : List Char} (some : cs ≠ []) (numeric : ∀ c ∈ cs, isNumeric c = true) :
      ∃ c rest, cs = c :: rest ∧ sortOf c = '0' := by
    obtain ⟨c, rest, rfl⟩ := List.exists_cons_of_ne_nil some
    exact ⟨c, rest, rfl, sortOf_of_numeric (numeric c List.mem_cons_self)⟩
  cases a with
  | null => exact ⟨'n', _, by rw [chars]; rfl, rfl⟩
  | bool b =>
    cases b with
    | true => exact ⟨'t', _, by rw [chars]; rfl, rfl⟩
    | false => exact ⟨'f', _, by rw [chars]; rfl, rfl⟩
  | integer i =>
    rw [chars]
    exact number (integer_ne_nil i) fun c => integer_numeric i
  | real x =>
    rw [chars]
    refine number (fun none => ?_) fun c => real_numeric x
    rcases real_marked x with point | mark
    · exact absurd (none ▸ point) List.not_mem_nil
    · exact absurd (none ▸ mark) List.not_mem_nil
  | text s => exact ⟨'"', _, by rw [chars, quote], show sortOf '"' = '"' by decide⟩
  | list items => exact ⟨'[', _, by rw [chars], show sortOf '[' = '[' by decide⟩
  | object fields => exact ⟨'\x7b', _, by rw [chars], show sortOf '\x7b' = '\x7b' by decide⟩

theorem sort_eq {a b : Json} {xs ys : List Char} (h : a.chars ++ xs = b.chars ++ ys) :
    a.sort = b.sort := by
  obtain ⟨c, as, ha, hc⟩ := a.exists_lead
  obtain ⟨d, bs, hb, hd⟩ := b.exists_lead
  rw [ha, hb] at h
  rw [← hc, ← hd, (List.cons.inj h).1]

/-- What follows an item in a list. -/
def itemTail : List Json → List Char
  | [] => []
  | a :: rest => ',' :: itemChars (a :: rest)

theorem itemChars_cons (a : Json) (rest : List Json) :
    itemChars (a :: rest) = a.chars ++ itemTail rest := by
  cases rest with
  | nil => rw [itemChars, itemTail, List.append_nil]
  | cons b rest => rw [itemChars, itemTail]

/-- What follows a field in an object. -/
def fieldTail : List (String × Json) → List Char
  | [] => []
  | f :: rest => ',' :: fieldChars (f :: rest)

theorem fieldChars_cons (k : String) (a : Json) (rest : List (String × Json)) :
    fieldChars ((k, a) :: rest) = quote k ++ ':' :: (a.chars ++ fieldTail rest) := by
  cases rest with
  | nil => rw [fieldChars, fieldTail, List.append_nil]
  | cons b rest => rw [fieldChars, fieldTail]

theorem ends_itemTail (items : List Json) (xs : List Char) : Ends (itemTail items ++ ']' :: xs) := by
  cases items with
  | nil => exact ends_bracket xs
  | cons a rest => exact ends_comma _

theorem ends_fieldTail (fields : List (String × Json)) (xs : List Char) :
    Ends (fieldTail fields ++ '\x7d' :: xs) := by
  cases fields with
  | nil => exact ends_brace xs
  | cons a rest => exact ends_comma _

mutual

/-- A value is known from its text, and so is where the text ends. -/
theorem chars_append_inj : ∀ (a b : Json) {xs ys : List Char}, ToldApart a.reals b.reals →
    Ends xs → Ends ys → a.chars ++ xs = b.chars ++ ys → a = b ∧ xs = ys
  | .null, b, xs, ys, _, _, _, h => by
    have same := sort_eq h
    cases b <;> simp_all [sort]
  | .bool x, b, xs, ys, _, _, _, h => by
    have same := sort_eq h
    cases b with
    | bool y => cases x <;> cases y <;> simp_all [chars]
    | _ => simp [sort] at same
  | .integer i, b, xs, ys, _, hx, hy, h => by
    have same := sort_eq h
    cases b with
    | integer j =>
      rw [chars, chars] at h
      have parts := numeric_append_inj (fun c => integer_numeric i) (fun c => integer_numeric j) hx hy h
      exact ⟨congrArg Json.integer (integer_inj parts.1), parts.2⟩
    | real y =>
      rw [chars, chars] at h
      have parts := numeric_append_inj (fun c => integer_numeric i) (fun c => real_numeric y) hx hy h
      exact absurd parts.1 (integer_ne_real i y)
    | _ => simp [sort] at same
  | .real x, b, xs, ys, apart, hx, hy, h => by
    have same := sort_eq h
    cases b with
    | integer j =>
      rw [chars, chars] at h
      have parts := numeric_append_inj (fun c => real_numeric x) (fun c => integer_numeric j) hx hy h
      exact absurd parts.1.symm (integer_ne_real j x)
    | real y =>
      rw [chars, chars] at h
      have parts := numeric_append_inj (fun c => real_numeric x) (fun c => real_numeric y) hx hy h
      have equal : x = y := apart x (by simp [reals]) y (by simp [reals]) (String.toList_inj.mp parts.1)
      exact ⟨congrArg Json.real equal, parts.2⟩
    | _ => simp [sort] at same
  | .text s, b, xs, ys, _, _, _, h => by
    have same := sort_eq h
    cases b with
    | text t =>
      rw [chars, chars] at h
      have parts := quote_append_inj h
      exact ⟨congrArg Json.text parts.1, parts.2⟩
    | _ => simp [sort] at same
  | .list as, b, xs, ys, apart, _, _, h => by
    have same := sort_eq h
    cases b with
    | list bs =>
      simp only [chars, List.cons_append, List.append_assoc, List.nil_append, List.cons.injEq,
        true_and] at h
      have parts := itemChars_append_inj as bs (by simpa [reals] using apart) h
      exact ⟨congrArg Json.list parts.1, parts.2⟩
    | _ => simp [sort] at same
  | .object as, b, xs, ys, apart, _, _, h => by
    have same := sort_eq h
    cases b with
    | object bs =>
      simp only [chars, List.cons_append, List.append_assoc, List.nil_append, List.cons.injEq,
        true_and] at h
      have parts := fieldChars_append_inj as bs (by simpa [reals] using apart) h
      exact ⟨congrArg Json.object parts.1, parts.2⟩
    | _ => simp [sort] at same

theorem itemChars_append_inj : ∀ (as bs : List Json) {xs ys : List Char},
    ToldApart (itemReals as) (itemReals bs) →
    itemChars as ++ ']' :: xs = itemChars bs ++ ']' :: ys → as = bs ∧ xs = ys
  | [], [], xs, ys, _, h => by simpa [itemChars] using h
  | [], b :: bs, xs, ys, _, h => by
    obtain ⟨c, rest, lead, sort⟩ := b.exists_lead
    rw [itemChars_cons, lead] at h
    obtain rfl : ']' = c := (List.cons.inj h).1
    cases b <;> exact absurd sort (by simp [Json.sort]; decide)
  | a :: as, [], xs, ys, _, h => by
    obtain ⟨c, rest, lead, sort⟩ := a.exists_lead
    rw [itemChars_cons, lead] at h
    obtain rfl : c = ']' := (List.cons.inj h).1
    cases a <;> exact absurd sort (by simp [Json.sort]; decide)
  | a :: as, b :: bs, xs, ys, apart, h => by
    simp only [itemReals] at apart
    rw [itemChars_cons, itemChars_cons, List.append_assoc, List.append_assoc] at h
    obtain ⟨rfl, tails⟩ :=
      chars_append_inj a b apart.left (ends_itemTail as xs) (ends_itemTail bs ys) h
    cases as with
    | nil =>
      cases bs with
      | nil => exact ⟨rfl, (List.cons.inj tails).2⟩
      | cons b bs => exact absurd (List.cons.inj tails).1 (by decide)
    | cons a' as =>
      cases bs with
      | nil => exact absurd (List.cons.inj tails).1 (by decide)
      | cons b' bs =>
        have parts := itemChars_append_inj (a' :: as) (b' :: bs) apart.right (List.cons.inj tails).2
        exact ⟨congrArg (a :: ·) parts.1, parts.2⟩

theorem fieldChars_append_inj : ∀ (as bs : List (String × Json)) {xs ys : List Char},
    ToldApart (fieldReals as) (fieldReals bs) →
    fieldChars as ++ '\x7d' :: xs = fieldChars bs ++ '\x7d' :: ys → as = bs ∧ xs = ys
  | [], [], xs, ys, _, h => by simpa [fieldChars] using h
  | [], (l, b) :: bs, xs, ys, _, h => by
    rw [fieldChars_cons] at h
    exact absurd (List.cons.inj h).1 (by decide)
  | (k, a) :: as, [], xs, ys, _, h => by
    rw [fieldChars_cons] at h
    exact absurd (List.cons.inj h).1 (by decide)
  | (k, a) :: as, (l, b) :: bs, xs, ys, apart, h => by
    simp only [fieldReals] at apart
    simp only [fieldChars_cons, List.append_assoc, List.cons_append] at h
    obtain ⟨rfl, values⟩ := quote_append_inj h
    obtain ⟨rfl, tails⟩ := chars_append_inj a b apart.left (ends_fieldTail as xs)
      (ends_fieldTail bs ys) (List.cons.inj values).2
    cases as with
    | nil =>
      cases bs with
      | nil => exact ⟨rfl, (List.cons.inj tails).2⟩
      | cons b bs => exact absurd (List.cons.inj tails).1 (by decide)
    | cons a' as =>
      cases bs with
      | nil => exact absurd (List.cons.inj tails).1 (by decide)
      | cons b' bs =>
        have parts := fieldChars_append_inj (a' :: as) (b' :: bs) apart.right (List.cons.inj tails).2
        exact ⟨congrArg ((k, a) :: ·) parts.1, parts.2⟩

end

theorem compact_inj {a b : Json} (apart : ToldApart a.reals b.reals) (h : a.compact = b.compact) :
    a = b := by
  have same : a.chars = b.chars := String.ofList_injective h
  have nothing : Ends [] := fun c hc => nomatch hc
  exact (chars_append_inj a b apart nothing nothing (by rw [same])).1

end ConnectorHub.Json
