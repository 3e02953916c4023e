import CodeGloss.Proofs.Json.NumeralForm
import CodeGloss.Proofs.Json.StringForm

/-! # Passing over values

A value that nobody asks for is passed over to its very end, whatever it is and whatever space stands
in it (`skipValue_spelled`).

The two recursions over lists and objects stop in front of an element or behind one.  Either place is
in front of the rest of a list (`restOfList`), so one statement about the rest of a list, for every
way in which the grammar goes on with it, is what the induction needs.
-/
namespace CodeGloss
namespace Json

open Cursor

/-! ## How values begin -/

theorem NumeralForm.exists_text_eq_cons (n : NumeralForm) :
    ∃ c t, n.text = c :: t ∧ (c = '-' ∨ c.isDigit = true) := by
  rw [text, sign]
  cases n.minus with
  | true => exact ⟨'-', _, rfl, Or.inl rfl⟩
  | false =>
    obtain ⟨c, t, hinteger, hc⟩ := exists_digits_eq_cons n.integer
    exact ⟨c, t ++ n.tail, by rw [hinteger]; rfl, Or.inr hc⟩

/-- The first character of a value tells what kind of value it is. -/
def Form.Begins (c : Char) : Form → Prop
  | null => c = 'n'
  | flag b => c = if b then 't' else 'f'
  | number _ => c = '-' ∨ c.isDigit = true
  | string _ => c = '"'
  | list _ => c = '['
  | object _ => c = '\x7b'

variable {f : Form} {t : Text}

theorem Form.Spelled.exists_eq_cons (h : f.Spelled t) : ∃ c later, t = c :: later ∧ f.Begins c := by
  cases h with
  | flag b => cases b <;> exact ⟨_, _, rfl, rfl⟩
  | number n => exact n.exists_text_eq_cons
  | null | string | list | object => exact ⟨_, _, rfl, rfl⟩

/-- No value begins with space or with a mark of a list. -/
theorem Form.Begins.bounds {c : Char} (h : f.Begins c) : isSpace c = false ∧ c ≠ ',' ∧ c ≠ ']' := by
  cases f with
  | flag b => cases b <;> (cases h; decide)
  | number n =>
    rcases h with rfl | hc
    · decide
    · refine ⟨Codec.isSpace_of_isDigit hc, ?_, ?_⟩ <;> rintro rfl <;> cases hc
  | null | string | list | object => cases h; decide

theorem Form.Begins.exists_eq_flag {c : Char} (hc : c = 't' ∨ c = 'f') (h : f.Begins c) :
    ∃ b, f = flag b := by
  cases f with
  | flag b => exact ⟨b, rfl⟩
  | number n => rcases hc with rfl | rfl <;> rcases h with h | h <;> cases h
  | null | string | list | object => rcases hc with rfl | rfl <;> cases h

theorem Form.Begins.exists_eq_number {c : Char} (hc : c = '-' ∨ c.isDigit = true)
    (h : f.Begins c) : ∃ n, f = number n := by
  cases f with
  | flag b => cases b <;> (cases h; exact absurd hc (by decide))
  | number n => exact ⟨n, rfl⟩
  | null | string | list | object => cases h; exact absurd hc (by decide)

theorem Form.Begins.exists_eq_list (h : f.Begins '[') : ∃ items, f = list items := by
  cases f with
  | flag b => cases b <;> cases h
  | number n => rcases h with h | h <;> cases h
  | list items => exact ⟨items, rfl⟩
  | null | string | object => cases h

theorem Form.Begins.exists_eq_object (h : f.Begins '\x7b') : ∃ members, f = object members := by
  cases f with
  | flag b => cases b <;> cases h
  | number n => rcases h with h | h <;> cases h
  | object members => exact ⟨members, rfl⟩
  | null | string | list => cases h

theorem Form.Spelled.head?_append (h : f.Spelled t) (rest : Text) :
    ∀ c ∈ (t ++ rest).head?, isSpace c = false := by
  obtain ⟨c, later, rfl, hc⟩ := h.exists_eq_cons
  rintro _ ⟨⟩
  exact hc.bounds.1

theorem expectColon_append {before : Text} (h : IsSpace before) (rest : Text) (p : Position) :
    expectColon ⟨before ++ ':' :: rest, p⟩ = .ok ⟨rest, p.past (before ++ [':'])⟩ := by
  rw [expectColon, skipSpace_append h (by simp [isSpace]), Position.past_append]
  rfl

/-- A number cannot go on with space and one of the marks behind it. -/
theorem ends_append_cons {space : Text} (h : IsSpace space) {c : Char}
    (hc : c = ',' ∨ c = ']' ∨ c = '\x7d') (rest : Text) : Numeral.Ends (space ++ c :: rest) := by
  cases space with
  | nil =>
    rintro _ ⟨⟩
    rcases hc with rfl | rfl | rfl <;> decide
  | cons d space => exact fun x hx => Codec.ends_of_isSpace h x hx

theorem Form.ItemsSpelled.ends {items : List Form} {later : Text}
    (h : Form.ItemsSpelled false items later) (rest : Text) :
    Numeral.Ends (later ++ ']' :: rest) := by
  cases h with
  | nil hspace => exact ends_append_cons hspace (by decide) rest
  | cons hmark _ _ =>
    obtain _ | ⟨hbefore, -⟩ := hmark
    simp only [List.append_assoc, List.cons_append]
    exact ends_append_cons hbefore (by decide) _

theorem Form.MembersSpelled.ends {members : List (StringForm × Form)} {later : Text}
    (h : Form.MembersSpelled false members later) (rest : Text) :
    Numeral.Ends (later ++ '\x7d' :: rest) := by
  cases h with
  | nil hspace => exact ends_append_cons hspace (by decide) rest
  | cons hmark _ _ _ _ =>
    obtain _ | ⟨hbefore, -⟩ := hmark
    simp only [List.append_assoc, List.cons_append]
    exact ends_append_cons hbefore (by decide) _

namespace Skip

/-! ## The rest of a list or an object -/

/-- Passes over the rest of a list, from behind its opening bracket or behind an element. -/
def restOfList (first : Bool) (steps : Nat) (cur : Cursor) : Except Fault Cursor :=
  let cur := cur.skipSpace
  match cur.next? with
  | none => cur.faultHere .endInList
  | some c =>
    if c = ']' then .ok cur.advance
    else if first then elements steps cur
    else if c = ',' then elements steps cur.advance
    else cur.faultNext .expectedCommaOrBracket

/-- Passes over the rest of an object, from behind its opening brace or behind a member. -/
def restOfObject (first : Bool) (steps : Nat) (cur : Cursor) : Except Fault Cursor :=
  let cur := cur.skipSpace
  match cur.next? with
  | none => cur.faultHere .endInObject
  | some c =>
    if c = '\x7d' then .ok cur.advance
    else if first then members steps cur
    else if c = ',' then members steps cur.advance
    else cur.faultNext .expectedCommaOrBrace

theorem elements_succ (steps : Nat) (cur : Cursor) :
    elements (steps + 1) cur = value steps cur >>= restOfList false steps := by
  rw [elements]
  refine bind_congr fun cur => ?_
  unfold restOfList
  dsimp only
  split
  next hnext => simp only [hnext]
  next hnext => simp [hnext]
  next hnext => simp [hnext]
  next c hcomma hclose hnext =>
    simp only [hnext, if_neg hclose, if_neg hcomma, Bool.false_eq_true, if_false]

theorem members_succ {steps : Nat} {cur : Cursor} (hquote : cur.skipSpace.next? = some '"') :
    members (steps + 1) cur = (do
      let cur ← StringLiteral.skip cur.skipSpace.advance
      let cur ← expectColon cur
      let cur ← value steps cur
      restOfObject false steps cur) := by
  rw [members]
  simp only [hquote]
  refine bind_congr fun cur => bind_congr fun cur => bind_congr fun cur => ?_
  unfold restOfObject
  dsimp only
  split
  next hnext => simp only [hnext]
  next hnext => simp [hnext]
  next hnext => simp [hnext]
  next c hcomma hclose hnext =>
    simp only [hnext, if_neg hclose, if_neg hcomma, Bool.false_eq_true, if_false]

variable {space rest : Text} {steps : Nat}

/-- The words of the format, each with its first letter apart. -/
theorem value_word {c : Char} {word : Text} (hword : (c, word) ∈ [('n', "ull".toList),
      ('t', "rue".toList), ('f', "alse".toList)]) (h : IsSpace space) (p : Position) :
    value (steps + 1) ⟨space ++ c :: rest, p⟩ =
      expectWord word ⟨rest, (p.past space).behind c⟩ := by
  have hc : isSpace c = false := by
    have hall : ∀ w ∈ [('n', "ull".toList), ('t', "rue".toList), ('f', "alse".toList)],
        isSpace w.1 = false := by decide
    exact hall _ hword
  rw [value, skipSpace_append h (by simpa using hc)]
  simp only [List.mem_cons, Prod.mk.injEq, List.not_mem_nil, or_false] at hword
  rcases hword with ⟨rfl, rfl⟩ | ⟨rfl, rfl⟩ | ⟨rfl, rfl⟩ <;> rfl

theorem value_minus (h : IsSpace space) (p : Position) :
    value (steps + 1) ⟨space ++ '-' :: rest, p⟩ =
      unsigned ⟨rest, (p.past space).behind '-'⟩ := by
  rw [value, skipSpace_append h (by simp [isSpace])]
  rfl

theorem value_digit {c : Char} (hc : c.isDigit = true) (h : IsSpace space) (p : Position) :
    value (steps + 1) ⟨space ++ c :: rest, p⟩ = unsigned ⟨c :: rest, p.past space⟩ := by
  have hne {d : Char} (hd : d.isDigit = false) : some c ≠ some d := by
    rintro ⟨⟩
    cases hc.symm.trans hd
  rw [value, skipSpace_append h (by simpa using Codec.isSpace_of_isDigit hc)]
  simp only [next?_mk_cons]
  split
  case h_1 hnext => cases hnext
  case h_2 hnext | h_3 hnext | h_4 hnext | h_5 hnext | h_6 hnext | h_7 hnext | h_8 hnext =>
    exact absurd hnext (hne (by decide))
  case h_9 hnext =>
    obtain rfl := Option.some.inj hnext
    rw [if_pos hc]

theorem value_string (h : IsSpace space) (p : Position) :
    value (steps + 1) ⟨space ++ '"' :: rest, p⟩ =
      StringLiteral.skip ⟨rest, (p.past space).behind '"'⟩ := by
  rw [value, skipSpace_append h (by simp [isSpace])]
  rfl

theorem value_list (h : IsSpace space) (p : Position) :
    value (steps + 1) ⟨space ++ '[' :: rest, p⟩ =
      restOfList true steps ⟨rest, (p.past space).behind '['⟩ := by
  rw [value, skipSpace_append h (by simp [isSpace])]
  unfold restOfList
  simp only [next?_mk_cons, advance_mk_cons]
  split
  next hnext => simp only [hnext]
  next hnext => simp only [hnext, if_true]
  next c hclose hnext => simp only [hnext, if_neg hclose, if_true]

theorem value_object (h : IsSpace space) (p : Position) :
    value (steps + 1) ⟨space ++ '\x7b' :: rest, p⟩ =
      restOfObject true steps ⟨rest, (p.past space).behind '\x7b'⟩ := by
  rw [value, skipSpace_append h (by simp [isSpace])]
  unfold restOfObject
  simp only [next?_mk_cons, advance_mk_cons]
  split
  next hnext => simp only [hnext]
  next hnext => simp only [hnext, if_true]
  next c hclose hnext => simp only [hnext, if_neg hclose, if_true]

theorem restOfList_close (first : Bool) (h : IsSpace space) (p : Position) :
    restOfList first steps ⟨space ++ ']' :: rest, p⟩ = .ok ⟨rest, p.past (space ++ [']'])⟩ := by
  rw [restOfList, skipSpace_append h (by simp [isSpace]), Position.past_append]
  rfl

theorem restOfObject_close (first : Bool) (h : IsSpace space) (p : Position) :
    restOfObject first steps ⟨space ++ '\x7d' :: rest, p⟩ =
      .ok ⟨rest, p.past (space ++ ['\x7d'])⟩ := by
  rw [restOfObject, skipSpace_append h (by simp [isSpace]), Position.past_append]
  rfl

/-- In front of an element the rest of a list goes on with it. -/
theorem restOfList_mark {first : Bool} {mark : Text} (h : Mark first mark) {c : Char}
    (hc : isSpace c = false ∧ c ≠ ',' ∧ c ≠ ']') (steps : Nat) (rest : Text) (p : Position) :
    ∃ space q, IsSpace space ∧ q.past space = p.past mark ∧
      restOfList first steps ⟨mark ++ c :: rest, p⟩ =
        elements steps ⟨space ++ c :: rest, q⟩ := by
  cases h with
  | first hspace =>
    refine ⟨[], p.past mark, List.forall_mem_nil _, rfl, ?_⟩
    rw [restOfList, skipSpace_append hspace (by simpa using hc.1)]
    simp only [next?_mk_cons, if_neg hc.2.2, if_true]
    rfl
  | @later before behind hbefore hbehind =>
    refine ⟨behind, (p.past before).behind ',', hbehind, ?_, ?_⟩
    · rw [Position.past_append]
      rfl
    · rw [List.append_assoc, restOfList, skipSpace_append hbefore (by simp [isSpace])]
      rfl

/-- In front of a key the rest of an object goes on with the member. -/
theorem restOfObject_mark {first : Bool} {mark : Text} (h : Mark first mark) (steps : Nat)
    (rest : Text) (p : Position) :
    ∃ space q, IsSpace space ∧ q.past space = p.past mark ∧
      restOfObject first steps ⟨mark ++ '"' :: rest, p⟩ =
        members steps ⟨space ++ '"' :: rest, q⟩ := by
  cases h with
  | first hspace =>
    refine ⟨[], p.past mark, List.forall_mem_nil _, rfl, ?_⟩
    rw [restOfObject, skipSpace_append hspace (by simp [isSpace])]
    rfl
  | @later before behind hbefore hbehind =>
    refine ⟨behind, (p.past before).behind ',', hbehind, ?_, ?_⟩
    · rw [Position.past_append]
      rfl
    · rw [List.append_assoc, restOfObject, skipSpace_append hbefore (by simp [isSpace])]
      rfl

/-! ## Values -/

/-- The text is passed over as a value, in as many steps as it can need. -/
def Passes (t : Text) : Prop :=
  ∀ ⦃steps : Nat⦄, 2 * t.length ≤ steps → ∀ ⦃space rest : Text⦄, IsSpace space →
    Numeral.Ends rest → ∀ p : Position,
      value steps ⟨space ++ (t ++ rest), p⟩ = .ok ⟨rest, p.past (space ++ t)⟩

/-- The text is passed over as the rest of a list. -/
def ListPasses (first : Bool) (body : Text) : Prop :=
  ∀ ⦃steps : Nat⦄, 2 * body.length + 1 ≤ steps → ∀ (rest : Text) (p : Position),
    restOfList first steps ⟨body ++ ']' :: rest, p⟩ = .ok ⟨rest, p.past (body ++ [']'])⟩

/-- The text is passed over as the rest of an object. -/
def ObjectPasses (first : Bool) (body : Text) : Prop :=
  ∀ ⦃steps : Nat⦄, 2 * body.length + 1 ≤ steps → ∀ (rest : Text) (p : Position),
    restOfObject first steps ⟨body ++ '\x7d' :: rest, p⟩ = .ok ⟨rest, p.past (body ++ ['\x7d'])⟩

/-- Passing over a value takes a step. -/
theorem Passes.of_succ {t : Text} (ht : t ≠ [])
    (h : ∀ steps : Nat, 2 * t.length ≤ steps + 1 → ∀ ⦃space rest : Text⦄, IsSpace space →
      Numeral.Ends rest → ∀ p : Position,
        value (steps + 1) ⟨space ++ (t ++ rest), p⟩ = .ok ⟨rest, p.past (space ++ t)⟩) :
    Passes t := by
  intro steps hsteps space rest hspace hrest p
  have hpos : 0 < t.length := List.length_pos_iff.mpr ht
  obtain ⟨steps, rfl⟩ : ∃ k, steps = k + 1 := ⟨steps - 1, by omega⟩
  exact h steps hsteps hspace hrest p

theorem passes_word {c : Char} {word : Text} (hword : (c, word) ∈ [('n', "ull".toList),
    ('t', "rue".toList), ('f', "alse".toList)]) : Passes (c :: word) := by
  refine Passes.of_succ (List.cons_ne_nil _ _) fun steps _ space rest hspace _ p => ?_
  rw [List.cons_append, value_word hword hspace, expectWord_append, Position.past_append]
  rfl

theorem passes_number (n : NumeralForm) : Passes n.text := by
  obtain ⟨c, t, htext, hc⟩ := n.exists_text_eq_cons
  have hne : n.text ≠ [] := htext ▸ List.cons_ne_nil c t
  refine Passes.of_succ hne fun steps _ space rest hspace hrest p => ?_
  have hunsigned := NumeralForm.skip_unsigned n hrest
  rw [NumeralForm.text, List.append_assoc, List.append_assoc, NumeralForm.sign]
  cases n.minus with
  | true =>
    rw [if_pos rfl, List.singleton_append, value_minus hspace, hunsigned]
    simp only [Position.past_append, Position.past_cons, List.cons_append, List.nil_append]
  | false =>
    obtain ⟨c, t, hinteger, hc⟩ := exists_digits_eq_cons n.integer
    rw [if_neg Bool.false_ne_true, List.nil_append, List.nil_append]
    rw [hinteger] at hunsigned ⊢
    rw [List.cons_append, value_digit hc hspace, ← List.cons_append, hunsigned,
      Position.past_append p]

theorem passes_string (s : StringForm) : Passes s.text := by
  refine Passes.of_succ (List.cons_ne_nil _ _) fun steps _ space rest hspace _ p => ?_
  have hvalue : value (steps + 1) ⟨space ++ (s.text ++ rest), p⟩ =
      StringLiteral.skip (advance ⟨s.text ++ rest, p.past space⟩) := value_string hspace p
  rw [hvalue, s.skip_text, Position.past_append]

theorem passes_list {body : Text} (h : ListPasses true body) : Passes ('[' :: (body ++ [']'])) := by
  refine Passes.of_succ (List.cons_ne_nil _ _) fun steps hsteps space rest hspace _ p => ?_
  simp only [List.length_cons, List.length_append, List.length_nil] at hsteps
  rw [List.cons_append, List.append_assoc, List.singleton_append, value_list hspace, h (by omega)]
  simp only [Position.past_append, Position.past_cons]

theorem passes_object {body : Text} (h : ObjectPasses true body) :
    Passes ('\x7b' :: (body ++ ['\x7d'])) := by
  refine Passes.of_succ (List.cons_ne_nil _ _) fun steps hsteps space rest hspace _ p => ?_
  simp only [List.length_cons, List.length_append, List.length_nil] at hsteps
  rw [List.cons_append, List.append_assoc, List.singleton_append, value_object hspace,
    h (by omega)]
  simp only [Position.past_append, Position.past_cons]

theorem listPasses_cons {first : Bool} {mark later : Text} {items : List Form}
    (hmark : Mark first mark) (hf : f.Spelled t) (ht : Passes t)
    (hitems : Form.ItemsSpelled false items later) (hlater : ListPasses false later) :
    ListPasses first (mark ++ (t ++ later)) := by
  intro steps hsteps rest p
  obtain ⟨c, t', rfl, hc⟩ := hf.exists_eq_cons
  simp only [List.length_cons, List.length_append] at hsteps
  obtain ⟨steps, rfl⟩ : ∃ k, steps = k + 1 := ⟨steps - 1, by omega⟩
  obtain ⟨space, q, hspace, hq, hrest⟩ := restOfList_mark hmark hc.bounds (steps + 1)
    (t' ++ (later ++ ']' :: rest)) p
  have hvalue : value steps ⟨space ++ (c :: t' ++ (later ++ ']' :: rest)), q⟩ =
      .ok ⟨later ++ ']' :: rest, q.past (space ++ c :: t')⟩ :=
    ht (by rw [List.length_cons]; omega) hspace (hitems.ends rest) q
  simp only [List.append_assoc, List.cons_append] at hrest hvalue ⊢
  rw [hrest, elements_succ, hvalue]
  simp only [bind, Except.bind]
  rw [hlater (by omega)]
  simp only [Position.past_append, hq, Position.past_cons]

theorem objectPasses_cons {first : Bool} {mark before behind t later : Text} {key : StringForm}
    {members : List (StringForm × Form)} (hmark : Mark first mark) (hbefore : IsSpace before)
    (hbehind : IsSpace behind) (ht : Passes t)
    (hmembers : Form.MembersSpelled false members later) (hlater : ObjectPasses false later) :
    ObjectPasses first
      (mark ++ (key.text ++ (before ++ ':' :: (behind ++ (t ++ later))))) := by
  intro steps hsteps rest p
  simp only [List.length_cons, List.length_append] at hsteps
  obtain ⟨steps, rfl⟩ : ∃ k, steps = k + 1 := ⟨steps - 1, by omega⟩
  let behindKey : Text := before ++ ':' :: (behind ++ (t ++ (later ++ '\x7d' :: rest)))
  obtain ⟨space, q, hspace, hq, hrest⟩ := restOfObject_mark hmark (steps + 1)
    (key.body ++ '"' :: behindKey) p
  have hskip := key.skip_text behindKey (q.past space)
  have hvalue (q : Position) : value steps ⟨behind ++ (t ++ (later ++ '\x7d' :: rest)), q⟩ =
      .ok ⟨later ++ '\x7d' :: rest, q.past (behind ++ t)⟩ :=
    ht (by omega) hbehind (hmembers.ends rest) q
  have hquote (q : Position) : skipSpace ⟨space ++ (key.text ++ behindKey), q⟩ =
      ⟨key.text ++ behindKey, q.past space⟩ :=
    skipSpace_append hspace (by simp [StringForm.text, isSpace]) q
  have htext : mark ++ (key.text ++ (before ++ ':' :: (behind ++ (t ++ later)))) ++
      '\x7d' :: rest = mark ++ (key.text ++ behindKey) := by
    simp only [behindKey, List.append_assoc, List.cons_append]
  have hkey (s : Text) : s ++ (key.text ++ behindKey) =
      s ++ '"' :: (key.body ++ '"' :: behindKey) := by
    simp only [StringForm.text, List.append_assoc, List.cons_append, List.nil_append]
  rw [htext, hkey, hrest, ← hkey, members_succ (by rw [hquote]; rfl), hquote, hskip]
  simp only [bind, Except.bind, behindKey, expectColon_append hbefore, hvalue]
  rw [hlater (by omega)]
  simp only [Position.past_append, hq, Position.past_cons, Position.past_nil]

mutual

/-- Every value of the grammar is passed over to its end. -/
theorem passes_spelled {f : Form} {t : Text} : f.Spelled t → Passes t
  | .null => passes_word (by decide)
  | .flag true => passes_word (by decide)
  | .flag false => passes_word (by decide)
  | .number n => passes_number n
  | .string s => passes_string s
  | .list h => passes_list (listPasses_spelled h)
  | .object h => passes_object (objectPasses_spelled h)

theorem listPasses_spelled {first : Bool} {items : List Form} {body : Text} :
    Form.ItemsSpelled first items body → ListPasses first body
  | .nil hspace => fun _ _ _ p => restOfList_close first hspace p
  | .cons hmark h hlater =>
    listPasses_cons hmark h (passes_spelled h) hlater (listPasses_spelled hlater)

theorem objectPasses_spelled {first : Bool} {members : List (StringForm × Form)} {body : Text} :
    Form.MembersSpelled first members body → ObjectPasses first body
  | .nil hspace => fun _ _ _ p => restOfObject_close first hspace p
  | .cons hmark hbefore hbehind h hlater =>
    objectPasses_cons hmark hbefore hbehind (passes_spelled h) hlater (objectPasses_spelled hlater)

end

end Skip

/-- **A value that nobody asks for is passed over to its end**, whatever it is. -/
theorem skipValue_spelled {space rest : Text} (h : f.Spelled t) (hspace : IsSpace space)
    (hrest : Numeral.Ends rest) (p : Position) :
    skipValue ⟨space ++ (t ++ rest), p⟩ = .ok ⟨rest, p.past (space ++ t)⟩ := by
  have hsteps : 2 * t.length ≤ 2 * (space ++ (t ++ rest)).length + 2 := by
    simp only [List.length_append]
    omega
  exact Skip.passes_spelled h hsteps hspace hrest p

end Json
end CodeGloss
