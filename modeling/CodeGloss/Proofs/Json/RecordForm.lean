import CodeGloss.Proofs.Json.Meaning
import CodeGloss.Proofs.Json.Record

/-! # What written records are read as

In whichever way a record is written, each field is settled by itself: from the values that the
members of an object give it (`Fields.complete?`), or from the element at its place in a list
(`Fields.ofItems?`).  Members that are no field's say nothing (`Fields.put?_of_not_mem`).

An object is read member by member into a draft.  What the record will be does not change on the
way, if the draft and the members that are left are looked at together (`Fields.complete?_cons`).
-/
namespace CodeGloss
namespace Json

open Cursor

/-- The values that the members of an object give to a name, in order. -/
def valuesOf (name : Text) (members : List (StringForm × Form)) : List Form :=
  (members.filter fun member => member.1.meaning? = some name).map Prod.snd

namespace Fields

variable {types : List Type} {fields : Fields types} {draft : Draft types}
variable {members : List (StringForm × Form)} {items : List Form} {key : StringForm} {name : Text}
variable {f : Form} {t rest : Text}

/-! ## Meanings -/

/-- The value of a field that has perhaps been read, and that the forms are still to be read for: it
is given at most once. -/
def settle? {α : Type} (codec : Codec α) (default? : Option α) : Option α → List Form → Option α
  | none, [] => default?
  | none, [f] => codec.meaning? f
  | some a, [] => some a
  | _, _ => none

/-- The first form is read, and then none may follow. -/
theorem settle?_cons {α : Type} (codec : Codec α) (default? value? : Option α) (f : Form)
    (forms : List Form) :
    settle? codec default? value? (f :: forms) =
      (if value?.isSome then none else codec.meaning? f).bind fun a =>
        settle? codec default? (some a) forms := by
  cases value? with
  | some a => rfl
  | none => cases forms <;> simp [settle?]

/-- What a draft and the members that are left make of a record. -/
def complete? (members : List (StringForm × Form)) :
    {types : List Type} → Fields types → Draft types → Option (Tuple types)
  | _, nil, _ => some ()
  | _, cons key codec default? later, (value?, draft) => do
    let a ← settle? codec default? value? (valuesOf key members)
    (later.complete? members draft).map (a, ·)

/-- What the elements of a list make of a record. -/
def ofItems? : {types : List Type} → Fields types → List Form → Option (Tuple types)
  | _, nil, [] => some ()
  | _, nil, _ :: _ => none
  | _, cons _ codec _ later, f :: items => do
    let a ← codec.meaning? f
    (later.ofItems? items).map (a, ·)
  | _, cons _ _ default? later, [] => do
    let a ← default?
    (later.ofItems? []).map (a, ·)

/-- What a form is read as, as a record. -/
def meaning? (fields : Fields types) : Form → Option (Tuple types)
  | .object members =>
    if ∀ member ∈ members, member.1.meaning?.isSome then fields.complete? members fields.blank
    else none
  | .list items => fields.ofItems? items
  | _ => none

/-- Every field has the property. -/
def All (property : ∀ {α : Type}, Text → Codec α → Option α → Prop) :
    {types : List Type} → Fields types → Prop
  | _, nil => True
  | _, cons key codec default? later => property key codec default? ∧ later.All property

/-- The fields have codecs that read all texts of a form alike. -/
def Uniform (fields : Fields types) : Prop :=
  fields.All fun _ codec _ => codec.Uniform

/-! ## One member -/

/-- Takes the value of the field with the given name into a draft; other names are passed over. -/
def put? (name : Text) (f : Form) :
    {types : List Type} → Fields types → Draft types → Option (Draft types)
  | _, nil, draft => some draft
  | _, cons key codec _ later, (value?, draft) =>
    if name = key then
      if value?.isSome then none else (codec.meaning? f).map (some ·, draft)
    else (later.put? name f draft).map (value?, ·)

theorem put?_of_not_mem (h : name ∉ fields.keys) (f : Form) (draft : Draft types) :
    fields.put? name f draft = some draft := by
  induction fields with
  | nil => rfl
  | cons key codec default? later ih =>
    obtain ⟨value?, draft⟩ := draft
    rw [keys, List.mem_cons, not_or] at h
    rw [put?, if_neg h.1, ih h.2]
    rfl

theorem valuesOf_cons (hkey : key.meaning? = some name) (other : Text) :
    valuesOf other ((key, f) :: members) =
      if name = other then f :: valuesOf other members else valuesOf other members := by
  rw [valuesOf, List.filter_cons, hkey]
  by_cases h : name = other <;> simp [h, valuesOf]

theorem complete?_of_not_mem (hkey : key.meaning? = some name) (h : name ∉ fields.keys)
    (draft : Draft types) :
    fields.complete? ((key, f) :: members) draft = fields.complete? members draft := by
  induction fields with
  | nil => rfl
  | cons k codec default? later ih =>
    obtain ⟨value?, draft⟩ := draft
    rw [keys, List.mem_cons, not_or] at h
    rw [complete?, complete?, valuesOf_cons hkey, if_neg h.1, ih h.2]

/-- **Taking a member into the draft does not change what the record will be**; a member that cannot
be taken leaves no record. -/
theorem complete?_cons (hkeys : fields.keys.Nodup) (hkey : key.meaning? = some name)
    (draft : Draft types) :
    fields.complete? ((key, f) :: members) draft =
      (fields.put? name f draft).bind (fields.complete? members) := by
  induction fields with
  | nil => rfl
  | cons k codec default? later ih =>
    obtain ⟨value?, draft⟩ := draft
    obtain ⟨hk, hlater⟩ := List.nodup_cons.mp hkeys
    rw [complete?, put?, valuesOf_cons hkey]
    -- only the field with the name is given one form more: the later ones have other keys
    by_cases hname : name = k
    · subst hname
      rw [complete?_of_not_mem hkey hk, if_pos rfl, if_pos rfl, settle?_cons]
      cases value? with
      | some a => rfl
      | none => cases codec.meaning? f <;> rfl
    · rw [if_neg hname, if_neg hname, ih hlater]
      cases later.put? name f draft with
      | none => cases settle? codec default? value? (valuesOf k members) <;> rfl
      | some draft => rfl

theorem complete?_nil (fields : Fields types) (draft : Draft types) :
    fields.complete? [] draft = (fields.finish draft).toOption := by
  induction fields with
  | nil => rfl
  | cons key codec default? later ih =>
    obtain ⟨value?, draft⟩ := draft
    have hsettle : settle? codec default? value? (valuesOf key []) = value?.or default? := by
      cases value? <;> rfl
    rw [complete?, ih, finish, hsettle]
    cases value?.or default? with
    | none => rfl
    | some a => exact (toOption_map _ _).symm

/-! ## Reading objects -/

theorem toOption_lift {α : Type} (r : Except Fault α) : (Stop.lift r).toOption = r.toOption := by
  cases r <;> rfl

/-- The value of a field is read into the draft. -/
theorem toOption_readMember (h : fields.Uniform) (hname : name ∈ fields.keys) (hf : f.Spelled t)
    {before behind : Text} (hbefore : IsSpace before) (hbehind : IsSpace behind)
    (hrest : Numeral.Ends rest) (draft : Draft types) (p : Position) :
    (fields.readMember name ⟨before ++ ':' :: (behind ++ (t ++ rest)), p⟩ draft).toOption =
      (fields.put? name f draft).map fun draft =>
        some (draft, ⟨rest, p.past (before ++ ':' :: (behind ++ t))⟩) := by
  induction fields with
  | nil => exact absurd hname List.not_mem_nil
  | cons key codec default? later ih =>
    obtain ⟨value?, draft⟩ := draft
    by_cases hkey : name = key
    · have hread : (expectColon ⟨before ++ ':' :: (behind ++ (t ++ rest)), p⟩ >>=
          codec.read).toOption = (codec.meaning? f).map
            (·, ⟨rest, p.past (before ++ ':' :: (behind ++ t))⟩) := by
        rw [expectColon_append hbefore]
        refine (h.1 hf hbehind hrest _).trans ?_
        simp only [Position.past_append, Position.past_cons, Position.past_nil]
      cases value? with
      | some a => simp only [readMember, put?, if_pos hkey]; rfl
      | none =>
        simp only [readMember, put?, if_pos hkey]
        rw [toOption_bind, toOption_lift, hread]
        cases codec.meaning? f <;> rfl
    · have hlater := ih h.2 ((List.mem_cons.mp hname).resolve_left hkey) draft
      simp only [readMember, put?, if_neg hkey]
      rw [toOption_bind, hlater]
      cases later.put? name f draft <;> rfl

/-- A name of no field is left to be passed over. -/
theorem readMember_of_not_mem (h : name ∉ fields.keys) (draft : Draft types) (cur : Cursor) :
    fields.readMember name cur draft = .ok none := by
  induction fields with
  | nil => rfl
  | cons key codec default? later ih =>
    obtain ⟨value?, draft⟩ := draft
    rw [keys, List.mem_cons, not_or] at h
    simp only [readMember, if_neg h.1, ih h.2]
    rfl

/-- The next key is read as the name that it stands for. -/
theorem toOption_nextKey? {first : Bool} {mark : Text} (h : Mark first mark) (key : StringForm)
    (rest : Text) (p : Position) :
    (nextKey? first ⟨mark ++ (key.text ++ rest), p⟩).toOption =
      key.meaning?.map (some ·, ⟨rest, p.past (mark ++ key.text)⟩) := by
  have hskip {space : Text} (hspace : IsSpace space) (q : Position) :
      skipSpace ⟨space ++ (key.text ++ rest), q⟩ = ⟨key.text ++ rest, q.past space⟩ :=
    skipSpace_append hspace (by simp [StringForm.text, isSpace]) q
  have hquote (q : Position) : next? ⟨key.text ++ rest, q⟩ = some '"' := rfl
  have hread (q : Position) : (StringLiteral.read (advance ⟨key.text ++ rest, q⟩) >>= fun found =>
      pure (some found.1, found.2)).toOption =
        key.meaning?.map (some ·, ⟨rest, q.past key.text⟩) := by
    rw [toOption_bind, key.toOption_read_text]
    cases key.meaning? <;> rfl
  rw [Position.past_append]
  cases h with
  | first hspace =>
    rw [nextKey?]
    simp only [hskip hspace, hquote]
    exact hread _
  | @later before behind hbefore hbehind =>
    rw [nextKey?, List.append_assoc, skipSpace_append hbefore (by simp [isSpace])]
    simp only [List.cons_append, next?_mk_cons, advance_mk_cons, hskip hbehind, hquote,
      Position.past_append, Position.past_cons]
    exact hread _

/-- Takes a member of an object into a draft. -/
def putMember? (fields : Fields types) (draft : Draft types) (member : StringForm × Form) :
    Option (Draft types) :=
  member.1.meaning?.bind fun name => fields.put? name member.2 draft

/-- One member is read, or passed over, and reading goes on behind it. -/
theorem toOption_readMembers_succ (h : fields.Uniform) {first : Bool} {mark before behind : Text}
    (hmark : Mark first mark) (hbefore : IsSpace before) (hbehind : IsSpace behind)
    (hf : f.Spelled t) (hrest : Numeral.Ends rest) (steps : Nat) (draft : Draft types)
    (p : Position) :
    (fields.readMembers first (steps + 1) draft
        ⟨mark ++ (key.text ++ (before ++ ':' :: (behind ++ (t ++ rest)))), p⟩).toOption =
      (fields.putMember? draft (key, f)).bind fun draft =>
        (fields.readMembers false steps draft ⟨rest, p.past
          (mark ++ (key.text ++ (before ++ ':' :: (behind ++ t))))⟩).toOption := by
  let q := p.past (mark ++ key.text)
  have hq : q.past (before ++ ':' :: (behind ++ t)) =
      p.past (mark ++ (key.text ++ (before ++ ':' :: (behind ++ t)))) := by
    simp only [q, Position.past_append, Position.past_cons]
  rw [readMembers, toOption_bind, toOption_lift, toOption_nextKey? hmark, putMember?]
  cases key.meaning? with
  | none => rfl
  | some name =>
    simp only [Option.map_some, Option.bind_some]
    rw [toOption_bind]
    -- the value is read if the name is a field's, and passed over otherwise
    by_cases hname : name ∈ fields.keys
    · rw [toOption_readMember h hname hf hbefore hbehind hrest]
      cases fields.put? name f draft with
      | none => rfl
      | some draft => simp only [Option.map_some, Option.bind_some, ← hq]; rfl
    · have hskip : (Stop.lift (expectColon ⟨before ++ ':' :: (behind ++ (t ++ rest)), q⟩ >>=
          skipValue)).toOption = some ⟨rest, q.past (before ++ ':' :: (behind ++ t))⟩ := by
        rw [toOption_lift, expectColon_append hbefore]
        refine (congrArg Except.toOption (skipValue_spelled hf hbehind hrest _)).trans ?_
        simp only [Position.past_append, Position.past_cons, Position.past_nil, toOption_ok]
      rw [readMember_of_not_mem hname, put?_of_not_mem hname]
      simp only [toOption_ok, Option.bind_some]
      rw [toOption_bind, hskip, Option.bind_some, hq]

/-- **The members of an object are read into the draft one after the other.** -/
theorem toOption_readMembers (h : fields.Uniform) {first : Bool} {body : Text}
    (hmembers : Form.MembersSpelled first members body) {steps : Nat}
    (hsteps : members.length < steps) (draft : Draft types) (rest : Text) (p : Position) :
    (fields.readMembers first steps draft ⟨body ++ '\x7d' :: rest, p⟩).toOption =
      (members.foldlM fields.putMember? draft).map (·, ⟨'\x7d' :: rest, p.past body⟩) := by
  -- on the members that are left, whatever draft those in front have made
  induction members generalizing first body steps draft p with
  | nil =>
    obtain ⟨steps, rfl⟩ := Nat.exists_eq_add_one_of_ne_zero (Nat.ne_zero_of_lt hsteps)
    obtain ⟨hspace⟩ := hmembers
    rw [readMembers, nextKey?_close first hspace]
    rfl
  | cons member later ih =>
    obtain ⟨steps, rfl⟩ := Nat.exists_eq_add_one_of_ne_zero (Nat.ne_zero_of_lt hsteps)
    obtain _ | ⟨hmark, hbefore, hbehind, hf, hlater⟩ := hmembers
    simp only [List.append_assoc, List.cons_append]
    rw [toOption_readMembers_succ h hmark hbefore hbehind hf (hlater.ends rest), List.foldlM_cons]
    cases fields.putMember? draft (_, _) with
    | none => rfl
    | some draft =>
      refine (ih hlater (Nat.lt_of_succ_lt_succ hsteps) draft _).trans ?_
      simp only [Position.past_append, Position.past_cons]
      rfl

/-- The members that were read make the record that they mean. -/
theorem foldlM_bind_finish (hkeys : fields.keys.Nodup) (members : List (StringForm × Form))
    (draft : Draft types) :
    (members.foldlM fields.putMember? draft).bind (fun draft => (fields.finish draft).toOption) =
      if ∀ member ∈ members, member.1.meaning?.isSome then fields.complete? members draft
      else none := by
  induction members generalizing draft with
  | nil => simpa using (fields.complete?_nil draft).symm
  | cons member later ih =>
    obtain ⟨key, f⟩ := member
    rw [List.foldlM_cons, putMember?]
    cases hkey : key.meaning? with
    | none => simp [hkey]
    | some name =>
      have hall : (∀ member ∈ (key, f) :: later, member.1.meaning?.isSome) ↔
          ∀ member ∈ later, member.1.meaning?.isSome := by simp [hkey]
      simp only [hall, complete?_cons hkeys hkey, Option.bind_some]
      cases fields.put? name f draft with
      | none => simp
      | some draft => exact ih draft

/-- Nothing is read unless the end of the record is found. -/
theorem toOption_conclude {α : Type} (close : Cursor → Option Fault × Cursor)
    (r : Except Stop (α × Cursor)) :
    (conclude close r).toOption = r.toOption.bind fun (a, cur) =>
      if (close cur).1 = none then some (a, (close cur).2) else none := by
  cases r with
  | error stop => cases stop <;> rfl
  | ok found =>
    obtain ⟨a, cur⟩ := found
    rw [conclude]
    split
    next hclose => simp [hclose]
    next hclose => simp [hclose]

theorem toOption_conclude_pair {α β : Type} (close : Cursor → Option Fault × Cursor) (a : α)
    (r : Except Stop (β × Cursor)) :
    (conclude close (r >>= fun found => pure ((a, found.1), found.2))).toOption =
      (conclude close r).toOption.map fun found => ((a, found.1), found.2) := by
  rw [toOption_conclude, toOption_conclude]
  rcases r with stop | ⟨b, cur⟩
  · rfl
  · simp only [bind, Except.bind, pure, Except.pure, toOption_ok, Option.bind_some]
    split <;> rfl

/-- **An object is read as the record that its members mean.** -/
theorem toOption_readObject (h : fields.Uniform) (hkeys : fields.keys.Nodup) {body : Text}
    (hmembers : Form.MembersSpelled true members body) {steps : Nat}
    (hsteps : members.length < steps) (rest : Text) (p : Position) :
    (conclude closeObject (do
      let (draft, cur) ← fields.readMembers true steps fields.blank ⟨body ++ '\x7d' :: rest, p⟩
      match fields.finish draft with
      | .ok tuple => return (tuple, cur)
      | .error complaint => .error (.unplaced complaint cur))).toOption =
      (fields.meaning? (.object members)).map (·, ⟨rest, p.past (body ++ ['\x7d'])⟩) := by
  rw [toOption_conclude, toOption_bind, toOption_readMembers h hmembers hsteps, meaning?,
    ← foldlM_bind_finish hkeys]
  cases members.foldlM fields.putMember? fields.blank with
  | none => rfl
  | some draft =>
    simp only [Option.map_some, Option.bind_some]
    cases fields.finish draft with
    | error complaint => rfl
    | ok tuple =>
      simp only [pure, Except.pure, toOption_ok, Option.bind_some, closeObject_cons, if_true,
        Option.map_some, Position.past_append]
      rfl

/-! ## Reading lists -/

theorem nextElement?_close (first : Bool) {space : Text} (h : IsSpace space) (rest : Text)
    (p : Position) :
    nextElement? first ⟨space ++ ']' :: rest, p⟩ =
      .ok (none, ⟨']' :: rest, p.past space⟩) := by
  rw [nextElement?, skipSpace_append h (by simp [isSpace])]
  rfl

theorem closeList_append {space : Text} (h : IsSpace space) (rest : Text) (p : Position) :
    closeList ⟨space ++ ']' :: rest, p⟩ = (none, ⟨rest, p.past (space ++ [']'])⟩) := by
  rw [closeList, skipSpace_append h (by simp [isSpace]), Position.past_append]
  rfl

theorem nextElement?_mark {first : Bool} {mark : Text} (h : Mark first mark) (hf : f.Spelled t)
    (rest : Text) (p : Position) :
    nextElement? first ⟨mark ++ (t ++ rest), p⟩ =
      .ok (some ⟨t ++ rest, p.past mark⟩, ⟨t ++ rest, p.past mark⟩) := by
  obtain ⟨c, later, rfl, hc⟩ := hf.exists_eq_cons
  obtain ⟨hspace, hcomma, hbracket⟩ := hc.bounds
  cases h with
  | first hmark =>
    rw [nextElement?, skipSpace_append hmark (hf.head?_append rest)]
    simp only [List.cons_append, next?_mk_cons, if_neg hbracket, if_true]
  | @later before behind hbefore hbehind =>
    rw [nextElement?, List.append_assoc, skipSpace_append hbefore (by simp [isSpace])]
    simp only [List.cons_append, next?_mk_cons, advance_mk_cons]
    rw [skipSpace_append hbehind (by simpa using hspace)]
    simp only [next?_mk_cons, if_neg hbracket, Position.past_append, Position.past_cons]
    rfl

theorem next?_of_closeList {cur : Cursor} (h : (closeList cur).1 = none) :
    cur.skipSpace.next? = some ']' := by
  unfold closeList at h
  dsimp only at h
  split at h
  next => cases h
  next c hnext =>
    by_cases hbracket : c = ']'
    · rw [hnext, hbracket]
    · rw [if_neg hbracket] at h
      split at h
      · split at h <;> cases h
      · cases h

/-- A list does not end in front of an element. -/
theorem closeList_mark {first : Bool} {mark : Text} (h : Mark first mark) (hf : f.Spelled t)
    (rest : Text) (p : Position) : (closeList ⟨mark ++ (t ++ rest), p⟩).1 ≠ none := by
  intro hclose
  have hnext := next?_of_closeList hclose
  cases h with
  | first hmark =>
    rw [skipSpace_append hmark (hf.head?_append rest)] at hnext
    obtain ⟨c, later, rfl, hc⟩ := hf.exists_eq_cons
    exact hc.bounds.2.2 (Option.some.inj hnext)
  | later hbefore hbehind =>
    rw [List.append_assoc, skipSpace_append hbefore (by simp [isSpace])] at hnext
    cases hnext

/-- **A list is read as the record that its elements mean.** -/
theorem toOption_readList (h : fields.Uniform) (expected : Text) {first : Bool} {index : Nat}
    (hfirst : (index == 0) = first) {body : Text} (hitems : Form.ItemsSpelled first items body)
    (rest : Text) (p : Position) :
    (conclude closeList
        (fields.readElements expected index ⟨body ++ ']' :: rest, p⟩)).toOption =
      (fields.ofItems? items).map (·, ⟨rest, p.past (body ++ [']'])⟩) := by
  induction fields generalizing first index items body p with
  | nil =>
    rw [readElements, toOption_conclude, toOption_ok, Option.bind_some]
    cases hitems with
    | nil hspace => simp only [closeList_append hspace]; rfl
    | cons hmark hf hlater =>
      simp only [List.append_assoc]
      rw [if_neg (closeList_mark hmark hf _ p)]
      rfl
  | @cons α types key codec default? later ih =>
    -- the later fields are read from what is left, whatever the first one is
    have hlater {items : List Form} {body : Text} (hitems : Form.ItemsSpelled false items body)
        (a : α) (q : Position) : (conclude closeList
          (later.readElements expected (index + 1) ⟨body ++ ']' :: rest, q⟩ >>= fun found =>
            pure ((a, found.1), found.2))).toOption =
        ((later.ofItems? items).map (a, ·)).map (·, ⟨rest, q.past (body ++ [']'])⟩) := by
      have hindex : (index + 1 == 0) = false := rfl
      rw [toOption_conclude_pair, ih h.2 hindex hitems, Option.map_map, Option.map_map]
      rfl
    rw [readElements, hfirst]
    cases hitems with
    | nil hspace =>
      rw [nextElement?_close first hspace]
      cases default? with
      | none => rfl
      | some a =>
        refine (hlater (.nil (List.forall_mem_nil _)) a (p.past body)).trans ?_
        rw [List.nil_append, Position.past_append]
        rfl
    | @cons _ mark t behind f items hmark hf hitems =>
      have hread := h.1 hf (List.forall_mem_nil _) (hitems.ends rest) (p.past mark)
      simp only [List.append_assoc]
      rw [nextElement?_mark hmark hf, ofItems?]
      rw [List.nil_append, List.nil_append] at hread
      change (conclude closeList (Stop.lift (codec.read _) >>= _)).toOption = _
      cases hcodec : codec.read ⟨t ++ (behind ++ ']' :: rest), p.past mark⟩ with
      | error fault =>
        rw [hcodec] at hread
        rw [Option.map_eq_none_iff.mp hread.symm]
        rfl
      | ok found =>
        rw [hcodec] at hread
        obtain ⟨a, hmeaning, rfl⟩ := Option.map_eq_some_iff.mp hread.symm
        rw [hmeaning]
        refine (hlater hitems a _).trans ?_
        simp only [Position.past_append]
        rfl

theorem length_le_of_membersSpelled {first : Bool} {body : Text}
    (h : Form.MembersSpelled first members body) : members.length ≤ body.length := by
  induction members generalizing first body with
  | nil => exact Nat.zero_le _
  | cons member later ih =>
    obtain _ | ⟨hmark, hbefore, hbehind, hf, hlater⟩ := h
    have hle := ih hlater
    simp only [List.length_append, List.length_cons]
    omega

/-- **Every text of a form is read as the record that the form means.** -/
theorem toOption_read (h : fields.Uniform) (hkeys : fields.keys.Nodup) (name : Text)
    (hf : f.Spelled t) {space : Text} (hspace : IsSpace space) (rest : Text) (p : Position) :
    (fields.read name ⟨space ++ (t ++ rest), p⟩).toOption =
      (fields.meaning? f).map (·, ⟨rest, p.past (space ++ t)⟩) := by
  obtain ⟨c, hc, hread⟩ := Codec.readFrom_spelled _ hf hspace rest p
  rw [Fields.read, hread, Position.past_append]
  by_cases hobject : ∃ members, f = .object members
  · obtain ⟨members, rfl⟩ := hobject
    obtain _ | _ | _ | _ | _ | @⟨_, body, hmembers⟩ := hf
    cases hc
    have hsteps : members.length < ('\x7b' :: (body ++ '\x7d' :: rest)).length + 1 := by
      have hle := length_le_of_membersSpelled hmembers
      simp only [List.length_cons, List.length_append]
      omega
    simp only [if_true, List.cons_append, List.append_assoc, List.nil_append, advance_mk_cons,
      Position.past_cons]
    exact toOption_readObject h hkeys hmembers hsteps rest _
  by_cases hlist : ∃ items, f = .list items
  · obtain ⟨items, rfl⟩ := hlist
    obtain _ | _ | _ | _ | @⟨_, body, hitems⟩ := hf
    cases hc
    have hfirst : (0 == 0) = true := rfl
    rw [if_neg (by decide), if_pos rfl]
    simp only [List.cons_append, List.append_assoc, List.nil_append, advance_mk_cons,
      Position.past_cons]
    exact toOption_readList h _ hfirst hitems rest _
  have hbrace : c ≠ '\x7b' := by
    rintro rfl
    exact hobject hc.exists_eq_object
  have hbracket : c ≠ '[' := by
    rintro rfl
    exact hlist hc.exists_eq_list
  have hnone : fields.meaning? f = none := by
    cases f with
    | object members => exact absurd ⟨members, rfl⟩ hobject
    | list items => exact absurd ⟨items, rfl⟩ hlist
    | null | flag | number | string => rfl
  rw [if_neg hbrace, if_neg hbracket, hnone]
  exact Codec.toOption_readMismatch _ _

end Fields

/-- **A record is read alike from all texts of a form**, if its fields are. -/
theorem Codec.readsBy_record {α : Type} {types : List Type} {name : String} {fields : Fields types}
    {make : Tuple types → α} {parts : α → Tuple types} (h : fields.Uniform)
    (hkeys : fields.keys.Nodup) :
    (Codec.record name fields make parts).ReadsBy fun f => (fields.meaning? f).map make := by
  intro f t hf space rest hspace _ p
  rw [Codec.record]
  dsimp only
  rw [toOption_map, Fields.toOption_read h hkeys _ hf hspace]
  cases fields.meaning? f <;> rfl

end Json
end CodeGloss
