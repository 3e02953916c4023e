import CodeGloss.Json.Record
import CodeGloss.Proofs.Json.Codec
import CodeGloss.Proofs.Json.StringLiteral

/-! # Records that are read as they were written

A record is lawful if its fields are and no two of them share a key (`lawful_record`).

Members may be read in any order, so the induction is on the members that are left, whatever was
read before them.  The draft at any point has the values of the keys that were read (`drafted`); a
further member adds its key to them (`readMember_drafted`), and when all keys were read the draft is
the whole record (`finish_drafted`).
-/
namespace CodeGloss
namespace Json

open Text Cursor

/-! ## Keys, colons and braces -/

theorem expectColon_cons (rest : Text) (p : Position) :
    expectColon ⟨':' :: rest, p⟩ = .ok ⟨rest, p.behind ':'⟩ := by
  rw [expectColon, skipSpace_of_head (by simp [isSpace])]
  rfl

/-- What stands in front of a key: space, and a comma unless it is the first one. -/
def beforeKey (first : Bool) (space : Text) : Text :=
  if first then space else ',' :: space

theorem nextKey?_write (first : Bool) {space : Text} (hspace : IsSpace space) (key rest : Text)
    (p : Position) :
    nextKey? first ⟨beforeKey first space ++ (StringLiteral.write key ++ rest), p⟩ =
      .ok (some key, ⟨rest, p.past (beforeKey first space ++ StringLiteral.write key)⟩) := by
  have hskip (q : Position) : skipSpace ⟨space ++ (StringLiteral.write key ++ rest), q⟩ =
      ⟨StringLiteral.write key ++ rest, q.past space⟩ :=
    skipSpace_append hspace (by simp [StringLiteral.write_eq, isSpace]) q
  have hquote (q : Position) : next? ⟨StringLiteral.write key ++ rest, q⟩ = some '"' := rfl
  rw [Position.past_append]
  cases first with
  | true =>
    rw [beforeKey, if_pos rfl, nextKey?]
    simp only [hskip, hquote, StringLiteral.read_write]
    rfl
  | false =>
    rw [beforeKey, if_neg Bool.false_ne_true, nextKey?, List.cons_append,
      skipSpace_of_head (by simp [isSpace])]
    simp only [next?_mk_cons, advance_mk_cons, hskip, hquote, StringLiteral.read_write]
    rfl

theorem nextKey?_close (first : Bool) {space : Text} (hspace : IsSpace space) (rest : Text)
    (p : Position) :
    nextKey? first ⟨space ++ '\x7d' :: rest, p⟩ = .ok (none, ⟨'\x7d' :: rest, p.past space⟩) := by
  rw [nextKey?, skipSpace_append hspace (by simp [isSpace])]
  rfl

theorem closeObject_cons (rest : Text) (p : Position) :
    closeObject ⟨'\x7d' :: rest, p⟩ = (none, ⟨rest, p.behind '\x7d'⟩) := by
  rw [closeObject, skipSpace_of_head (by simp [isSpace])]
  rfl

namespace Fields

variable {types : List Type} {fields : Fields types} {tuple : Tuple types}

/-! ## Fields and members -/

/-- The keys of the fields, in order. -/
def keys : {types : List Type} → Fields types → List Text
  | _, nil => []
  | _, cons key _ _ later => key :: later.keys

/-- The text is read as the value that the tuple has for the field with the key. -/
def Member (key written : Text) : {types : List Type} → Fields types → Tuple types → Prop
  | _, nil, _ => False
  | _, cons k codec _ later, (a, tuple) =>
    (key = k ∧ codec.Reads written a) ∨ later.Member key written tuple

theorem Member.mem_keys {key written : Text} (h : fields.Member key written tuple) :
    key ∈ fields.keys := by
  induction fields with
  | nil => exact h.elim
  | cons k codec default? later ih =>
    rcases h with ⟨rfl, -⟩ | h
    · exact List.mem_cons_self
    · exact List.mem_cons_of_mem _ (ih h)

/-- The draft with the values of the given keys. -/
def drafted (given : List Text) : {types : List Type} → Fields types → Tuple types → Draft types
  | _, nil, _ => ()
  | _, cons key _ _ later, (a, tuple) =>
    (if key ∈ given then some a else none, later.drafted given tuple)

theorem drafted_nil (fields : Fields types) (tuple : Tuple types) :
    fields.drafted [] tuple = fields.blank := by
  induction fields with
  | nil => rfl
  | cons key codec default? later ih =>
    obtain ⟨a, tuple⟩ := tuple
    rw [drafted, blank, ih, if_neg List.not_mem_nil]

/-- A key of no field makes no difference to a draft. -/
theorem drafted_cons_of_not_mem {key : Text} (h : key ∉ fields.keys) (given : List Text) :
    fields.drafted (key :: given) tuple = fields.drafted given tuple := by
  induction fields with
  | nil => rfl
  | cons k codec default? later ih =>
    obtain ⟨a, tuple⟩ := tuple
    rw [keys, List.mem_cons, not_or] at h
    simp only [drafted, List.mem_cons, Ne.symm h.1, false_or, ih h.2]
    rfl

/-- When all keys were read, the draft is the whole record. -/
theorem finish_drafted {given : List Text} (h : ∀ key ∈ fields.keys, key ∈ given) :
    fields.finish (fields.drafted given tuple) = .ok tuple := by
  induction fields with
  | nil => rfl
  | cons key codec default? later ih =>
    obtain ⟨a, tuple⟩ := tuple
    rw [keys, List.forall_mem_cons] at h
    rw [drafted, finish, if_pos h.1, ih h.2]
    rfl

/-- **Reading a member adds its key to those that were read**, whichever these were. -/
theorem readMember_drafted (hkeys : fields.keys.Nodup) {given : List Text} {key written : Text}
    (hmember : fields.Member key written tuple) (hnew : key ∉ given) {rest : Text}
    (hrest : Numeral.Ends rest) (p : Position) :
    fields.readMember key ⟨':' :: ' ' :: (written ++ rest), p⟩ (fields.drafted given tuple) =
      .ok (some (fields.drafted (key :: given) tuple,
        ⟨rest, p.past (':' :: ' ' :: written)⟩)) := by
  induction fields with
  | nil => exact hmember.elim
  | cons k codec default? later ih =>
    obtain ⟨a, tuple⟩ := tuple
    obtain ⟨hk, hlater⟩ := List.nodup_cons.mp hkeys
    rcases hmember with ⟨rfl, hreads⟩ | hmember
    · have hspace : IsSpace [' '] := isSpace_replicate 1
      have hread : (expectColon ⟨':' :: ' ' :: (written ++ rest), p⟩ >>= codec.read) =
          .ok (a, ⟨rest, p.past (':' :: ' ' :: written)⟩) := by
        rw [expectColon_cons]
        exact hreads hspace hrest (p.behind ':')
      have hothers : later.drafted (key :: given) tuple = later.drafted given tuple :=
        drafted_cons_of_not_mem hk given
      simp only [drafted, readMember, if_true, if_neg hnew, if_pos List.mem_cons_self, hothers,
        hread]
      rfl
    · have hne : key ≠ k := fun h => hk (h ▸ hmember.mem_keys)
      simp only [drafted, readMember, if_neg hne, ih hlater hmember, List.mem_cons, Ne.symm hne,
        false_or]
      rfl

/-! ## Written members -/

/-- A member on a line of its own. -/
def writtenMember (depth : Nat) (member : Text × Text) : Text :=
  List.replicate (2 * depth) ' ' ++ StringLiteral.write member.1 ++ ": ".toList ++ member.2

/-- Members up to the closing brace of the record, each given by its key and the text of its value.
`first` says that no member stands in front of them. -/
def writtenMembers (depth : Nat) : (first : Bool) → List (Text × Text) → Text
  | first, [] => (if first then ['\n', '\n'] else ['\n']) ++ List.replicate (2 * depth) ' '
  | first, (key, written) :: later =>
    beforeKey first ('\n' :: List.replicate (2 * (depth + 1)) ' ') ++
      (StringLiteral.write key ++
        (':' :: ' ' :: (written ++ writtenMembers depth false later)))

/-- The members of a record as they are written. -/
def members (depth : Nat) : {types : List Type} → Fields types → Tuple types → List (Text × Text)
  | _, nil, _ => []
  | _, cons key codec _ later, (a, tuple) =>
    (key, codec.write depth a) :: later.members depth tuple

theorem map_members (fields : Fields types) (depth : Nat) (tuple : Tuple types) :
    (fields.members depth tuple).map Prod.fst = fields.keys := by
  induction fields with
  | nil => rfl
  | cons key codec default? later ih =>
    obtain ⟨a, tuple⟩ := tuple
    simp only [members, List.map_cons, ih, keys]

theorem writeMembers_eq (fields : Fields types) (depth : Nat) (tuple : Tuple types) :
    fields.writeMembers depth tuple = (fields.members depth tuple).map (writtenMember depth) := by
  induction fields with
  | nil => rfl
  | cons key codec default? later ih =>
    obtain ⟨a, tuple⟩ := tuple
    simp only [members, List.map_cons, writeMembers, ih, writtenMember]

theorem intercalate_writtenMember (depth : Nat) (member : Text × Text)
    (later : List (Text × Text)) :
    '\n' :: (",\n".toList.intercalate ((member :: later).map (writtenMember (depth + 1))) ++
        '\n' :: List.replicate (2 * depth) ' ') =
      writtenMembers depth true (member :: later) := by
  induction later generalizing member with
  | nil => simp [List.intercalate, writtenMember, writtenMembers, beforeKey]
  | cons second later ih =>
    have hlater := ih second
    rw [List.map_cons] at hlater
    rw [List.map_cons, List.map_cons, List.intercalate_cons_cons, List.append_assoc,
      List.append_assoc]
    simp only [writtenMembers, beforeKey, if_true, Bool.false_eq_true, if_false] at hlater ⊢
    simp [writtenMember, ← hlater]

theorem write_eq (fields : Fields types) (depth : Nat) (tuple : Tuple types) :
    fields.write depth tuple =
      '\x7b' :: (writtenMembers depth true (fields.members (depth + 1) tuple) ++ ['\x7d']) := by
  rw [write, writeMembers_eq]
  cases fields.members (depth + 1) tuple with
  | nil => simp [writtenMembers, List.intercalate]
  | cons member later => simp [← intercalate_writtenMember]

/-- Behind a value there is a comma or the end of the line. -/
theorem ends_writtenMembers (depth : Nat) (later : List (Text × Text)) (rest : Text) :
    Numeral.Ends (writtenMembers depth false later ++ rest) := by
  cases later <;> simp [writtenMembers, beforeKey, Numeral.Ends]

theorem length_le_writtenMembers (depth : Nat) (first : Bool) (members : List (Text × Text)) :
    members.length ≤ (writtenMembers depth first members).length := by
  induction members generalizing first with
  | nil => exact Nat.zero_le _
  | cons member later ih =>
    have hlater := ih false
    simp only [writtenMembers, List.length_append, List.length_cons]
    omega

theorem isSpace_lineFeed_cons {space : Text} (h : IsSpace space) : IsSpace ('\n' :: space) :=
  List.forall_mem_cons.mpr ⟨by decide, h⟩

/-- One member is read, and reading goes on behind it. -/
theorem readMembers_succ {first : Bool} {steps : Nat} {draft draft' : Draft types}
    {cur behind cur' : Cursor} {key : Text} (hkey : nextKey? first cur = .ok (some key, behind))
    (hmember : fields.readMember key behind draft = .ok (some (draft', cur'))) :
    fields.readMembers first (steps + 1) draft cur = fields.readMembers false steps draft' cur' := by
  rw [readMembers, hkey]
  simp only [Stop.lift, bind, Except.bind, hmember]

/-- **Members are read in whatever order they stand**, each key once. -/
theorem readMembers_written (hkeys : fields.keys.Nodup) {members : List (Text × Text)}
    (hmembers : ∀ member ∈ members, fields.Member member.1 member.2 tuple)
    (hnodup : (members.map Prod.fst).Nodup) {given : List Text}
    (hnew : ∀ member ∈ members, member.1 ∉ given) {steps : Nat} (hsteps : members.length < steps)
    (first : Bool) (depth : Nat) (rest : Text) (p : Position) :
    fields.readMembers first steps (fields.drafted given tuple)
        ⟨writtenMembers depth first members ++ '\x7d' :: rest, p⟩ =
      .ok (fields.drafted ((members.map Prod.fst).reverse ++ given) tuple,
        ⟨'\x7d' :: rest, p.past (writtenMembers depth first members)⟩) := by
  induction members generalizing given steps first p with
  | nil =>
    obtain ⟨steps, rfl⟩ := Nat.exists_eq_add_one_of_ne_zero (Nat.ne_zero_of_lt hsteps)
    have hspace : IsSpace (writtenMembers depth first []) := by
      cases first with
      | true => exact isSpace_lineFeed_cons (isSpace_lineFeed_cons (isSpace_replicate _))
      | false => exact isSpace_lineFeed_cons (isSpace_replicate _)
    rw [readMembers, nextKey?_close first hspace]
    rfl
  | cons member later ih =>
    obtain ⟨steps, rfl⟩ := Nat.exists_eq_add_one_of_ne_zero (Nat.ne_zero_of_lt hsteps)
    obtain ⟨key, written⟩ := member
    obtain ⟨hmember, hmembers⟩ := List.forall_mem_cons.mp hmembers
    obtain ⟨hkey, hnodup⟩ := List.nodup_cons.mp hnodup
    obtain ⟨hnewKey, hnew⟩ := List.forall_mem_cons.mp hnew
    have hnewLater : ∀ member ∈ later, member.1 ∉ key :: given := by
      intro member hmem
      rw [List.mem_cons, not_or]
      exact ⟨fun h => hkey (List.mem_map.mpr ⟨member, hmem, h⟩), hnew member hmem⟩
    have hspace : IsSpace ('\n' :: List.replicate (2 * (depth + 1)) ' ') :=
      isSpace_lineFeed_cons (isSpace_replicate _)
    let behind := p.past (beforeKey first ('\n' :: List.replicate (2 * (depth + 1)) ' ') ++
      StringLiteral.write key)
    have hnext : nextKey? first ⟨writtenMembers depth first ((key, written) :: later) ++
        '\x7d' :: rest, p⟩ = .ok (some key, ⟨':' :: ' ' ::
          (written ++ (writtenMembers depth false later ++ '\x7d' :: rest)), behind⟩) := by
      rw [writtenMembers, List.append_assoc, List.append_assoc, nextKey?_write first hspace,
        List.cons_append, List.cons_append, List.append_assoc]
    have hread : fields.readMember key ⟨':' :: ' ' ::
        (written ++ (writtenMembers depth false later ++ '\x7d' :: rest)), behind⟩
          (fields.drafted given tuple) = .ok (some (fields.drafted (key :: given) tuple,
            ⟨writtenMembers depth false later ++ '\x7d' :: rest,
              behind.past (':' :: ' ' :: written)⟩)) :=
      readMember_drafted hkeys hmember hnewKey (ends_writtenMembers depth later _) behind
    rw [readMembers_succ hnext hread,
      ih hmembers hnodup hnewLater (Nat.lt_of_succ_lt_succ hsteps), List.map_cons,
      List.reverse_cons, List.append_assoc, List.singleton_append]
    simp only [behind, writtenMembers, Position.past_append, Position.past_cons]

/-! ## Whole records -/

/-- All fields have lawful codecs. -/
def Lawful : {types : List Type} → Fields types → Prop
  | _, nil => True
  | _, cons _ codec _ later => codec.Lawful ∧ later.Lawful

theorem Lawful.member (h : fields.Lawful) (depth : Nat) {member : Text × Text}
    (hmember : member ∈ fields.members depth tuple) :
    fields.Member member.1 member.2 tuple := by
  induction fields with
  | nil => exact absurd hmember List.not_mem_nil
  | cons key codec default? later ih =>
    obtain ⟨a, tuple⟩ := tuple
    rcases List.mem_cons.mp hmember with rfl | hmember
    · exact Or.inl ⟨rfl, h.1 depth a⟩
    · exact Or.inr (ih h.2 hmember)

/-- The written members of a record fill the draft. -/
theorem readMembers_members (h : fields.Lawful) (hkeys : fields.keys.Nodup) (depth : Nat)
    {steps : Nat} (hsteps : (fields.members (depth + 1) tuple).length < steps) (rest : Text)
    (p : Position) :
    ∃ draft, fields.finish draft = .ok tuple ∧
      fields.readMembers true steps fields.blank
          ⟨writtenMembers depth true (fields.members (depth + 1) tuple) ++ '\x7d' :: rest, p⟩ =
        .ok (draft, ⟨'\x7d' :: rest,
          p.past (writtenMembers depth true (fields.members (depth + 1) tuple))⟩) := by
  have hnames := map_members fields (depth + 1) tuple
  have hread := readMembers_written hkeys (fun _ => h.member (depth + 1)) (hnames ▸ hkeys)
    (fun _ _ => List.not_mem_nil) hsteps true depth rest p
  rw [drafted_nil, hnames, List.append_nil] at hread
  exact ⟨_, finish_drafted fun _ => List.mem_reverse.mpr, hread⟩

/-- **A record is read from its written form.** -/
theorem read_write (h : fields.Lawful) (hkeys : fields.keys.Nodup) (name : Text) (depth : Nat)
    {space : Text} (hspace : IsSpace space) (rest : Text) (p : Position) :
    fields.read name ⟨space ++ (fields.write depth tuple ++ rest), p⟩ =
      .ok (tuple, ⟨rest, p.past (space ++ fields.write depth tuple)⟩) := by
  have hsteps : (fields.members (depth + 1) tuple).length <
      ('\x7b' :: (writtenMembers depth true (fields.members (depth + 1) tuple) ++
        '\x7d' :: rest)).length + 1 := by
    have hlength := length_le_writtenMembers depth true (fields.members (depth + 1) tuple)
    rw [List.length_cons, List.length_append]
    omega
  obtain ⟨draft, hfinish, hread⟩ :=
    readMembers_members h hkeys depth hsteps rest ((p.past space).behind '\x7b')
  rw [write_eq, List.cons_append, List.append_assoc, List.singleton_append, Fields.read,
    Codec.readFrom_append _ hspace (by decide), if_pos rfl, advance_mk_cons]
  simp only [hread, bind, Except.bind, hfinish, pure, Except.pure, conclude, closeObject_cons,
    Position.past_append, Position.past_cons, Position.past_nil]

end Fields

/-- **Records are lawful if their fields are** and have different keys. -/
theorem Codec.lawful_record {α : Type} {types : List Type} {name : String} {fields : Fields types}
    {make : Tuple types → α} {parts : α → Tuple types} (h : fields.Lawful)
    (hkeys : fields.keys.Nodup) (hmake : ∀ a, make (parts a) = a) :
    (Codec.record name fields make parts).Lawful := by
  intro depth a space rest hspace _ p
  rw [Codec.record]
  dsimp only
  rw [Fields.read_write h hkeys _ depth hspace]
  exact congrArg (fun b => Except.ok (b, _)) (hmake a)

end Json
end CodeGloss
