import CodeGloss.Proofs.Json.RecordForm
import Mathlib.Data.List.Basic

/-! # Records written in other words

A record can be written in many ways.  The order of its members, members with names that are no
field's, a field that is absent or that is written out with its default, and the choice between an
object and a list of the leading fields make no difference to what is read (`Restates`); nor does
what is in the place of a field, as long as the field is read from it alike (`Replaces`).
-/
namespace CodeGloss
namespace Json
namespace Fields

variable {types : List Type} {fields : Fields types} {tuple : Tuple types}
variable {members members' : List (StringForm × Form)} {f f' g g' : Form} {name : Text}

/-! ## The ways to write a record -/

/-- The form is read as the default of the field with the name. -/
def IsDefault (fields : Fields types) (name : Text) (f : Form) : Prop :=
  fields.All fun key codec default? =>
    key = name → ∃ a, default? = some a ∧ codec.meaning? f = some a

/-- The elements of a list say of the leading fields what the members of an object say: a field that
is present keeps its form, one that is absent has its default.  Fields that are left over are
absent. -/
inductive Listed (members : List (StringForm × Form)) :
    {types : List Type} → Fields types → List Form → Prop
  | nil {types : List Type} {fields : Fields types} :
      (∀ name ∈ fields.keys, valuesOf name members = []) → Listed members fields []
  | present {α : Type} {types : List Type} {key : Text} {codec : Codec α} {default? : Option α}
      {later : Fields types} {f : Form} {items : List Form} :
      f ∈ valuesOf key members → Listed members later items →
      Listed members (.cons key codec default? later) (f :: items)
  | absent {α : Type} {types : List Type} {key : Text} {codec : Codec α} {a : α}
      {later : Fields types} {f : Form} {items : List Form} :
      valuesOf key members = [] → codec.meaning? f = some a → Listed members later items →
      Listed members (.cons key codec (some a) later) (f :: items)

/-- The second form says of a record what the first one says, in other words. -/
inductive Restates (fields : Fields types) : Form → Form → Prop
  /-- The members stand in another order. -/
  | reordered {members members' : List (StringForm × Form)} :
      members.Perm members' → Restates fields (.object members) (.object members')
  /-- A member comes in whose name is no field's. -/
  | added {before behind : List (StringForm × Form)} {key : StringForm} {name : Text} (f : Form) :
      key.meaning? = some name → name ∉ fields.keys →
      Restates fields (.object (before ++ behind)) (.object (before ++ (key, f) :: behind))
  /-- A member goes whose name is no field's. -/
  | removed {before behind : List (StringForm × Form)} {key : StringForm} {name : Text} (f : Form) :
      key.meaning? = some name → name ∉ fields.keys →
      Restates fields (.object (before ++ (key, f) :: behind)) (.object (before ++ behind))
  /-- A field that is absent is written out with its default. -/
  | filled {before behind : List (StringForm × Form)} {key : StringForm} {name : Text} {f : Form} :
      key.meaning? = some name → valuesOf name (before ++ behind) = [] → fields.IsDefault name f →
      Restates fields (.object (before ++ behind)) (.object (before ++ (key, f) :: behind))
  /-- The object is written as a list of leading fields. -/
  | listed {members : List (StringForm × Form)} {items : List Form} :
      Listed members fields items → Restates fields (.object members) (.list items)
  /-- The first field that is absent from a list is written out with its default. -/
  | extended {items : List Form} {name : Text} {f : Form} :
      fields.keys[items.length]? = some name → fields.IsDefault name f →
      Restates fields (.list items) (.list (items ++ [f]))

/-- The forms differ in one place: where the first has `f` for the field with the name, the second
has `f'`. -/
inductive Replaces (fields : Fields types) (name : Text) (f f' : Form) : Form → Form → Prop
  | member {before behind : List (StringForm × Form)} {key : StringForm} :
      key.meaning? = some name →
      Replaces fields name f f' (.object (before ++ (key, f) :: behind))
        (.object (before ++ (key, f') :: behind))
  | item {before behind : List Form} :
      fields.keys[before.length]? = some name →
      Replaces fields name f f' (.list (before ++ f :: behind)) (.list (before ++ f' :: behind))

/-- Whatever the field with the name is read as from the first form, it is read as from the second. -/
def KeepsField (fields : Fields types) (name : Text) (f f' : Form) : Prop :=
  fields.All fun key codec _ => key = name →
    ∀ a, codec.meaning? f = some a → codec.meaning? f' = some a

/-! ## Properties of all fields -/

section All

variable {property other : ∀ {α : Type}, Text → Codec α → Option α → Prop}

theorem all_of_keys (h : ∀ key ∈ fields.keys, ∀ {α : Type} (codec : Codec α) (default? : Option α),
    property key codec default?) : fields.All property := by
  induction fields with
  | nil => trivial
  | cons key codec default? later ih =>
    rw [keys, List.forall_mem_cons] at h
    exact ⟨h.1 codec default?, ih h.2⟩

theorem All.imp (h : fields.All property) (himp : ∀ {α : Type} {key : Text} {codec : Codec α}
    {default? : Option α}, property key codec default? → other key codec default?) :
    fields.All other := by
  induction fields with
  | nil => trivial
  | cons key codec default? later ih => exact ⟨himp h.1, ih h.2⟩

end All

/-! ## The values of a name -/

theorem valuesOf_append (name : Text) (before behind : List (StringForm × Form)) :
    valuesOf name (before ++ behind) = valuesOf name before ++ valuesOf name behind := by
  rw [valuesOf, List.filter_append, List.map_append]
  rfl

theorem valuesOf_perm (h : members.Perm members') (name : Text) :
    (valuesOf name members).Perm (valuesOf name members') :=
  (h.filter _).map _

theorem settle?_perm {α : Type} (codec : Codec α) (default? value? : Option α)
    {forms forms' : List Form} (h : forms.Perm forms') :
    settle? codec default? value? forms = settle? codec default? value? forms' := by
  have hlength := h.length_eq
  match forms, forms' with
  | [], [] => rfl
  | [f], [f'] => rw [List.singleton_perm_singleton.mp h]
  | _ :: _ :: _, _ :: _ :: _ => cases value? <;> rfl

/-- A value that a field is given settles it only if it is the only one. -/
theorem settle?_of_append {α : Type} {codec : Codec α} {default? : Option α}
    {before behind : List Form} {a : α}
    (h : settle? codec default? none (before ++ f :: behind) = some a) :
    before = [] ∧ behind = [] ∧ codec.meaning? f = some a := by
  match before, behind with
  | [], [] => exact ⟨rfl, rfl, h⟩
  | [], _ :: _ => cases h
  | [_], _ => cases h
  | _ :: _ :: _, _ => cases h

/-! ## Objects -/

theorem meaning?_object_eq_some_iff :
    fields.meaning? (.object members) = some tuple ↔
      (∀ member ∈ members, member.1.meaning?.isSome) ∧
        fields.complete? members fields.blank = some tuple := by
  rw [meaning?, ite_eq_iff]
  simp

/-- There is a pair exactly if both parts of it are there. -/
theorem pair_eq_some_iff {α β : Type} {x : Option α} {y : Option β} {pair : α × β} :
    (x.bind fun a => y.map (a, ·)) = some pair ↔ x = some pair.1 ∧ y = some pair.2 := by
  cases x <;> cases y <;> simp [Prod.ext_iff]

/-- A field that is given the values of the second object has the value that those of the first
give it, if they do. -/
def Settled (members members' : List (StringForm × Form)) {α : Type} (key : Text) (codec : Codec α)
    (default? : Option α) : Prop :=
  ∀ a, settle? codec default? none (valuesOf key members) = some a →
    settle? codec default? none (valuesOf key members') = some a

theorem complete?_mono (h : fields.All (Settled members members'))
    (hmeant : fields.complete? members fields.blank = some tuple) :
    fields.complete? members' fields.blank = some tuple := by
  induction fields with
  | nil => exact hmeant
  | cons key codec default? later ih =>
    obtain ⟨ha, htuple⟩ := pair_eq_some_iff.mp hmeant
    exact pair_eq_some_iff.mpr ⟨h.1 _ ha, ih h.2 htuple⟩

/-- **An object keeps its meaning if every field does**, and if its keys stand for names. -/
theorem meaning?_object_mono (hkeys : (∀ member ∈ members, member.1.meaning?.isSome) →
      ∀ member ∈ members', member.1.meaning?.isSome)
    (h : fields.All (Settled members members'))
    (hmeant : fields.meaning? (.object members) = some tuple) :
    fields.meaning? (.object members') = some tuple := by
  rw [meaning?_object_eq_some_iff] at hmeant ⊢
  exact ⟨hkeys hmeant.1, complete?_mono h hmeant.2⟩

section Members

variable {before behind : List (StringForm × Form)} {key : StringForm}

theorem valuesOf_insert (hkey : key.meaning? = some name) (other : Text) :
    valuesOf other (before ++ (key, f) :: behind) =
      valuesOf other before ++ if name = other then f :: valuesOf other behind
        else valuesOf other behind := by
  rw [valuesOf_append, valuesOf_cons hkey]

theorem isSome_insert_iff (hkey : key.meaning? = some name) :
    (∀ member ∈ before ++ (key, f) :: behind, member.1.meaning?.isSome) ↔
      ∀ member ∈ before ++ behind, member.1.meaning?.isSome := by
  simp only [List.forall_mem_append, List.forall_mem_cons, hkey, Option.isSome_some, true_and]

theorem meaning?_reordered (h : members.Perm members')
    (hmeant : fields.meaning? (.object members) = some tuple) :
    fields.meaning? (.object members') = some tuple := by
  refine meaning?_object_mono (fun hall member hmem => hall member (h.mem_iff.mpr hmem)) ?_ hmeant
  refine all_of_keys fun key _ _ codec default? a ha => ?_
  rwa [← settle?_perm codec default? none (valuesOf_perm h key)]

/-- A member with a name that is no field's does not matter. -/
theorem meaning?_added_iff (hkey : key.meaning? = some name) (hname : name ∉ fields.keys) :
    fields.meaning? (.object (before ++ (key, f) :: behind)) = some tuple ↔
      fields.meaning? (.object (before ++ behind)) = some tuple := by
  have hvalues : ∀ other ∈ fields.keys,
      valuesOf other (before ++ (key, f) :: behind) = valuesOf other (before ++ behind) := by
    intro other hother
    have hne : name ≠ other := fun h => hname (h ▸ hother)
    rw [valuesOf_insert hkey, if_neg hne, valuesOf_append]
  constructor
  · refine meaning?_object_mono (isSome_insert_iff hkey).mp
      (all_of_keys fun other hother _ codec default? a ha => ?_)
    rwa [← hvalues other hother]
  · refine meaning?_object_mono (isSome_insert_iff hkey).mpr
      (all_of_keys fun other hother _ codec default? a ha => ?_)
    rwa [hvalues other hother]

theorem meaning?_filled (hkey : key.meaning? = some name)
    (habsent : valuesOf name (before ++ behind) = []) (hdefault : fields.IsDefault name f)
    (hmeant : fields.meaning? (.object (before ++ behind)) = some tuple) :
    fields.meaning? (.object (before ++ (key, f) :: behind)) = some tuple := by
  refine meaning?_object_mono (isSome_insert_iff hkey).mpr (hdefault.imp ?_) hmeant
  intro α other codec default? hother a ha
  rw [valuesOf_insert hkey]
  by_cases hname : name = other
  · -- the field had its default so far, and is now given a form of that
    subst hname
    obtain ⟨b, rfl, hb⟩ := hother rfl
    rw [habsent] at ha
    rw [valuesOf_append, List.append_eq_nil_iff] at habsent
    rw [if_pos rfl, habsent.1, habsent.2]
    exact hb.trans ha
  · rwa [if_neg hname, ← valuesOf_append]

theorem meaning?_replaced_member (hkey : key.meaning? = some name)
    (hfield : fields.KeepsField name f f')
    (hmeant : fields.meaning? (.object (before ++ (key, f) :: behind)) = some tuple) :
    fields.meaning? (.object (before ++ (key, f') :: behind)) = some tuple := by
  refine meaning?_object_mono
    (fun h => (isSome_insert_iff hkey).mpr ((isSome_insert_iff hkey).mp h)) (hfield.imp ?_) hmeant
  intro α other codec default? hother a ha
  rw [valuesOf_insert hkey] at ha ⊢
  by_cases hname : name = other
  · -- the field was read, so it was given nothing but the first form
    rw [if_pos hname] at ha ⊢
    obtain ⟨hbefore, hbehind, hf⟩ := settle?_of_append ha
    rw [hbefore, hbehind]
    exact hother hname.symm a hf
  · rwa [if_neg hname] at ha ⊢

end Members

/-! ## Lists -/

theorem ofItems?_nil (h : ∀ name ∈ fields.keys, valuesOf name members = [])
    (hmeant : fields.complete? members fields.blank = some tuple) :
    fields.ofItems? [] = some tuple := by
  induction fields with
  | nil => exact hmeant
  | cons key codec default? later ih =>
    rw [keys, List.forall_mem_cons] at h
    obtain ⟨ha, htuple⟩ := pair_eq_some_iff.mp hmeant
    rw [h.1] at ha
    exact pair_eq_some_iff.mpr ⟨ha, ih h.2 htuple⟩

theorem ofItems?_listed {items : List Form} (h : Listed members fields items)
    (hmeant : fields.complete? members fields.blank = some tuple) :
    fields.ofItems? items = some tuple := by
  induction h with
  | nil habsent => exact ofItems?_nil habsent hmeant
  | @present α types key codec default? later f items hf _ ih =>
    obtain ⟨ha, htuple⟩ := pair_eq_some_iff.mp hmeant
    obtain ⟨before, behind, hvalues⟩ := List.append_of_mem hf
    rw [hvalues] at ha
    exact pair_eq_some_iff.mpr ⟨(settle?_of_append ha).2.2, ih htuple⟩
  | @absent α types key codec b later f items habsent hf _ ih =>
    obtain ⟨ha, htuple⟩ := pair_eq_some_iff.mp hmeant
    rw [habsent] at ha
    exact pair_eq_some_iff.mpr ⟨hf.trans ha, ih htuple⟩

theorem ofItems?_extended {items : List Form} (hname : fields.keys[items.length]? = some name)
    (hdefault : fields.IsDefault name f) (hmeant : fields.ofItems? items = some tuple) :
    fields.ofItems? (items ++ [f]) = some tuple := by
  induction fields generalizing items with
  | nil => cases hname
  | cons key codec default? later ih =>
    cases items with
    | nil =>
      obtain ⟨ha, htuple⟩ := pair_eq_some_iff.mp hmeant
      obtain ⟨b, hb, hf⟩ := hdefault.1 (Option.some.inj hname)
      exact pair_eq_some_iff.mpr ⟨hf.trans (hb.symm.trans ha), htuple⟩
    | cons item items =>
      obtain ⟨ha, htuple⟩ := pair_eq_some_iff.mp hmeant
      exact pair_eq_some_iff.mpr ⟨ha, ih hname hdefault.2 htuple⟩

theorem ofItems?_replaced {before behind : List Form}
    (hname : fields.keys[before.length]? = some name)
    (hfield : fields.KeepsField name f f')
    (hmeant : fields.ofItems? (before ++ f :: behind) = some tuple) :
    fields.ofItems? (before ++ f' :: behind) = some tuple := by
  induction fields generalizing before with
  | nil => cases hname
  | cons key codec default? later ih =>
    cases before with
    | nil =>
      obtain ⟨ha, htuple⟩ := pair_eq_some_iff.mp hmeant
      exact pair_eq_some_iff.mpr ⟨hfield.1 (Option.some.inj hname) _ ha, htuple⟩
    | cons item before =>
      obtain ⟨ha, htuple⟩ := pair_eq_some_iff.mp hmeant
      exact pair_eq_some_iff.mpr ⟨ha, ih hname hfield.2 htuple⟩

/-! ## What is read in other words -/

/-- **A record that is written in other words is read as the same record.** -/
theorem Restates.meaning? (h : fields.Restates f f') (hmeant : fields.meaning? f = some tuple) :
    fields.meaning? f' = some tuple := by
  cases h with
  | reordered hperm => exact meaning?_reordered hperm hmeant
  | added _ hkey hname => exact (meaning?_added_iff hkey hname).mpr hmeant
  | removed _ hkey hname => exact (meaning?_added_iff hkey hname).mp hmeant
  | filled hkey habsent hdefault => exact meaning?_filled hkey habsent hdefault hmeant
  | listed hlisted => exact ofItems?_listed hlisted (meaning?_object_eq_some_iff.mp hmeant).2
  | extended hname hdefault => exact ofItems?_extended hname hdefault hmeant

/-- A record keeps its meaning if the forms in one place are read alike for the field there. -/
theorem Replaces.meaning? (h : fields.Replaces name f f' g g')
    (hfield : fields.KeepsField name f f')
    (hmeant : fields.meaning? g = some tuple) : fields.meaning? g' = some tuple := by
  cases h with
  | member hkey => exact meaning?_replaced_member hkey hfield hmeant
  | item hname => exact ofItems?_replaced hname hfield hmeant

end Fields

/-! ## Codecs of records -/

namespace Codec

variable {α : Type} {types : List Type} {fields : Fields types} {codec : Codec α} {f f' : Form}

/-- The codec reads all texts of a form alike, as a record of the fields. -/
def ReadsRecords (codec : Codec α) (fields : Fields types) : Prop :=
  ∃ make : Tuple types → α, codec.ReadsBy fun f => (fields.meaning? f).map make

theorem readsRecords_record {name : String} {make : Tuple types → α} {parts : α → Tuple types}
    (h : fields.Uniform) (hkeys : fields.keys.Nodup) :
    (Codec.record name fields make parts).ReadsRecords fields :=
  ⟨make, readsBy_record h hkeys⟩

theorem ReadsRecords.uniform (h : codec.ReadsRecords fields) : codec.Uniform := by
  obtain ⟨make, hmake⟩ := h
  exact hmake.uniform

/-- What does not change the fields of a record does not change the record. -/
theorem ReadsRecords.meaning?_mono (h : codec.ReadsRecords fields)
    (hfields : ∀ tuple, fields.meaning? f = some tuple → fields.meaning? f' = some tuple) {a : α}
    (hmeant : codec.meaning? f = some a) : codec.meaning? f' = some a := by
  obtain ⟨make, hmake⟩ := h
  rw [hmake.meaning?_eq] at hmeant ⊢
  obtain ⟨tuple, htuple, rfl⟩ := Option.map_eq_some_iff.mp hmeant
  exact Option.map_eq_some_iff.mpr ⟨tuple, hfields tuple htuple, rfl⟩

end Codec
end Json
end CodeGloss
