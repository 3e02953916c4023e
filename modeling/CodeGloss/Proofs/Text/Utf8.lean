import CodeGloss.Text.Utf8
import Mathlib.Tactic.SplitIfs

/-! # Reading and writing UTF-8

Reading the octets of a text gives the text back (`decode_encode`): a character has one to four
octets, and for each number of octets `lead` puts the character together again.  No other octets are
read as the text (`decode_eq_ok_iff`): the bounds that `lead` checks leave each character one way to
be written, so octets that are those of no text are a fault (`exists_decode_eq_error`).

An ASCII character is one octet, and no octet of any other character is below `0x80`
(`utf8EncodeChar_of_mem`).  So the line feeds and carriage returns among the octets of a text are
those of the text.
-/
namespace CodeGloss
namespace Utf8

/-! ## One character -/

theorem follows_of_bounds {first second : UInt8} (hlow : 0x80 ≤ second.toNat)
    (hhigh : second.toNat ≤ 0xBF) (hE0 : first.toNat = 0xE0 → 0xA0 ≤ second.toNat)
    (hED : first.toNat = 0xED → second.toNat ≤ 0x9F)
    (hF0 : first.toNat = 0xF0 → 0x90 ≤ second.toNat)
    (hF4 : first.toNat = 0xF4 → second.toNat ≤ 0x8F) : follows first second = true := by
  simp only [follows, secondRange, ← UInt8.toNat_inj, UInt8.le_iff_toNat_le, Bool.and_eq_true,
    decide_eq_true_eq]
  split
  next h => exact ⟨hE0 h, hhigh⟩
  next =>
    split
    next h => exact ⟨hlow, hED h⟩
    next =>
      split
      next h => exact ⟨hF0 h, hhigh⟩
      next =>
        split
        next h => exact ⟨hlow, hF4 h⟩
        next => exact ⟨hlow, hhigh⟩

theorem isContinuation_of_bounds {b : UInt8} (hlow : 0x80 ≤ b.toNat) (hhigh : b.toNat ≤ 0xBF) :
    isContinuation b = true := by
  rw [isContinuation, Bool.and_eq_true, decide_eq_true_eq, decide_eq_true_eq,
    UInt8.le_iff_toNat_le, UInt8.le_iff_toNat_le]
  exact ⟨hlow, hhigh⟩

theorem lead_one {a : UInt8} {v : Nat} (ha : a.toNat = v) (hv : v < 0x80) (later : List UInt8) :
    lead a later = .character (Char.ofNat v) 1 := by
  have h : a < 0x80 := by rw [UInt8.lt_iff_toNat_lt, ha]; exact hv
  rw [lead.eq_def, if_pos h, ha]

/-- An octet that begins a character of several octets. -/
theorem lead_of_first (first : UInt8) (hlow : 0xC2 ≤ first.toNat) (hhigh : first.toNat ≤ 0xF4) :
    ¬ first < 0x80 ∧ ¬ (first < 0xC2 || 0xF4 < first) = true := by
  simp only [Bool.or_eq_true, decide_eq_true_eq, UInt8.lt_iff_toNat_lt, UInt8.toNat_ofNat]
  constructor <;> simp <;> omega

theorem lead_two {a b : UInt8} {v : Nat} (ha : a.toNat = v / 64 + 0xC0)
    (hb : b.toNat = v % 64 + 0x80) (hlow : 0x80 ≤ v) (hhigh : v < 0x800) (later : List UInt8) :
    lead a (b :: later) = .character (Char.ofNat v) 2 := by
  obtain ⟨h80, hC2⟩ := lead_of_first a (by omega) (by omega)
  have hfollows : follows a b = true := by
    apply follows_of_bounds <;> omega
  have hsize : a < 0xE0 := by rw [UInt8.lt_iff_toNat_lt, ha]; simp; omega
  have hvalue : a.toNat % 32 * 64 + payload b = v := by rw [payload]; omega
  simp only [lead, h80, hC2, hfollows, hsize, hvalue, if_true, if_false, Bool.not_true,
    Bool.false_eq_true]

theorem lead_three {a b c : UInt8} {v : Nat} (ha : a.toNat = v / 4096 + 0xE0)
    (hb : b.toNat = v / 64 % 64 + 0x80) (hc : c.toNat = v % 64 + 0x80) (hlow : 0x800 ≤ v)
    (hhigh : v < 0x10000) (hvalid : v.isValidChar) (later : List UInt8) :
    lead a (b :: c :: later) = .character (Char.ofNat v) 3 := by
  obtain ⟨h80, hC2⟩ := lead_of_first a (by omega) (by omega)
  have hfollows : follows a b = true := by
    apply follows_of_bounds <;> omega
  have hthird : isContinuation c = true := isContinuation_of_bounds (by omega) (by omega)
  have hE0 : ¬ a < 0xE0 := by rw [UInt8.lt_iff_toNat_lt, ha]; simp
  have hsize : a < 0xF0 := by rw [UInt8.lt_iff_toNat_lt, ha]; simp; omega
  have hvalue : (a.toNat % 16 * 64 + payload b) * 64 + payload c = v := by
    rw [payload, payload]; omega
  simp only [lead, h80, hC2, hfollows, hthird, hE0, hsize, hvalue, if_true, if_false, Bool.not_true,
    Bool.false_eq_true]

theorem lead_four {a b c d : UInt8} {v : Nat} (ha : a.toNat = v / 262144 + 0xF0)
    (hb : b.toNat = v / 4096 % 64 + 0x80) (hc : c.toNat = v / 64 % 64 + 0x80)
    (hd : d.toNat = v % 64 + 0x80) (hlow : 0x10000 ≤ v)
    (hhigh : v < 0x110000) (later : List UInt8) :
    lead a (b :: c :: d :: later) = .character (Char.ofNat v) 4 := by
  obtain ⟨h80, hC2⟩ := lead_of_first a (by omega) (by omega)
  have hfollows : follows a b = true := by
    apply follows_of_bounds <;> omega
  have hthird : isContinuation c = true := isContinuation_of_bounds (by omega) (by omega)
  have hfourth : isContinuation d = true := isContinuation_of_bounds (by omega) (by omega)
  have hE0 : ¬ a < 0xE0 := by rw [UInt8.lt_iff_toNat_lt, ha]; simp
  have hF0 : ¬ a < 0xF0 := by rw [UInt8.lt_iff_toNat_lt, ha]; simp
  have hvalue : ((a.toNat % 8 * 64 + payload b) * 64 + payload c) * 64 + payload d = v := by
    rw [payload, payload, payload]; omega
  simp only [lead, h80, hC2, hfollows, hthird, hfourth, hE0, hF0, hvalue, if_false, Bool.not_true,
    Bool.false_eq_true]

theorem toNat_continuation (n : Nat) : (UInt8.ofNat (n % 64 + 0x80)).toNat = n % 64 + 0x80 := by
  rw [UInt8.toNat_ofNat']
  omega

/-- The octets of a character are read as that character. -/
theorem lead_utf8EncodeChar (c : Char) (rest : List UInt8) :
    ∃ first later, String.utf8EncodeChar c = first :: later ∧
      lead first (later ++ rest) = .character c (later.length + 1) := by
  have hvalid : c.val.toNat.isValidChar := c.valid
  have hlt : c.val.toNat < 0x110000 := by omega
  have hchar : Char.ofNat c.val.toNat = c := Char.ofNat_toNat c
  -- an octet is made by a remainder that only cuts off zeros, the code point being small enough
  fun_cases String.utf8EncodeChar c with
  | case1 v h =>
    have ha : (UInt8.ofNat v).toNat = v := by rw [UInt8.toNat_ofNat']; omega
    exact ⟨_, _, rfl, hchar ▸ lead_one ha (by omega) rest⟩
  | case2 v h h' =>
    have ha : (UInt8.ofNat (v / 64 % 32 + 0xC0)).toNat = v / 64 + 0xC0 := by
      rw [UInt8.toNat_ofNat']; omega
    exact ⟨_, _, rfl, hchar ▸ lead_two ha (toNat_continuation v) (by omega) (by omega) rest⟩
  | case3 v h h' h'' =>
    have ha : (UInt8.ofNat (v / 4096 % 16 + 0xE0)).toNat = v / 4096 + 0xE0 := by
      rw [UInt8.toNat_ofNat']; omega
    exact ⟨_, _, rfl, hchar ▸ lead_three ha (toNat_continuation (v / 64)) (toNat_continuation v)
      (by omega) (by omega) hvalid rest⟩
  | case4 v h h' h'' =>
    have ha : (UInt8.ofNat (v / 262144 % 8 + 0xF0)).toNat = v / 262144 + 0xF0 := by
      rw [UInt8.toNat_ofNat']; omega
    exact ⟨_, _, rfl, hchar ▸ lead_four ha (toNat_continuation (v / 4096))
      (toNat_continuation (v / 64)) (toNat_continuation v) (by omega) hlt rest⟩

/-! ## What is read as one character -/

theorem bounds_of_follows {first second : UInt8} (h : follows first second = true) :
    0x80 ≤ second.toNat ∧ second.toNat ≤ 0xBF ∧ (first.toNat = 0xE0 → 0xA0 ≤ second.toNat) ∧
      (first.toNat = 0xED → second.toNat ≤ 0x9F) ∧ (first.toNat = 0xF0 → 0x90 ≤ second.toNat) ∧
      (first.toNat = 0xF4 → second.toNat ≤ 0x8F) := by
  simp only [follows, secondRange, ← UInt8.toNat_inj, UInt8.le_iff_toNat_le, Bool.and_eq_true,
    decide_eq_true_eq, UInt8.reduceToNat] at h
  split_ifs at h <;> simp only [UInt8.reduceToNat] at h <;> omega

theorem bounds_of_isContinuation {b : UInt8} (h : isContinuation b = true) :
    0x80 ≤ b.toNat ∧ b.toNat ≤ 0xBF := by
  rwa [isContinuation, Bool.and_eq_true, decide_eq_true_eq, decide_eq_true_eq,
    UInt8.le_iff_toNat_le, UInt8.le_iff_toNat_le] at h

/-- The octets of a character given by its code point. -/
theorem utf8EncodeChar_ofNat {v : Nat} (hv : v.isValidChar) :
    String.utf8EncodeChar (Char.ofNat v) =
      if v ≤ 0x7F then [UInt8.ofNat v]
      else if v ≤ 0x7FF then [UInt8.ofNat (v / 64 % 32 + 0xC0), UInt8.ofNat (v % 64 + 0x80)]
      else if v ≤ 0xFFFF then
        [UInt8.ofNat (v / 4096 % 16 + 0xE0), UInt8.ofNat (v / 64 % 64 + 0x80),
          UInt8.ofNat (v % 64 + 0x80)]
      else
        [UInt8.ofNat (v / 262144 % 8 + 0xF0), UInt8.ofNat (v / 4096 % 64 + 0x80),
          UInt8.ofNat (v / 64 % 64 + 0x80), UInt8.ofNat (v % 64 + 0x80)] := by
  have hvalue : (Char.ofNat v).val.toNat = v := by
    rw [Char.ofNat, dif_pos hv]
    rfl
  rw [String.utf8EncodeChar, hvalue]

theorem ofNat_eq {n : Nat} {b : UInt8} (h : n = b.toNat) : UInt8.ofNat n = b := by
  rw [h, UInt8.ofNat_toNat]

theorem encode_one {a : UInt8} (ha : a.toNat < 0x80) :
    String.utf8EncodeChar (Char.ofNat a.toNat) = [a] := by
  rw [utf8EncodeChar_ofNat (Or.inl (by omega)), if_pos (by omega), UInt8.ofNat_toNat]

theorem encode_two {a b : UInt8} (hlow : 0xC2 ≤ a.toNat) (hhigh : a.toNat < 0xE0)
    (hb : follows a b = true) :
    String.utf8EncodeChar (Char.ofNat (a.toNat % 32 * 64 + payload b)) = [a, b] := by
  have hbounds := bounds_of_follows hb
  rw [payload, utf8EncodeChar_ofNat (Or.inl (by omega)), if_neg (by omega), if_pos (by omega),
    ofNat_eq (b := a) (by omega), ofNat_eq (b := b) (by omega)]

theorem encode_three {a b c : UInt8} (hlow : 0xE0 ≤ a.toNat) (hhigh : a.toNat < 0xF0)
    (hb : follows a b = true) (hc : isContinuation c = true) :
    String.utf8EncodeChar
        (Char.ofNat ((a.toNat % 16 * 64 + payload b) * 64 + payload c)) = [a, b, c] := by
  have hbounds := bounds_of_follows hb
  have hthird := bounds_of_isContinuation hc
  have hvalid : ((a.toNat % 16 * 64 + payload b) * 64 + payload c).isValidChar := by
    rw [payload, payload, Nat.isValidChar]
    omega
  rw [utf8EncodeChar_ofNat hvalid, payload, payload, if_neg (by omega), if_neg (by omega),
    if_pos (by omega), ofNat_eq (b := a) (by omega), ofNat_eq (b := b) (by omega),
    ofNat_eq (b := c) (by omega)]

theorem encode_four {a b c d : UInt8} (hlow : 0xF0 ≤ a.toNat) (hhigh : a.toNat ≤ 0xF4)
    (hb : follows a b = true) (hc : isContinuation c = true) (hd : isContinuation d = true) :
    String.utf8EncodeChar
        (Char.ofNat (((a.toNat % 8 * 64 + payload b) * 64 + payload c) * 64 + payload d)) =
      [a, b, c, d] := by
  have hbounds := bounds_of_follows hb
  have hthird := bounds_of_isContinuation hc
  have hfourth := bounds_of_isContinuation hd
  have hvalid :
      (((a.toNat % 8 * 64 + payload b) * 64 + payload c) * 64 + payload d).isValidChar := by
    rw [payload, payload, payload, Nat.isValidChar]
    omega
  rw [utf8EncodeChar_ofNat hvalid, payload, payload, payload, if_neg (by omega),
    if_neg (by omega), if_neg (by omega), ofNat_eq (b := a) (by omega),
    ofNat_eq (b := b) (by omega), ofNat_eq (b := c) (by omega), ofNat_eq (b := d) (by omega)]

/-- What is read as a character are its octets. -/
theorem exists_of_lead_eq {first : UInt8} {rest : List UInt8} {c : Char} {size : Nat}
    (h : lead first rest = .character c size) :
    ∃ later more, rest = later ++ more ∧ size = later.length + 1 ∧
      String.utf8EncodeChar c = first :: later := by
  revert h
  fun_cases lead first rest with
  | case1 _ hone =>
    rintro ⟨⟩
    exact ⟨[], rest, rfl, rfl, encode_one (UInt8.lt_iff_toNat_lt.mp hone)⟩
  | case5 _ hrange second rest hsecond htwo =>
    rintro ⟨⟩
    simp only [Bool.or_eq_true, decide_eq_true_eq, not_or, UInt8.not_lt, Bool.not_eq_true',
      Bool.not_eq_false] at hrange hsecond
    exact ⟨[second], rest, rfl, rfl, encode_two (UInt8.le_iff_toNat_le.mp hrange.1)
      (UInt8.lt_iff_toNat_lt.mp htwo) hsecond⟩
  | case8 _ hrange second hsecond htwo third rest hthird hthree =>
    rintro ⟨⟩
    simp only [UInt8.not_lt, Bool.not_eq_true', Bool.not_eq_false] at htwo hsecond hthird
    exact ⟨[second, third], rest, rfl, rfl, encode_three (UInt8.le_iff_toNat_le.mp htwo)
      (UInt8.lt_iff_toNat_lt.mp hthree) hsecond hthird⟩
  | case11 _ hrange second hsecond htwo third hthird hthree fourth rest hfourth =>
    rintro ⟨⟩
    simp only [Bool.or_eq_true, decide_eq_true_eq, not_or, UInt8.not_lt, Bool.not_eq_true',
      Bool.not_eq_false] at hrange hthree hsecond hthird hfourth
    exact ⟨[second, third, fourth], rest, rfl, rfl, encode_four (UInt8.le_iff_toNat_le.mp hthree)
      (UInt8.le_iff_toNat_le.mp hrange.2) hsecond hthird hfourth⟩
  -- the other cases read no character
  | _ => rintro ⟨⟩

/-! ## Texts -/

theorem encode_append (s t : Text) : encode (s ++ t) = encode s ++ encode t :=
  List.flatMap_append

theorem encode_cons (c : Char) (t : Text) :
    encode (c :: t) = String.utf8EncodeChar c ++ encode t :=
  List.flatMap_cons

theorem decodeFrom_append (taken : List UInt8) (index : Nat) (rest : List UInt8) :
    decodeFrom taken.length index (taken ++ rest) = decodeFrom 0 (index + taken.length) rest := by
  induction taken generalizing index with
  | nil => rfl
  | cons b taken ih =>
    rw [List.length_cons, List.cons_append, decodeFrom, ih, Nat.add_right_comm, Nat.add_assoc]

theorem decodeFrom_encode (t : Text) (index : Nat) : decodeFrom 0 index (encode t) = .ok t := by
  induction t generalizing index with
  | nil => rfl
  | cons c t ih =>
    obtain ⟨first, later, hoctets, hlead⟩ := lead_utf8EncodeChar c (encode t)
    rw [encode_cons, hoctets, List.cons_append, decodeFrom, hlead]
    simp only [Nat.add_sub_cancel, decodeFrom_append, ih]

/-- **Reading the octets of a text gives the text back.** -/
theorem decode_encode (t : Text) : decode (encode t) = .ok t :=
  decodeFrom_encode t 0

theorem encode_of_decodeFrom {octets : List UInt8} {index : Nat} {t : Text}
    (h : decodeFrom 0 index octets = .ok t) : encode t = octets := by
  -- the recursion is on the number of octets, a character having at least one
  induction hn : octets.length using Nat.strongRecOn generalizing octets index t with
  | ind n ih =>
    cases octets with
    | nil =>
      cases h
      rfl
    | cons b rest =>
      rw [decodeFrom] at h
      cases hlead : lead b rest with
      | character c size =>
        obtain ⟨later, more, rfl, rfl, hoctets⟩ := exists_of_lead_eq hlead
        rw [hlead] at h
        simp only [Nat.add_sub_cancel, decodeFrom_append] at h
        cases hmore : decodeFrom 0 (index + 1 + later.length) more with
        | ok s =>
          rw [hmore] at h
          cases h
          have hshorter : more.length < n := by
            rw [← hn, List.length_cons, List.length_append]
            omega
          rw [encode_cons, hoctets, ih _ hshorter hmore rfl, List.cons_append]
        | error fault =>
          rw [hmore] at h
          cases h
      | invalid size =>
        rw [hlead] at h
        cases h
      | incomplete =>
        rw [hlead] at h
        cases h

/-- **A text is read from its own octets and no others.** -/
theorem decode_eq_ok_iff {octets : List UInt8} {t : Text} :
    decode octets = .ok t ↔ octets = encode t := by
  constructor
  · exact fun h => (encode_of_decodeFrom h).symm
  · rintro rfl
    exact decode_encode t

/-- Octets of no text are a fault. -/
theorem exists_decode_eq_error {octets : List UInt8} (h : ∀ t, encode t ≠ octets) :
    ∃ fault, decode octets = .error fault := by
  cases hdecode : decode octets with
  | ok t => exact absurd (decode_eq_ok_iff.mp hdecode).symm (h t)
  | error fault => exact ⟨fault, rfl⟩

theorem utf8EncodeChar_ne_nil (c : Char) : String.utf8EncodeChar c ≠ [] := by
  obtain ⟨first, later, hoctets, _⟩ := lead_utf8EncodeChar c []
  exact hoctets ▸ List.cons_ne_nil first later

/-! ## ASCII octets -/

/-- The octets of a character are one octet below `0x80` or octets that are all not below it. -/
theorem utf8EncodeChar_cases (c : Char) :
    String.utf8EncodeChar c = [UInt8.ofNat c.toNat] ∧ c.toNat < 0x80 ∨
      ∀ b ∈ String.utf8EncodeChar c, 0x80 ≤ b.toNat := by
  fun_cases String.utf8EncodeChar c with
  | case1 v h => exact Or.inl ⟨rfl, Nat.lt_succ_of_le h⟩
  | case2 | case3 | case4 =>
    right
    simp only [List.forall_mem_cons, List.not_mem_nil, false_imp_iff, implies_true, and_true,
      UInt8.toNat_ofNat']
    omega

/-- An octet below `0x80` is the only octet of its character. -/
theorem utf8EncodeChar_of_mem {b : UInt8} {c : Char} (h : b ∈ String.utf8EncodeChar c)
    (hb : b.toNat < 0x80) : c = Char.ofNat b.toNat ∧ String.utf8EncodeChar c = [b] := by
  rcases utf8EncodeChar_cases c with ⟨hone, hc⟩ | hall
  · rw [hone, List.mem_singleton] at h
    have hvalue : b.toNat = c.toNat := by
      rw [h, UInt8.toNat_ofNat']
      omega
    exact ⟨by rw [hvalue, Char.ofNat_toNat], by rw [hone, h]⟩
  · exact absurd (hall b h) (by omega)

theorem mem_of_mem_encode {b : UInt8} {t : Text} (h : b ∈ encode t) (hb : b.toNat < 0x80) :
    Char.ofNat b.toNat ∈ t := by
  obtain ⟨c, hc, hmem⟩ := List.mem_flatMap.mp h
  exact (utf8EncodeChar_of_mem hmem hb).1 ▸ hc

end Utf8
end CodeGloss
