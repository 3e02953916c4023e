import CodeGloss.Conversation.Loop
import CodeGloss.Proofs.Text.Pieces
import CodeGloss.Proofs.Text.Utf8
import Mathlib.Data.List.Basic

/-! # The events of an input

An input is cut at its line feeds, and each line is one event (`ofInput_append_cons`,
`ofInput_of_not_mem`).  Three consequences are used of conversations.

* The octets of a text are cut as the text is, so their events are the lines of the text and the end
  of the input (`ofInput_encode`); complete lines of a text have their events whatever stands behind
  them (`ofInput_encode_append`).
* The lines that have ended stay as they are when more is read: an input that goes on begins with
  the events of its completed lines (`exists_ofInput_append`).
* A line that is not UTF-8 is one unreadable line as soon as it has ended
  (`exists_ofInput_eq_unreadable`).
-/
namespace CodeGloss

open Text

/-! ## Lines of texts -/

namespace Text

theorem lines_of_not_mem {t : Text} (h : '\n' ∉ t) :
    lines t = if t.isEmpty then [] else [t] := by
  simp [lines, pieces, split_of_not_mem h]

/-- A text is made of complete lines: nothing stands behind its last line feed. -/
def EndsLine (t : Text) : Prop :=
  t = [] ∨ t.getLast? = some '\n'

theorem EndsLine.of_append_cons {line rest : Text} (h : EndsLine (line ++ '\n' :: rest)) :
    EndsLine rest := by
  by_cases hrest : rest = []
  · exact Or.inl hrest
  · right
    rcases h with hnil | hlast
    · simp at hnil
    · rwa [List.getLast?_append_of_ne_nil _ (List.cons_ne_nil _ _),
        List.getLast?_cons_of_ne_nil hrest] at hlast

theorem lines_append_cons {line : Text} (h : '\n' ∉ line) (rest : Text) :
    lines (line ++ '\n' :: rest) = dropReturn line :: lines rest := by
  obtain ⟨first, later, hrest⟩ := List.exists_cons_of_ne_nil (pieces_ne_nil rest)
  have hpieces : pieces (line ++ '\n' :: rest) = line :: first :: later := by
    rw [← hrest]
    exact split_append_cons h rest
  simp [lines, hpieces, hrest]

end Text

namespace InputEvent

/-! ## Cutting octets into lines -/

theorem octetLines_cons_of_ne {b : UInt8} (h : b ≠ 10) {rest first : List UInt8}
    {later : List (List UInt8)} (hrest : octetLines rest = first :: later) :
    octetLines (b :: rest) = (b :: first) :: later := by
  rw [octetLines, if_neg h, hrest]

theorem octetLines_of_not_mem {line : List UInt8} (h : 10 ∉ line) : octetLines line = [line] := by
  induction line with
  | nil => rfl
  | cons b line ih =>
    rw [List.mem_cons, not_or] at h
    exact octetLines_cons_of_ne (Ne.symm h.1) (ih h.2)

theorem octetLines_append_cons {line : List UInt8} (h : 10 ∉ line) (rest : List UInt8) :
    octetLines (line ++ 10 :: rest) = (line ++ [10]) :: octetLines rest := by
  induction line with
  | nil => rfl
  | cons b line ih =>
    rw [List.mem_cons, not_or] at h
    exact octetLines_cons_of_ne (Ne.symm h.1) (ih h.2)

theorem octetLines_ne_nil (octets : List UInt8) : octetLines octets ≠ [] := by
  induction octets using mark_induction (10 : UInt8) with
  | last line h => simp [octetLines_of_not_mem h]
  | cut line rest h _ => simp [octetLines_append_cons h]

/-- The events of the lines that have ended. -/
def completed (octets : List UInt8) : List InputEvent :=
  (octetLines octets).dropLast.map ofOctets

theorem completed_of_not_mem {line : List UInt8} (h : 10 ∉ line) : completed line = [] := by
  rw [completed, octetLines_of_not_mem h]
  rfl

theorem completed_append_cons {line : List UInt8} (h : 10 ∉ line) (rest : List UInt8) :
    completed (line ++ 10 :: rest) = ofOctets (line ++ [10]) :: completed rest := by
  rw [completed, octetLines_append_cons h, List.dropLast_cons_of_ne_nil (octetLines_ne_nil rest)]
  rfl

theorem ofInput_endless (octets : List UInt8) :
    ofInput octets true = completed octets ++ [interrupted] := rfl

theorem ofInput_of_not_mem {line : List UInt8} (h : 10 ∉ line) :
    ofInput line false = (if line.isEmpty then [] else [ofOctets line]) ++ [ended] := by
  simp [ofInput, octetLines_of_not_mem h]

theorem ofInput_append_cons {line : List UInt8} (h : 10 ∉ line) (rest : List UInt8)
    (endless : Bool) :
    ofInput (line ++ 10 :: rest) endless = ofOctets (line ++ [10]) :: ofInput rest endless := by
  obtain ⟨first, later, hrest⟩ := List.exists_cons_of_ne_nil (octetLines_ne_nil rest)
  simp [ofInput, octetLines_append_cons h, hrest]

/-- **What has been read stays.**  However an input goes on, it begins with the lines that have
ended. -/
theorem exists_ofInput_append (read unread : List UInt8) :
    ∃ later, ofInput (read ++ unread) false = completed read ++ later := by
  induction read using mark_induction (10 : UInt8) with
  | last line h => exact ⟨_, by rw [completed_of_not_mem h]; rfl⟩
  | cut line rest h ih =>
    obtain ⟨later, hlater⟩ := ih
    refine ⟨later, ?_⟩
    rw [List.append_assoc, List.cons_append, ofInput_append_cons h, hlater,
      completed_append_cons h, List.cons_append]

/-- Behind the completed lines at most one line is left before the input ends. -/
theorem exists_ofInput_eq (octets : List UInt8) :
    ∃ final, (final = [] ∨ ∃ line, final = [ofOctets line]) ∧
      ofInput octets false = completed octets ++ (final ++ [ended]) := by
  refine ⟨if ((octetLines octets).getLast?.getD []).isEmpty then []
    else [ofOctets ((octetLines octets).getLast?.getD [])], ?_, rfl⟩
  split
  · exact Or.inl rfl
  · exact Or.inr ⟨_, rfl⟩

/-- No line is an interrupt or the end of the input. -/
theorem ofOctets_cases (octets : List UInt8) :
    (∃ content, ofOctets octets = line content) ∨ ∃ fault, ofOctets octets = unreadable fault := by
  unfold ofOctets
  cases Utf8.decode (dropLineEnd octets) with
  | ok t => exact Or.inl ⟨t, rfl⟩
  | error fault => exact Or.inr ⟨fault, rfl⟩

/-! ## The octets of a text -/

theorem not_mem_encode_of_lineFeed_not_mem {t : Text} (h : '\n' ∉ t) : 10 ∉ Utf8.encode t :=
  fun hmem => h (Utf8.mem_of_mem_encode hmem (by decide))

theorem encode_append_lineFeed (line rest : Text) :
    Utf8.encode (line ++ '\n' :: rest) = Utf8.encode line ++ 10 :: Utf8.encode rest := by
  rw [Utf8.encode_append, Utf8.encode_cons]
  rfl

theorem dropLineEnd_of_not_mem {octets : List UInt8} (h : 10 ∉ octets) :
    dropLineEnd octets = octets :=
  if_neg fun hlast => h (List.mem_of_getLast? hlast)

theorem dropLineEnd_append_lineFeed (octets : List UInt8) :
    dropLineEnd (octets ++ [10]) =
      if octets.getLast? = some 13 then octets.dropLast else octets := by
  simp [dropLineEnd]

/-- Besides the line feed a carriage return is dropped, or nothing. -/
theorem dropLineEnd_append_cases (octets : List UInt8) :
    dropLineEnd (octets ++ [10]) = octets ∨
      ∃ content, octets = content ++ [13] ∧ dropLineEnd (octets ++ [10]) = content := by
  rw [dropLineEnd_append_lineFeed]
  split
  next hlast =>
    obtain ⟨content, rfl⟩ := List.getLast?_eq_some_iff.mp hlast
    exact Or.inr ⟨content, rfl, List.dropLast_concat⟩
  next => exact Or.inl rfl

/-- Among octets the carriage return before a line feed is dropped as it is in the text. -/
theorem dropLineEnd_encode (line : Text) :
    dropLineEnd (Utf8.encode line ++ [10]) = Utf8.encode (dropReturn line) := by
  rw [dropLineEnd_append_lineFeed]
  rcases List.eq_nil_or_concat line with rfl | ⟨before, c, rfl⟩
  · rfl
  have hencode : Utf8.encode (before ++ [c]) = Utf8.encode before ++ String.utf8EncodeChar c := by
    rw [Utf8.encode_append, Utf8.encode_cons]
    simp [Utf8.encode]
  rw [List.concat_eq_append, hencode, dropReturn, List.getLast?_concat, List.dropLast_concat]
  by_cases hc : c = '\r'
  · subst hc
    have hoctet : String.utf8EncodeChar '\r' = [13] := by decide
    rw [hoctet, List.getLast?_concat, List.dropLast_concat, if_pos rfl, if_pos rfl]
  · have hne : (Utf8.encode before ++ String.utf8EncodeChar c).getLast? ≠ some 13 := by
      intro hlast
      rw [List.getLast?_append_of_ne_nil _ (Utf8.utf8EncodeChar_ne_nil c)] at hlast
      exact hc (Utf8.utf8EncodeChar_of_mem (List.mem_of_getLast? hlast) (by decide)).1
    rw [if_neg hne, if_neg (by simpa using hc), hencode]

theorem ofOctets_encode_append (text : Text) :
    ofOctets (Utf8.encode text ++ [10]) = line (dropReturn text) := by
  rw [ofOctets, dropLineEnd_encode, Utf8.decode_encode]

theorem ofOctets_encode {text : Text} (h : '\n' ∉ text) :
    ofOctets (Utf8.encode text) = line text := by
  rw [ofOctets, dropLineEnd_of_not_mem (not_mem_encode_of_lineFeed_not_mem h), Utf8.decode_encode]

/-- **The events of a text are its lines and the end of the input.** -/
theorem ofInput_encode (t : Text) :
    ofInput (Utf8.encode t) false = (lines t).map line ++ [ended] := by
  induction t using mark_induction '\n' with
  | last t h =>
    rw [ofInput_of_not_mem (not_mem_encode_of_lineFeed_not_mem h), ofOctets_encode h,
      lines_of_not_mem h]
    cases t with
    | nil => rfl
    | cons c rest => simp [Utf8.encode_cons]
  | cut content rest h ih =>
    rw [encode_append_lineFeed, ofInput_append_cons (not_mem_encode_of_lineFeed_not_mem h), ih,
      ofOctets_encode_append, lines_append_cons h]
    rfl

/-- An input that begins with complete lines of a text begins with their events. -/
theorem ofInput_encode_append {t : Text} (h : EndsLine t) (unread : List UInt8) (endless : Bool) :
    ofInput (Utf8.encode t ++ unread) endless =
      (lines t).map line ++ ofInput unread endless := by
  induction t using mark_induction '\n' with
  | last t hmark =>
    rcases h with rfl | hlast
    · rfl
    · exact absurd (List.mem_of_getLast? hlast) hmark
  | cut content rest hmark ih =>
    rw [encode_append_lineFeed, List.append_assoc, List.cons_append,
      ofInput_append_cons (not_mem_encode_of_lineFeed_not_mem hmark), ih h.of_append_cons,
      ofOctets_encode_append, lines_append_cons hmark]
    rfl

/-! ## Octets of no text -/

/-- A line that is not UTF-8 is unreadable, be it ended by a line feed or by the input; a carriage
return in front of the line feed makes no difference. -/
theorem exists_ofOctets_eq_unreadable {bad : List UInt8} (hmark : 10 ∉ bad)
    (h : ∀ t, Utf8.encode t ≠ bad) {lineEnd : List UInt8} (hend : lineEnd = [] ∨ lineEnd = [10]) :
    ∃ fault, Utf8.decode (dropLineEnd (bad ++ lineEnd)) = .error fault ∧
      ofOctets (bad ++ lineEnd) = unreadable fault := by
  have hinvalid : ∀ t, Utf8.encode t ≠ dropLineEnd (bad ++ lineEnd) := by
    intro t ht
    rcases hend with rfl | rfl
    · rw [List.append_nil, dropLineEnd_of_not_mem hmark] at ht
      exact h t ht
    · rcases dropLineEnd_append_cases bad with hdrop | ⟨content, rfl, hdrop⟩
      · exact h t (ht.trans hdrop)
      · apply h (t ++ ['\r'])
        rw [Utf8.encode_append, ht, hdrop]
        rfl
  obtain ⟨fault, hfault⟩ := Utf8.exists_decode_eq_error hinvalid
  exact ⟨fault, hfault, by rw [ofOctets, hfault]⟩

/-- An input that begins with a line that is not UTF-8 begins with an unreadable line, unless more
of that line may come. -/
theorem exists_ofInput_eq_unreadable {bad : List UInt8} (hmark : 10 ∉ bad)
    (h : ∀ t, Utf8.encode t ≠ bad) {rest : List UInt8} {endless : Bool}
    (hend : rest.head? = some 10 ∨ rest = [] ∧ endless = false) :
    ∃ fault later, Utf8.decode (dropLineEnd (bad ++ rest.take 1)) = .error fault ∧
      ofInput (bad ++ rest) endless = unreadable fault :: later := by
  rcases hend with hhead | ⟨rfl, rfl⟩
  · obtain ⟨rest, rfl⟩ := List.head?_eq_some_iff.mp hhead
    obtain ⟨fault, hfault, hevent⟩ := exists_ofOctets_eq_unreadable hmark h (Or.inr rfl)
    exact ⟨fault, ofInput rest endless, hfault, by rw [ofInput_append_cons hmark, hevent]⟩
  · obtain ⟨fault, hfault, hevent⟩ := exists_ofOctets_eq_unreadable hmark h (Or.inl rfl)
    have hne : bad ≠ [] := fun hnil => h [] hnil.symm
    rw [List.append_nil] at hevent
    refine ⟨fault, [ended], hfault, ?_⟩
    rw [List.append_nil, ofInput_of_not_mem hmark, if_neg (by simpa using hne), hevent]
    rfl

end InputEvent
end CodeGloss
