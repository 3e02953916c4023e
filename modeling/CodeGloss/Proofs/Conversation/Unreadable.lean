import CodeGloss.Proofs.Conversation.Interrupt

/-! # What an unreadable line leaves

A line that is not UTF-8 ends a conversation where it stands.  Behind complete lines of a text this
comes to what an interrupt there comes to, less the farewell (`run_unreadable`): the messages that
the lines finish were answered, the next one had been asked for, and the unfinished one is dropped.
What stands behind the line is not read, and if a message had left before it, neither is the line.
-/
namespace CodeGloss
namespace Loop

open Text Conversation InputEvent

variable {palette : Palette}

theorem run_append_unreadable {c : Conversation} {xs : List InputEvent}
    (h : (run palette c xs).2.ending = none) (fault : Utf8.Fault) (later : List InputEvent) :
    run palette c (xs ++ .unreadable fault :: later) =
      ((run palette c xs).1,
        { conversation := (run palette c xs).2.conversation
          ending := some (.unreadable fault) }) := by
  have hstep : step palette (run palette c xs).2 (.unreadable fault) =
      ([], { conversation := (run palette c xs).2.conversation
             ending := some (.unreadable fault) }) := by
    rw [step.eq_def, h]
  rw [run_append, andThen, runFrom_cons, hstep, nil_andThen, runFrom_of_ended rfl, List.append_nil]

/-- **An unreadable line leaves the record intact.**  Let the input be complete lines of a text, a
line that is not UTF-8, and anything behind it.  If a message of the text leaves, the conversation
ends there as it does over the text alone.  Otherwise it ends with the fault of the line; the record
is the one of the conversation that is interrupted behind the text, with the messages that the lines
finish and no other, and so is what has been shown up to the last prompt. -/
theorem run_unreadable (palette : Palette) (c : Conversation) (t : Text) (ht : EndsLine t)
    (bad : List UInt8) (hmark : 10 ∉ bad) (hbad : ∀ s, Utf8.encode s ≠ bad)
    (rest : List UInt8) (endless : Bool)
    (hend : rest.head? = some 10 ∨ rest = [] ∧ endless = false)
    (hfits : ∀ message ∈ answered (finished (lines t)), resemblesCode (content message) = true →
      ∃ m, Measures.ofCode c.settings.scoring (content message) = .ok m) :
    ((messages (lines t)).any leaves = true →
      ∃ exchanges : List Exchange,
        exchanges.map Exchange.message = answered (messages (lines t)) ∧
        (∀ e ∈ exchanges, e.Holds c.settings) ∧
        run palette c (ofInput (Utf8.encode t ++ (bad ++ rest)) endless) =
          (greeting ++ exchanges.flatMap (Exchange.shown palette),
            { conversation := { c with record := c.record ++ exchanges.map Exchange.entry }
              ending := some .left }) ∧
        ∀ waiting, run palette c (ofInput (Utf8.encode t ++ (bad ++ rest)) endless) =
          run palette c (ofInput (Utf8.encode t) waiting)) ∧
    ((messages (lines t)).any leaves = false →
      ∃ (exchanges : List Exchange) (fault : Utf8.Fault),
        exchanges.map Exchange.message = finished (lines t) ∧
        (∀ e ∈ exchanges, e.Holds c.settings) ∧
        Utf8.decode (dropLineEnd (bad ++ rest.take 1)) = .error fault ∧
        run palette c (ofInput (Utf8.encode t) true) =
          (greeting ++ exchanges.flatMap (Exchange.shown palette) ++ prompt ++ goodbyeOnInterrupt,
            { conversation := { c with record := c.record ++ exchanges.map Exchange.entry }
              ending := some .interrupted }) ∧
        run palette c (ofInput (Utf8.encode t ++ (bad ++ rest)) endless) =
          (greeting ++ exchanges.flatMap (Exchange.shown palette) ++ prompt,
            { conversation := { c with record := c.record ++ exchanges.map Exchange.entry }
              ending := some (.unreadable fault) })) := by
  obtain ⟨fault, later, hfault, hunreadable⟩ := exists_ofInput_eq_unreadable hmark hbad hend
  obtain ⟨exchanges, hmap, hholds, hread⟩ :=
    exists_run_lines palette c fun message hmessage => exists_answerTo (hfits message hmessage)
  have hinput : ofInput (Utf8.encode t ++ (bad ++ rest)) endless =
      (lines t).map .line ++ .unreadable fault :: later := by
    rw [ofInput_encode_append ht, hunreadable]
  -- over the text alone the same lines are read, and then the input waits or ends
  have halone : ∀ waiting, ofInput (Utf8.encode t) waiting =
      (lines t).map .line ++ ofInput [] waiting := by
    intro waiting
    rw [← ofInput_encode_append ht, List.append_nil]
  rw [any_leaves_messages, hinput]
  constructor
  · intro hleaves
    rw [hleaves, if_pos rfl, if_pos rfl, List.append_nil] at hread
    have hending : (run palette c ((lines t).map .line)).2.ending = some .left := by
      rw [hread, await_ending]
    refine ⟨exchanges, ?_, hholds, ?_, fun waiting => ?_⟩
    · rw [hmap, messages_eq, answered_append_of_any_eq_true hleaves]
    · rw [run_append_of_ended hending, hread]
      rfl
    · rw [halone, run_append_of_ended hending, run_append_of_ended hending]
  · intro hstays
    rw [hstays, if_neg Bool.false_ne_true, if_neg Bool.false_ne_true] at hread
    have hending : (run palette c ((lines t).map .line)).2.ending = none := by
      rw [hread, await_ending]
    refine ⟨exchanges, fault, ?_, hholds, hfault, ?_, ?_⟩
    · rw [hmap, answered_of_any_eq_false hstays]
    · rw [halone, show ofInput [] true = [.interrupted] from rfl, run_append_interrupted hending,
        hread, await_conversation]
    · rw [run_append_unreadable hending, hread, await_conversation]

/-- A message, the beginning of a snippet, and a line that is cut off within a character: the message
stays on record, and the snippet is dropped. -/
theorem run_unreadable_within_message :
    ∃ exchanges : List Exchange,
      exchanges.map Exchange.entry = [⟨"hi".toList, .other⟩] ∧
      run .plain { settings := {} } (ofInput (Utf8.encode "hi\n\ndef f():\n".toList ++
          ([0xC3, 13] ++ (10 :: Utf8.encode "quit\n".toList))) false) =
        (greeting ++ exchanges.flatMap (Exchange.shown .plain) ++ prompt,
          { conversation := { settings := {}, record := exchanges.map Exchange.entry }
            ending := some (.unreadable ⟨0, none⟩) }) := by
  have hbad : ∀ s, Utf8.encode s ≠ [0xC3, 13] := by
    intro s hs
    have hread : Utf8.decode [0xC3, 13] = .ok s := Utf8.decode_eq_ok_iff.mpr hs.symm
    have hfault : Utf8.decode [0xC3, 13] = .error ⟨0, some 1⟩ := by decide +kernel
    rw [hfault] at hread
    cases hread
  have hother : ∀ message ∈ answered (finished (lines "hi\n\ndef f():\n".toList)),
      resemblesCode (content message) = false := by
    decide +kernel
  obtain ⟨exchanges, fault, -, -, hfault, -, hrun⟩ :=
    (run_unreadable .plain { settings := {} } "hi\n\ndef f():\n".toList (Or.inr (by decide))
      [0xC3, 13] (by decide) hbad (10 :: Utf8.encode "quit\n".toList) false (Or.inl rfl)
      fun message hmessage hcode => by simp [hother message hmessage] at hcode).2 (by decide +kernel)
  have hplace : Utf8.decode (dropLineEnd ([0xC3, 13] ++ [10])) = .error ⟨0, none⟩ := by
    decide +kernel
  obtain rfl : ⟨0, none⟩ = fault := Except.error.inj (hplace.symm.trans hfault)
  have hentries : (run .plain { settings := {} }
      (ofInput (Utf8.encode "hi\n\ndef f():\n".toList ++
        ([0xC3, 13] ++ (10 :: Utf8.encode "quit\n".toList))) false)).2.conversation.record =
        [⟨"hi".toList, .other⟩] := by
    decide +kernel
  refine ⟨exchanges, ?_, hrun⟩
  rw [hrun] at hentries
  exact hentries

end Loop
end CodeGloss
