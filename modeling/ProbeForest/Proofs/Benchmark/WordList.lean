import Mathlib
import ProbeForest.Benchmark.WordList
import ProbeForest.Proofs.Text.Lines
import ProbeForest.Proofs.Text.Words

/-!
# A word list, line by line and as a whole

A word list is read line by line, which cannot be told from reading all of it
and splitting it then: a line feed is a blank, so no word goes over the end of
a line, and it is no part of a longer character, so no line is judged by half
of one.  A stream that fails has its complete lines judged before, and its open
line not at all.

## Main results

* `readWords_eq_map_text` — a stream that ends gives the words of its text.
* `readWords_of_failure` — a stream that fails gives no words.
* `readsAsWhole` — both, in terms of the bytes alone.
-/

namespace ProbeForest.Benchmark

open Text (ReadError encode words Spaced)
open Text.Stream (completeLines openLine text)

variable {s : Text.Stream} {m : String}

/-! ## The words that the lines give -/

theorem foldl_addLine (lines found : List String) :
    lines.foldl addLine found = (lines.flatMap words).reverse ++ found := by
  induction lines generalizing found with
  | nil => rfl
  | cons line lines ih =>
      rw [List.foldl_cons, ih, addLine, List.flatMap_cons, List.reverse_append, List.append_assoc]

/-- An open line without bytes has no words, as if it had been read. -/
theorem readWords_eq (s : Text.Stream) : readWords s = (do
    let texts ← (completeLines s.chunks.flatten).mapM text
    s.ending
    let last ← text (openLine s.chunks.flatten)
    return texts.flatMap words ++ words last) := by
  rw [readWords, Text.Stream.foldLines_eq]
  cases (completeLines s.chunks.flatten).mapM text with
  | error e => rfl
  | ok texts =>
      have hdone : (texts.foldl addLine []).reverse = texts.flatMap words := by
        rw [foldl_addLine, List.append_nil, List.reverse_reverse]
      cases s.ending with
      | error e => rfl
      | ok _ =>
          by_cases hopen : openLine s.chunks.flatten = []
          · have hempty : text [] = .ok "" := Text.Stream.text_eq_ok_iff.mpr rfl
            simp only [hopen, hempty]
            change Except.ok (texts.foldl addLine []).reverse = .ok (texts.flatMap words ++ [])
            rw [hdone, List.append_nil]
          · simp only [hopen]
            cases text (openLine s.chunks.flatten) with
            | error e => rfl
            | ok last =>
                change Except.ok (addLine (texts.foldl addLine []) last).reverse = .ok _
                rw [addLine, List.reverse_append, List.reverse_reverse, hdone]

/-- The words of a text are those of its lines. -/
theorem map_words_text (bytes : List UInt8) : (text bytes).map words = (do
    let texts ← (completeLines bytes).mapM text
    let last ← text (openLine bytes)
    return texts.flatMap words ++ words last) := by
  induction bytes using Text.Stream.line_induction with
  | last line hline =>
      rw [Text.Stream.completeLines_of_not_mem hline, Text.Stream.openLine_of_not_mem hline]
      cases text line <;> rfl
  | cut line rest hline ih =>
      rw [Text.Stream.text_cut, Text.Stream.completeLines_cut hline,
        Text.Stream.openLine_cut hline, List.mapM_cons]
      cases text line with
      | error e => rfl
      | ok before =>
          -- the words of `before` come in front on both sides
          have hleft : (do
              let after ← text rest
              return before ++ "\n" ++ after : Except ReadError String).map words =
                ((text rest).map words).map (words before ++ ·) := by
            cases text rest with
            | error e => rfl
            | ok after => exact congrArg Except.ok (Text.words_append_lineFeed before after)
          refine hleft.trans ?_
          rw [ih]
          cases (completeLines rest).mapM text with
          | error e => rfl
          | ok texts =>
              cases text (openLine rest) with
              | error e => rfl
              | ok last =>
                  refine congrArg Except.ok ?_
                  rw [List.flatMap_cons, List.append_assoc]

/-! ## Streams that end, and streams that fail -/

theorem readWords_eq_map_text (h : s.failure = none) :
    readWords s = (text s.chunks.flatten).map words := by
  have hending : s.ending = .ok () := by rw [Text.Stream.ending, h]
  rw [readWords_eq, map_words_text, hending]
  rfl

/-- The complete lines are judged first; the open line is not judged. -/
theorem readWords_of_failure (h : s.failure = some m) :
    (readWords s = .error (.failed m) ∧
        ∀ line ∈ completeLines s.chunks.flatten, ∃ t, encode t = line) ∨
      (readWords s = .error .illFormed ∧
        ∃ line ∈ completeLines s.chunks.flatten, ∀ t, encode t ≠ line) := by
  have hending : s.ending = .error (.failed m) := by rw [Text.Stream.ending, h]
  rw [readWords_eq, hending]
  obtain ⟨⟨texts, hread⟩, hall⟩ | ⟨hread, hbad⟩ :=
    Text.Stream.mapM_text_cases (completeLines s.chunks.flatten)
  · rw [hread]
    exact .inl ⟨rfl, hall⟩
  · rw [hread]
    exact .inr ⟨rfl, hbad⟩

/-- What reading the words of a stream gives, told by all its bytes together. -/
structure ReadsAsWhole (s : Text.Stream) : Prop where
  /-- A stream that ends is read if its bytes spell a text. -/
  accepted_iff : s.failure = none →
    ((∃ ws, readWords s = .ok ws) ↔ ∃ t, encode t = s.chunks.flatten)
  /-- The words read are those of that text. -/
  words_iff : s.failure = none → ∀ ws, readWords s = .ok ws ↔
    ∃ t, encode t = s.chunks.flatten ∧ Spaced t.toList (ws.map String.toList)
  /-- If they spell none, this is the error. -/
  refused_iff : s.failure = none → ∀ e, readWords s = .error e ↔
    e = .illFormed ∧ ∀ t, encode t ≠ s.chunks.flatten
  /-- A stream that fails is ill-formed if one of its complete lines spells no text. -/
  illFormed_iff : ∀ m, s.failure = some m → (readWords s = .error .illFormed ↔
    ∃ line ∈ completeLines s.chunks.flatten, ∀ t, encode t ≠ line)
  /-- Otherwise the error is that of the stream. -/
  failed_iff : ∀ m, s.failure = some m → (readWords s = .error (.failed m) ↔
    ∀ line ∈ completeLines s.chunks.flatten, ∃ t, encode t = line)

theorem readsAsWhole (s : Text.Stream) : ReadsAsWhole s where
  accepted_iff hend := by
    simp only [readWords_eq_map_text hend, ← Text.Stream.text_eq_ok_iff]
    cases text s.chunks.flatten <;> simp [Except.map]
  words_iff hend ws := by
    simp only [readWords_eq_map_text hend, ← Text.words_eq_iff, ← Text.Stream.text_eq_ok_iff]
    cases text s.chunks.flatten <;> simp [Except.map]
  refused_iff hend e := by
    rw [readWords_eq_map_text hend, ← Text.Stream.text_eq_error_iff]
    cases text s.chunks.flatten <;> simp [Except.map]
  illFormed_iff m hfail := by
    obtain ⟨hread, hall⟩ | ⟨hread, hbad⟩ := readWords_of_failure hfail
    · refine ⟨fun h => ?_, fun ⟨line, hmem, hnone⟩ => ?_⟩
      · cases hread.symm.trans h
      · exact absurd (hall line hmem) (not_exists.mpr hnone)
    · exact ⟨fun _ => hbad, fun _ => hread⟩
  failed_iff m hfail := by
    obtain ⟨hread, hall⟩ | ⟨hread, line, hmem, hnone⟩ := readWords_of_failure hfail
    · exact ⟨fun _ => hall, fun _ => hread⟩
    · refine ⟨fun h => ?_, fun hall => ?_⟩
      · cases hread.symm.trans h
      · exact absurd (hall line hmem) (not_exists.mpr hnone)

/-- The open line is no text, and the failure comes first. -/
example : readWords ⟨[[0xC3], [0xA9, 0x0A], [0xFF]], some "lost"⟩ = .error (.failed "lost") := by
  cbv

end ProbeForest.Benchmark
