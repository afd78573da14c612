import Mathlib
import ProbeForest.Text.Blank

/-!
# The words of a text

`Spaced` says what the words of a text are without saying how they are found:
gaps of blanks, and between them runs of other characters, each as long as it
can be.  The scan finds exactly these.  Since a blank belongs to no word, a
text may be cut at a blank, and its words are those of the two parts.

## Main results

* `splitWords_eq_iff`, `words_eq_iff` — the scan finds the maximal runs.
* `splitWords_append_cons`, `words_append_lineFeed` — words of a text that is cut.
* `Spaced.flatten_eq`, `splitWords_intercalate` — words that are put together again.
-/

namespace ProbeForest.Text

variable {c : Char} {text current gap word rest : List Char} {ws closed : List (List Char)}

/-! ## The scan, one word at a time -/

theorem closeWord_eq_append (current : List Char) (closed : List (List Char)) :
    closeWord current closed = closeWord current [] ++ closed := by
  unfold closeWord
  cases current.isEmpty <;> rfl

/-- Words that are closed already come first. -/
theorem scanWords_closed (current : List Char) (closed : List (List Char)) (text : List Char) :
    scanWords current closed text = closed.reverse ++ scanWords current [] text := by
  induction text generalizing current closed with
  | nil => rw [scanWords, scanWords, closeWord_eq_append, List.reverse_append]
  | cons c text ih =>
      rw [scanWords, scanWords]
      split
      · rw [ih, ih [] (closeWord current []), closeWord_eq_append, List.reverse_append,
          List.append_assoc]
      · exact ih (c :: current) closed

/-- A word that is open goes on to the next blank. -/
theorem scanWords_open (hopen : current ≠ []) (hword : ∀ c ∈ word, isBlank c = false)
    (hrest : ∀ c ∈ rest.head?, isBlank c = true) :
    scanWords current [] (word ++ rest) = (current.reverse ++ word) :: splitWords rest := by
  induction word generalizing current with
  | nil =>
      have hclose : closeWord current [] = [current.reverse] := by
        rw [closeWord, if_neg (by simpa using hopen)]
      cases rest with
      | nil =>
          rw [List.append_nil, List.append_nil, scanWords, hclose]
          rfl
      | cons c rest =>
          have hblank : isBlank c = true := hrest c rfl
          rw [List.nil_append, scanWords, if_pos hblank, hclose, scanWords_closed, splitWords,
            scanWords, if_pos hblank]
          simp [closeWord]
  | cons c word ih =>
      have hc : isBlank c = false := hword c List.mem_cons_self
      rw [List.cons_append, scanWords, hc]
      have hnext := ih (List.cons_ne_nil c current) fun d hd => hword d (List.mem_cons_of_mem _ hd)
      rw [List.reverse_cons, List.append_assoc] at hnext
      exact hnext

/-- Blanks in front do not count. -/
theorem splitWords_gap (hgap : ∀ c ∈ gap, isBlank c = true) (rest : List Char) :
    splitWords (gap ++ rest) = splitWords rest := by
  induction gap with
  | nil => rfl
  | cons c gap ih =>
      have hc : isBlank c = true := hgap c List.mem_cons_self
      rw [← ih fun d hd => hgap d (List.mem_cons_of_mem _ hd), List.cons_append, splitWords,
        scanWords, if_pos hc]
      rfl

/-- A run of other characters is the first word. -/
theorem splitWords_word (hne : word ≠ []) (hword : ∀ c ∈ word, isBlank c = false)
    (hrest : ∀ c ∈ rest.head?, isBlank c = true) :
    splitWords (word ++ rest) = word :: splitWords rest := by
  cases word with
  | nil => exact absurd rfl hne
  | cons c word =>
      have hc : isBlank c = false := hword c List.mem_cons_self
      have hopen := scanWords_open (List.cons_ne_nil c [])
        (fun d hd => hword d (List.mem_cons_of_mem _ hd)) hrest
      rw [splitWords, List.cons_append, scanWords, hc]
      exact hopen

/-! ## Maximal runs -/

/-- The words of a text: its maximal runs of characters that are not blank, in their order. -/
inductive Spaced : List Char → List (List Char) → Prop where
  /-- Blanks alone have no words. -/
  | gap {gap : List Char} (hgap : ∀ c ∈ gap, isBlank c = true) : Spaced gap []
  /-- After a gap, a run that goes on to a blank or to the end is a word. -/
  | word {gap word rest : List Char} {ws : List (List Char)} (hgap : ∀ c ∈ gap, isBlank c = true)
      (hne : word ≠ []) (hword : ∀ c ∈ word, isBlank c = false)
      (hend : ∀ c ∈ rest.head?, isBlank c = true) (hrest : Spaced rest ws) :
      Spaced (gap ++ word ++ rest) (word :: ws)

theorem Spaced.splitWords_eq (h : Spaced text ws) : splitWords text = ws := by
  induction h with
  | @gap gap hgap =>
      have hnone := splitWords_gap hgap []
      rwa [List.append_nil] at hnone
  | word hgap hne hword hend _ ih =>
      rw [List.append_assoc, splitWords_gap hgap, splitWords_word hne hword hend, ih]

/-- A run of characters of one sort goes on as long as it can. -/
theorem exists_run (sort : Char → Bool) (text : List Char) : ∃ run rest, text = run ++ rest ∧
    (∀ c ∈ run, sort c = true) ∧ ∀ c ∈ rest.head?, sort c = false := by
  refine ⟨text.takeWhile sort, text.dropWhile sort, List.takeWhile_append_dropWhile.symm,
    fun c hc => List.mem_takeWhile_imp hc, fun c hc => ?_⟩
  have hhead := List.head?_dropWhile_not sort text
  rw [Option.mem_def.mp hc] at hhead
  simpa using hhead

/-- Induction on the length: a gap and a word are taken off in front. -/
theorem exists_spaced (text : List Char) : ∃ ws, Spaced text ws := by
  induction hlength : text.length using Nat.strong_induction_on generalizing text with
  | h length ih =>
      obtain ⟨gap, behind, rfl, hgap, hbehind⟩ := exists_run isBlank text
      cases behind with
      | nil =>
          rw [List.append_nil]
          exact ⟨[], Spaced.gap hgap⟩
      | cons c behind =>
          obtain ⟨word, rest, hsplit, hword, hrest⟩ :=
            exists_run (fun d => !isBlank d) (c :: behind)
          have hc : isBlank c = false := hbehind c rfl
          have hne : word ≠ [] := by
            rintro rfl
            have hblank := hrest c (by rw [← List.nil_append rest, ← hsplit]; rfl)
            rw [hc] at hblank
            cases hblank
          have hshort : rest.length < length := by
            have hword := List.length_pos_of_ne_nil hne
            rw [← hlength, hsplit, List.length_append, List.length_append]
            omega
          obtain ⟨ws, hws⟩ := ih rest.length hshort rest rfl
          rw [hsplit, ← List.append_assoc]
          exact ⟨word :: ws, .word hgap hne (fun d hd => by simpa using hword d hd)
            (fun d hd => by simpa using hrest d hd) hws⟩

/-- The scan finds the maximal runs. -/
theorem splitWords_eq_iff : splitWords text = ws ↔ Spaced text ws := by
  constructor
  · rintro rfl
    obtain ⟨ws, hws⟩ := exists_spaced text
    rwa [hws.splitWords_eq]
  · exact Spaced.splitWords_eq

theorem words_eq_iff {text : String} {ws : List String} :
    words text = ws ↔ Spaced text.toList (ws.map String.toList) := by
  rw [← splitWords_eq_iff, words]
  constructor
  · rintro rfl
    simp [List.map_map, Function.comp_def]
  · intro h
    rw [h, List.map_map]
    simp [Function.comp_def]

/-! ## Cutting at a blank -/

theorem scanWords_append_cons (hblank : isBlank c = true) (current : List Char)
    (closed : List (List Char)) (text rest : List Char) :
    scanWords current closed (text ++ c :: rest) =
      scanWords current closed text ++ splitWords rest := by
  induction text generalizing current closed with
  | nil =>
      rw [List.nil_append, scanWords, scanWords, if_pos hblank, scanWords_closed]
      rfl
  | cons d text ih =>
      rw [List.cons_append, scanWords, scanWords]
      split
      · exact ih [] _
      · exact ih (d :: current) closed

/-- A blank separates words. -/
theorem splitWords_append_cons (hblank : isBlank c = true) (text rest : List Char) :
    splitWords (text ++ c :: rest) = splitWords text ++ splitWords rest :=
  scanWords_append_cons hblank [] [] text rest

theorem words_append_lineFeed (text rest : String) :
    words (text ++ "\n" ++ rest) = words text ++ words rest := by
  have hlist : (text ++ "\n" ++ rest).toList = text.toList ++ '\n' :: rest.toList := by simp
  have hblank : isBlank '\n' = true := by decide
  rw [words, hlist, splitWords_append_cons hblank, List.map_append]
  rfl

/-! ## What words are made of -/

/-- A word has characters, and none of them is blank. -/
theorem Spaced.of_mem (h : Spaced text ws) (hword : word ∈ ws) :
    word ≠ [] ∧ ∀ c ∈ word, isBlank c = false := by
  induction h with
  | gap => cases hword
  | word _ hne hblank _ _ ih =>
      rcases List.mem_cons.mp hword with rfl | hlater
      · exact ⟨hne, hblank⟩
      · exact ih hlater

theorem filter_gap (hgap : ∀ c ∈ gap, isBlank c = true) :
    gap.filter (fun c => !isBlank c) = [] := by
  apply List.filter_eq_nil_iff.mpr
  intro c hc
  simp [hgap c hc]

/-- The words together are the characters that are not blank. -/
theorem Spaced.flatten_eq (h : Spaced text ws) : ws.flatten = text.filter fun c => !isBlank c := by
  induction h with
  | gap hgap => exact (filter_gap hgap).symm
  | @word gap word rest ws hgap _ hblank _ _ ih =>
      have hall : word.filter (fun c => !isBlank c) = word := by
        apply List.filter_eq_self.mpr
        intro c hc
        simp [hblank c hc]
      rw [List.filter_append, List.filter_append, filter_gap hgap, hall, List.flatten_cons, ih,
        List.nil_append]

/-- Words that are joined by single blanks are found again. -/
theorem splitWords_intercalate (hblank : isBlank c = true)
    (hws : ∀ word ∈ ws, word ≠ [] ∧ ∀ c ∈ word, isBlank c = false) :
    splitWords (List.intercalate [c] ws) = ws := by
  induction ws with
  | nil => rfl
  | cons word ws ih =>
      obtain ⟨hne, hword⟩ := hws word List.mem_cons_self
      have hlater := ih fun later hmem => hws later (List.mem_cons_of_mem _ hmem)
      have hone : splitWords word = [word] := by
        have h : splitWords (word ++ []) = word :: splitWords [] :=
          splitWords_word hne hword (by simp)
        rwa [List.append_nil] at h
      cases ws with
      | nil =>
          rw [List.intercalate_singleton]
          exact hone
      | cons next ws =>
          rw [List.intercalate_cons_cons, List.append_assoc, List.singleton_append,
            splitWords_append_cons hblank, hone, hlater]
          rfl

end ProbeForest.Text
