import Mathlib
import ProbeForest.Text.Stream
import ProbeForest.Proofs.Text.Utf8

/-!
# Reading line by line

A stream is read byte by byte, and a line is checked when its line feed
arrives.  What comes of that is told here by the lines of all its bytes
together: those that end at a line feed, and the open one behind the last line
feed, which may be empty.  Where one chunk stops does not appear in it.

## Main results

* `foldLines_eq` — what folding over the lines of a stream gives.
* `text_cut` — text with a line feed in it is read by reading both sides.
* `mapM_text_cases` — a list of lines is read whole, or one of them spells nothing.
-/

namespace ProbeForest.Text.Stream

variable {α : Type} {line : List UInt8} {lines : List (List UInt8)}

/-! ## Lines -/

/-- The lines that end at a line feed, without it. -/
def completeLines (bytes : List UInt8) : List (List UInt8) := (bytes.splitOn lineFeed).dropLast

/-- What stands behind the last line feed. -/
def openLine (bytes : List UInt8) : List UInt8 :=
  (bytes.splitOn lineFeed).getLast (List.splitOn_ne_nil lineFeed bytes)

theorem completeLines_of_not_mem (h : lineFeed ∉ line) : completeLines line = [] := by
  rw [completeLines, List.splitOn_eq_singleton h, List.dropLast_singleton]

theorem openLine_of_not_mem (h : lineFeed ∉ line) : openLine line = line := by
  simp only [openLine, List.splitOn_eq_singleton h, List.getLast_singleton]

theorem completeLines_cut (h : lineFeed ∉ line) (rest : List UInt8) :
    completeLines (line ++ lineFeed :: rest) = line :: completeLines rest := by
  rw [completeLines, List.splitOn_append_cons_self_of_not_mem h,
    List.dropLast_cons_of_ne_nil (List.splitOn_ne_nil lineFeed rest), completeLines]

theorem openLine_cut (h : lineFeed ∉ line) (rest : List UInt8) :
    openLine (line ++ lineFeed :: rest) = openLine rest := by
  simp only [openLine, List.splitOn_append_cons_self_of_not_mem h]
  exact List.getLast_cons (List.splitOn_ne_nil lineFeed rest)

/-- Bytes are a line that is open, or a line, its line feed and more bytes. -/
@[elab_as_elim]
theorem line_induction {P : List UInt8 → Prop} (last : ∀ line, lineFeed ∉ line → P line)
    (cut : ∀ line rest, lineFeed ∉ line → P rest → P (line ++ lineFeed :: rest))
    (bytes : List UInt8) : P bytes := by
  induction hlength : bytes.length using Nat.strong_induction_on generalizing bytes with
  | h length ih =>
      by_cases hmem : lineFeed ∈ bytes
      · obtain ⟨line, rest, rfl, hline⟩ := List.eq_append_cons_of_mem hmem
        refine cut line rest hline (ih rest.length ?_ rest rfl)
        rw [← hlength, List.length_append, List.length_cons]
        omega
      · exact last bytes hmem

/-! ## Text -/

theorem text_eq_ok_iff {bytes : List UInt8} {t : String} :
    text bytes = .ok t ↔ encode t = bytes := by
  rw [← decode?_eq_some_iff, text]
  cases decode? bytes <;> simp

theorem text_eq_error_iff {bytes : List UInt8} {e : ReadError} :
    text bytes = .error e ↔ e = .illFormed ∧ ∀ t, encode t ≠ bytes := by
  simp only [ne_eq, ← decode?_eq_some_iff, text]
  cases decode? bytes <;> simp [eq_comm]

theorem text_cut (line rest : List UInt8) : text (line ++ lineFeed :: rest) = (do
    let before ← text line
    let after ← text rest
    return before ++ "\n" ++ after) := by
  cases hline : text line with
  | error e =>
      obtain ⟨rfl, hnone⟩ := text_eq_error_iff.mp hline
      refine text_eq_error_iff.mpr ⟨rfl, fun t ht => ?_⟩
      obtain ⟨before, _, hbefore, _, _⟩ := encode_eq_cut_iff.mp ht
      exact hnone before hbefore
  | ok before =>
      cases hrest : text rest with
      | error e =>
          obtain ⟨rfl, hnone⟩ := text_eq_error_iff.mp hrest
          refine text_eq_error_iff.mpr ⟨rfl, fun t ht => ?_⟩
          obtain ⟨_, after, _, hafter, _⟩ := encode_eq_cut_iff.mp ht
          exact hnone after hafter
      | ok after =>
          rw [text_eq_ok_iff] at hline hrest
          exact text_eq_ok_iff.mpr (encode_eq_cut_iff.mpr ⟨before, after, hline, hrest, rfl⟩)

/-- Either all lines are read, or one of them spells nothing. -/
theorem mapM_text_cases (lines : List (List UInt8)) :
    ((∃ texts, lines.mapM text = .ok texts) ∧ ∀ line ∈ lines, ∃ t, encode t = line) ∨
      (lines.mapM text = .error .illFormed ∧ ∃ line ∈ lines, ∀ t, encode t ≠ line) := by
  induction lines with
  | nil => exact .inl ⟨⟨[], rfl⟩, fun line h => absurd h List.not_mem_nil⟩
  | cons line lines ih =>
      rw [List.mapM_cons]
      cases hline : text line with
      | error e =>
          obtain ⟨rfl, hnone⟩ := text_eq_error_iff.mp hline
          exact .inr ⟨rfl, line, List.mem_cons_self, hnone⟩
      | ok t =>
          obtain ⟨⟨texts, hread⟩, hall⟩ | ⟨hread, bad, hmem, hnone⟩ := ih <;> rw [hread]
          · refine .inl ⟨⟨t :: texts, rfl⟩, fun other hother => ?_⟩
            rcases List.mem_cons.mp hother with rfl | hother
            · exact ⟨t, text_eq_ok_iff.mp hline⟩
            · exact hall other hother
          · exact .inr ⟨rfl, bad, List.mem_cons_of_mem _ hmem, hnone⟩

/-! ## Folding over lines -/

variable (use : α → String → α)

theorem foldlM_take_of_not_mem (h : lineFeed ∉ line) (r : Reading α) :
    line.foldlM (Reading.take use) r = .ok ⟨r.state, line.reverse ++ r.line⟩ := by
  induction line generalizing r with
  | nil => rfl
  | cons byte line ih =>
      obtain ⟨hbyte, hline⟩ := not_or.mp (mt List.mem_cons.mpr h)
      have hstep : r.take use byte = .ok ⟨r.state, byte :: r.line⟩ := by
        rw [Reading.take, if_neg (Ne.symm hbyte)]
      rw [List.foldlM_cons, hstep, List.reverse_cons, List.append_assoc]
      exact ih hline _

/-- Up to the next line feed, one line is handed over. -/
theorem foldlM_take_cut (h : lineFeed ∉ line) (rest : List UInt8) (start : α) :
    (line ++ lineFeed :: rest).foldlM (Reading.take use) ⟨start, []⟩ = (do
      let t ← text line
      rest.foldlM (Reading.take use) ⟨use start t, []⟩) := by
  rw [List.foldlM_append, foldlM_take_of_not_mem use h]
  change (lineFeed :: rest).foldlM (Reading.take use) ⟨start, line.reverse ++ []⟩ = _
  rw [List.append_nil, List.foldlM_cons, Reading.take, if_pos rfl, Reading.endLine,
    List.reverse_reverse]
  cases text line <;> rfl

/-- All complete lines are handed over, and the open one is left. -/
theorem foldlM_take (bytes : List UInt8) (start : α) :
    bytes.foldlM (Reading.take use) ⟨start, []⟩ = (do
      let texts ← (completeLines bytes).mapM text
      return Reading.mk (texts.foldl use start) (openLine bytes).reverse) := by
  induction bytes using line_induction generalizing start with
  | last line hline =>
      rw [foldlM_take_of_not_mem use hline, completeLines_of_not_mem hline,
        openLine_of_not_mem hline, List.append_nil]
      rfl
  | cut line rest hline ih =>
      rw [foldlM_take_cut use hline, completeLines_cut hline, openLine_cut hline, List.mapM_cons]
      cases text line with
      | error e => rfl
      | ok t =>
          change rest.foldlM (Reading.take use) ⟨use start t, []⟩ = _
          rw [ih]
          cases (completeLines rest).mapM text <;> rfl

theorem foldlM_chunks (chunks : List (List UInt8)) (r : Reading α) :
    chunks.foldlM (fun r chunk => chunk.foldlM (Reading.take use) r) r =
      chunks.flatten.foldlM (Reading.take use) r := by
  induction chunks generalizing r with
  | nil => rfl
  | cons chunk chunks ih =>
      rw [List.foldlM_cons, List.flatten_cons, List.foldlM_append]
      exact bind_congr ih

/-- The complete lines are checked before the ending, and the open line after it. -/
theorem foldLines_eq (s : Stream) (start : α) : s.foldLines use start = (do
    let texts ← (completeLines s.chunks.flatten).mapM text
    s.ending
    if openLine s.chunks.flatten = [] then return texts.foldl use start
    return use (texts.foldl use start) (← text (openLine s.chunks.flatten))) := by
  rw [foldLines, foldlM_chunks, foldlM_take]
  cases (completeLines s.chunks.flatten).mapM text with
  | error e => rfl
  | ok texts =>
      cases s.ending with
      | error e => rfl
      | ok _ =>
          change (if (openLine s.chunks.flatten).reverse.isEmpty then _ else _) = ite _ _ _
          simp only [List.isEmpty_reverse, List.isEmpty_iff, Reading.endLine,
            List.reverse_reverse]
          split
          · rfl
          · cases text (openLine s.chunks.flatten) <;> rfl

end ProbeForest.Text.Stream
