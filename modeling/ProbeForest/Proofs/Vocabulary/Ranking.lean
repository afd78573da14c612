import ProbeForest.Proofs.StableSort
import ProbeForest.Vocabulary.Ranking

/-!
# The ranking of words

Counting keeps the positions of words in step with the entries that stand
there.  A known word is counted at its position, and a new one gets the next
position, so that the entries stay in the order in which their words appeared
first.  Sorting by frequency is stable, and this order decides between words of
equal frequency.  Frequency and first appearance together put any two words in
order, which leaves only one way to list them.

## Main results

* `Tally.Counts.add` — one more token keeps positions, counts and order in step.
* `Tally.counts_ofTokens` — so does a whole list of tokens.
* `RanksWords.unique` — the words of a list of tokens can be ranked in one way only.
* `ofTokens_faithful` — the ranking of a list of tokens is that one, with its
  total, its number of words and its entries by rank.
-/

namespace ProbeForest.Vocabulary

open ProbeForest.StableSort

variable {tokens : List String} {tally : Tally} {entries others : List WordCount}

/-! ## Counting -/

/-- The words that a tally has an entry for, in order. -/
def Tally.words (tally : Tally) : List String := tally.entries.toList.map WordCount.word

/-- A tally that has counted the tokens of a list. -/
structure Tally.Counts (tally : Tally) (tokens : List String) : Prop where
  /-- The position of a word is where its entry stands. -/
  position_iff : ∀ (word : String) (i : Nat),
    tally.positions[word]? = some i ↔ tally.words[i]? = some word
  counted : ∀ entry ∈ tally.entries.toList, entry.count = tokens.count entry.word
  mem_words : ∀ word, word ∈ tally.words ↔ word ∈ tokens
  /-- Words have their entries in the order of their first appearance. -/
  inOrder : tally.words.Pairwise fun a b => tokens.idxOf a < tokens.idxOf b
  total_eq : tally.total = tokens.length

theorem Tally.counts_empty : Tally.empty.Counts [] where
  position_iff word i := by simp [Tally.empty, Tally.words]
  counted entry hentry := by simp [Tally.empty] at hentry
  mem_words word := by simp [Tally.empty, Tally.words]
  inOrder := List.Pairwise.nil
  total_eq := rfl

/-- A new token appears first at the end. -/
theorem idxOf_concat_self {token : String} (h : token ∉ tokens) :
    (tokens ++ [token]).idxOf token = tokens.length := by
  rw [List.idxOf_append_of_notMem h, List.idxOf_cons_self, Nat.add_zero]

/-- The words counted so far stay in the order of their first appearance. -/
theorem Tally.Counts.inOrder_concat (h : tally.Counts tokens) (token : String) :
    tally.words.Pairwise fun a b =>
      (tokens ++ [token]).idxOf a < (tokens ++ [token]).idxOf b := by
  refine h.inOrder.imp_of_mem ?_
  intro a b ha hb hab
  rw [h.mem_words] at ha hb
  rwa [List.idxOf_append_of_mem ha, List.idxOf_append_of_mem hb]

/-! ### A word that is known -/

section Known

variable {token : String} {position : Nat}

theorem Tally.add_of_known (hknown : tally.positions[token]? = some position) :
    tally.add token =
      { tally with
        entries := tally.entries.modify position WordCount.raise
        total := tally.total + 1 } := by
  rw [Tally.add, hknown]

/-- Raising a count in place keeps the words. -/
theorem map_word_modify_raise (entries : List WordCount) (position : Nat) :
    (entries.modify position WordCount.raise).map WordCount.word =
      entries.map WordCount.word := by
  refine List.ext_getElem? fun j => ?_
  rw [List.getElem?_map, List.getElem?_map, List.getElem?_modify]
  by_cases hj : position = j
  · cases entries[j]? with
    | none => rfl
    | some entry => simp [hj, WordCount.raise]
  · simp [hj]

theorem Tally.words_add_of_known (hknown : tally.positions[token]? = some position) :
    (tally.add token).words = tally.words := by
  rw [Tally.add_of_known hknown, Tally.words, Array.toList_modify, map_word_modify_raise]
  rfl

/-- Nothing but the word itself stands at the position of a word. -/
theorem Tally.Counts.position_eq_iff (h : tally.Counts tokens)
    (hknown : tally.positions[token]? = some position) {word : String} {j : Nat}
    (hword : tally.words[j]? = some word) : position = j ↔ token = word := by
  constructor
  · rintro rfl
    exact Option.some.inj (((h.position_iff token position).mp hknown).symm.trans hword)
  · rintro rfl
    exact Option.some.inj (hknown.symm.trans ((h.position_iff token j).mpr hword))

/-- The count of a known word is raised at its position, and no other count changes. -/
theorem Tally.Counts.add_of_known (h : tally.Counts tokens)
    (hknown : tally.positions[token]? = some position) :
    (tally.add token).Counts (tokens ++ [token]) where
  position_iff word i := by
    rw [Tally.words_add_of_known hknown, Tally.add_of_known hknown]
    exact h.position_iff word i
  counted entry hentry := by
    rw [Tally.add_of_known hknown, Array.toList_modify] at hentry
    obtain ⟨j, hj⟩ := List.mem_iff_getElem?.mp hentry
    rw [List.getElem?_modify] at hj
    obtain ⟨old, hold, rfl⟩ := Option.map_eq_some_iff.mp hj
    have hword : tally.words[j]? = some old.word := by
      rw [Tally.words, List.getElem?_map, hold, Option.map_some]
    have hcount := h.counted old (List.mem_of_getElem? hold)
    have hsame_iff := h.position_eq_iff hknown hword
    by_cases hsame : token = old.word
    · rw [if_pos (hsame_iff.mpr hsame)]
      show old.count + 1 = (tokens ++ [token]).count old.word
      rw [List.count_append, hcount, hsame, List.count_singleton_self]
    · rw [if_neg fun heq => hsame (hsame_iff.mp heq), hcount, List.count_append,
        List.count_singleton, if_neg (by simpa using hsame), Nat.add_zero]
  mem_words word := by
    have hold : token ∈ tokens :=
      (h.mem_words token).mp (List.mem_of_getElem? ((h.position_iff token position).mp hknown))
    rw [Tally.words_add_of_known hknown, h.mem_words, List.mem_append, List.mem_singleton]
    constructor
    · exact Or.inl
    · rintro (hword | rfl)
      · exact hword
      · exact hold
  inOrder := by
    rw [Tally.words_add_of_known hknown]
    exact h.inOrder_concat token
  total_eq := by
    rw [Tally.add_of_known hknown, List.length_append, List.length_singleton, ← h.total_eq]

end Known

/-! ### A new word -/

/-- A word stands behind a list, or already stood in it. -/
theorem getElem?_concat_eq_some_iff {words : List String} {token word : String} {i : Nat} :
    (words ++ [token])[i]? = some word ↔
      words[i]? = some word ∨ (i = words.length ∧ token = word) := by
  rcases Nat.lt_trichotomy i words.length with hi | rfl | hi
  · rw [List.getElem?_append_left hi]
    simp [Nat.ne_of_lt hi]
  · simp
  · rw [List.getElem?_eq_none (by simpa using hi), List.getElem?_eq_none (Nat.le_of_lt hi)]
    simp [Nat.ne_of_gt hi]

section New

variable {token : String}

theorem Tally.add_of_new (hnew : tally.positions[token]? = none) :
    tally.add token =
      { positions := tally.positions.insert token tally.entries.size
        entries := tally.entries.push ⟨token, 1⟩
        total := tally.total + 1 } := by
  rw [Tally.add, hnew]

theorem Tally.words_add_of_new (hnew : tally.positions[token]? = none) :
    (tally.add token).words = tally.words ++ [token] := by
  rw [Tally.add_of_new hnew, Tally.words, Array.toList_push, List.map_append]
  rfl

theorem Tally.length_words (tally : Tally) : tally.words.length = tally.entries.size := by
  rw [Tally.words, List.length_map, Array.length_toList]

theorem Tally.Counts.notMem_of_new (h : tally.Counts tokens)
    (hnew : tally.positions[token]? = none) : token ∉ tokens := by
  intro hold
  obtain ⟨i, hi⟩ := List.mem_iff_getElem?.mp ((h.mem_words token).mpr hold)
  rw [← h.position_iff, hnew] at hi
  cases hi

/-- A new word gets the next position, and appears first at the end. -/
theorem Tally.Counts.add_of_new (h : tally.Counts tokens)
    (hnew : tally.positions[token]? = none) :
    (tally.add token).Counts (tokens ++ [token]) where
  position_iff word i := by
    have hfree : tally.words[i]? ≠ some token := by
      rw [Ne, ← h.position_iff, hnew]
      simp
    rw [Tally.words_add_of_new hnew, Tally.add_of_new hnew, Std.HashMap.getElem?_insert,
      getElem?_concat_eq_some_iff, tally.length_words]
    by_cases heq : token = word
    · subst heq
      simp [hfree, eq_comm]
    · simp [heq, h.position_iff]
  counted entry hentry := by
    rw [Tally.add_of_new hnew, Array.toList_push, List.mem_append, List.mem_singleton] at hentry
    rw [List.count_append, List.count_singleton]
    rcases hentry with hentry | rfl
    · have hne : token ≠ entry.word := by
        rintro rfl
        exact h.notMem_of_new hnew ((h.mem_words entry.word).mp (List.mem_map_of_mem hentry))
      simp [h.counted entry hentry, hne]
    · simp [List.count_eq_zero_of_not_mem (h.notMem_of_new hnew)]
  mem_words word := by
    rw [Tally.words_add_of_new hnew, List.mem_append, List.mem_append, h.mem_words]
  inOrder := by
    have hnotMem := h.notMem_of_new hnew
    rw [Tally.words_add_of_new hnew, List.pairwise_append]
    refine ⟨h.inOrder_concat token, List.pairwise_singleton _ _, ?_⟩
    intro a ha b hb
    rw [h.mem_words] at ha
    rw [List.mem_singleton.mp hb, List.idxOf_append_of_mem ha, idxOf_concat_self hnotMem]
    exact List.idxOf_lt_length_of_mem ha
  total_eq := by
    rw [Tally.add_of_new hnew, List.length_append, List.length_singleton, ← h.total_eq]

end New

/-- Counting one more token. -/
theorem Tally.Counts.add (h : tally.Counts tokens) (token : String) :
    (tally.add token).Counts (tokens ++ [token]) := by
  cases hposition : tally.positions[token]? with
  | some position => exact h.add_of_known hposition
  | none => exact h.add_of_new hposition

/-- Counting a list of tokens. -/
theorem Tally.counts_ofTokens (tokens : List String) : (Tally.ofTokens tokens).Counts tokens := by
  induction tokens using List.reverseRecOn with
  | nil => exact Tally.counts_empty
  | append_singleton tokens token ih =>
      rw [Tally.ofTokens, List.foldl_concat]
      exact ih.add token

/-! ## Ranking -/

/-- The first entry stands above the second: its word is more frequent, or as frequent and
appears earlier. -/
def Outranks (tokens : List String) (a b : WordCount) : Prop :=
  b.count < a.count ∨ (a.count = b.count ∧ tokens.idxOf a.word < tokens.idxOf b.word)

/-- A list of words with their counts that ranks the tokens of a list. -/
structure RanksWords (entries : List WordCount) (tokens : List String) : Prop where
  /-- No word is listed twice. -/
  once : (entries.map WordCount.word).Nodup
  /-- The words that are listed are the tokens. -/
  mem_iff : ∀ word, word ∈ entries.map WordCount.word ↔ word ∈ tokens
  /-- Every word has the number of its occurrences. -/
  counted : ∀ entry ∈ entries, entry.count = tokens.count entry.word
  /-- Every entry stands above all later ones. -/
  inOrder : entries.Pairwise (Outranks tokens)

instance Outranks.instAsymm : Std.Asymm (Outranks tokens) where
  asymm a b hab hba := by
    unfold Outranks at hab hba
    omega

/-- An entry is known by its word. -/
theorem RanksWords.mem_entries_iff (h : RanksWords entries tokens) (entry : WordCount) :
    entry ∈ entries ↔ entry.word ∈ tokens ∧ entry.count = tokens.count entry.word := by
  constructor
  · intro hentry
    exact ⟨(h.mem_iff _).mp (List.mem_map_of_mem hentry), h.counted entry hentry⟩
  · rintro ⟨hword, hcount⟩
    obtain ⟨listed, hlisted, hsame⟩ := List.mem_map.mp ((h.mem_iff _).mpr hword)
    have heq : listed = entry := by
      have hlistedCount := h.counted listed hlisted
      cases listed
      cases entry
      simp_all
    exact heq ▸ hlisted

/-- There is only one way to rank the tokens of a list. -/
theorem RanksWords.unique (h : RanksWords entries tokens) (h' : RanksWords others tokens) :
    entries = others :=
  h.inOrder.eq_of_mem_iff h'.inOrder fun entry => by
    rw [h.mem_entries_iff, h'.mem_entries_iff]

/-- The words of a ranking are the distinct tokens. -/
theorem RanksWords.words_perm (h : RanksWords entries tokens) :
    (entries.map WordCount.word).Perm tokens.dedup :=
  (List.perm_ext_iff_of_nodup h.once tokens.nodup_dedup).mpr fun word => by
    rw [h.mem_iff, List.mem_dedup]

theorem RanksWords.sum_counts (h : RanksWords entries tokens) :
    (entries.map WordCount.count).sum = tokens.length := by
  have hcounts : entries.map WordCount.count =
      (entries.map WordCount.word).map fun word => tokens.count word := by
    rw [List.map_map]
    exact List.map_congr_left h.counted
  rw [hcounts, (h.words_perm.map _).sum_eq, List.sum_map_count_dedup_eq_length]

theorem RanksWords.length_eq (h : RanksWords entries tokens) :
    entries.length = tokens.toFinset.card := by
  rw [List.card_toFinset, ← h.words_perm.length_eq, List.length_map]

/-! ### The sorted tally -/

/-- The entries of a tally stand in the order of their first appearance. -/
theorem Tally.Counts.entries_inOrder (h : tally.Counts tokens) :
    tally.entries.toList.Pairwise fun a b => tokens.idxOf a.word < tokens.idxOf b.word := by
  have hwords := h.inOrder
  rwa [Tally.words, List.pairwise_map] at hwords

/-- The entries of a tally, most frequent first, rank the tokens. -/
theorem Tally.Counts.ranksWords (h : tally.Counts tokens) :
    RanksWords (tally.entries.toList.mergeSort fun a b => b.count ≤ a.count) tokens := by
  have hperm := List.mergeSort_perm tally.entries.toList fun a b => decide (b.count ≤ a.count)
  have hwords := hperm.map WordCount.word
  refine ⟨?_, ?_, ?_, ?_⟩
  · refine hwords.nodup_iff.mpr (h.inOrder.imp ?_)
    rintro a b hlt rfl
    exact lt_irrefl _ hlt
  · intro word
    rw [hwords.mem_iff]
    exact h.mem_words word
  · intro entry hentry
    exact h.counted entry (hperm.mem_iff.mp hentry)
  · -- The greatest count comes first, so counts are compared the other way around.
    refine (pairwise_mergeSort_key (fun entry => OrderDual.toDual entry.count)
      (fun a b => ?_) h.entries_inOrder).imp ?_
    · rw [decide_eq_true_eq, OrderDual.toDual_le_toDual]
    · rintro a b (hcount | ⟨hcount, hfirst⟩)
      · exact Or.inl hcount
      · exact Or.inr ⟨hcount, hfirst⟩

/-! ## Rankings of tokens -/

theorem atRank?_succ (r : Ranking) (index : Nat) : r.atRank? (index + 1) = r.entries[index]? :=
  rfl

theorem atRank?_eq_none_iff (r : Ranking) (rank : Nat) :
    r.atRank? rank = none ↔ rank = 0 ∨ r.distinct < rank := by
  cases rank with
  | zero => simp [Ranking.atRank?]
  | succ index =>
      rw [atRank?_succ, List.getElem?_eq_none_iff, Ranking.distinct]
      omega

/-- The entries of a ranking rank the tokens. -/
theorem ranksWords_ofTokens (tokens : List String) :
    RanksWords (Ranking.ofTokens tokens).entries tokens :=
  (Tally.counts_ofTokens tokens).ranksWords

/-- A ranking counts all tokens. -/
theorem total_ofTokens (tokens : List String) : (Ranking.ofTokens tokens).total = tokens.length :=
  (Tally.counts_ofTokens tokens).total_eq

/-- A ranking that tells all about the words of a list of tokens. -/
structure Ranking.Faithful (r : Ranking) (tokens : List String) : Prop where
  /-- Its entries rank the tokens, and no other list does. -/
  entries_iff : ∀ entries, RanksWords entries tokens ↔ entries = r.entries
  total_eq : r.total = tokens.length
  /-- The counts make up the total. -/
  sum_counts : (r.entries.map WordCount.count).sum = r.total
  distinct_eq : r.distinct = tokens.toFinset.card
  /-- Ranks count from one. -/
  atRank_eq : ∀ index : Fin r.entries.length, r.atRank? (index + 1) = some (r.entries.get index)
  /-- No other rank has an entry. -/
  atRank_eq_none_iff : ∀ rank, r.atRank? rank = none ↔ rank = 0 ∨ r.distinct < rank

/-- The ranking of a list of tokens lists each distinct token once with the number of its
occurrences, the most frequent first and of equally frequent ones the earlier first. -/
theorem ofTokens_faithful (tokens : List String) : (Ranking.ofTokens tokens).Faithful tokens := by
  have hranks := ranksWords_ofTokens tokens
  exact
    { entries_iff := fun entries => ⟨fun h => h.unique hranks, fun h => h ▸ hranks⟩
      total_eq := total_ofTokens tokens
      sum_counts := hranks.sum_counts.trans (total_ofTokens tokens).symm
      distinct_eq := hranks.length_eq
      atRank_eq := fun index => by
        rw [atRank?_succ, List.getElem?_eq_getElem index.isLt]
        rfl
      atRank_eq_none_iff := fun rank => atRank?_eq_none_iff _ rank }

/-- Words of equal frequency stay in the order of their first appearance. -/
example : (Ranking.ofTokens ["eel", "cod", "ray", "cod", "eel"]).entries =
    [⟨"eel", 2⟩, ⟨"cod", 2⟩, ⟨"ray", 1⟩] := by
  cbv

end ProbeForest.Vocabulary
