import ProbeForest.Proofs.Vocabulary.Ranking
import ProbeForest.Proofs.Vocabulary.Tokens
import ProbeForest.Proofs.Watching

/-!
# What a secret is spelled with

A list of ranks is refused if one of them is zero, and otherwise if the largest
one lies beyond the last word.  If it is not refused, every rank names a word,
so that passing over ranks that name none passes over nothing: the secret is
the concatenation of one word for each rank.

Repeating a text multiplies all counts by the same factor.  That changes
neither which of two words is more frequent nor which appeared first, and
words can be ranked in one way only.  So the ranking stays, but for its counts,
and every secret with it.

## Main results

* `Ranking.secret_cases` — the three ends of spelling a secret.
* `RanksWords.flatten_replicate` — the ranking of tokens that are repeated.
* `tokenize_repeated` — the tokens of a text that is repeated.
* `secret_laws` — what holds of secrets.
-/

namespace ProbeForest.Vocabulary

open Text (isBlank)

variable {r : Ranking} {ranks more : List Nat} {secret : String} {tokens : List String}
  {entries : List WordCount}

/-! ## The ends of spelling -/

/-- The word at a rank. -/
def Ranking.word? (r : Ranking) (rank : Nat) : Option String := (r.atRank? rank).map WordCount.word

/-- Every rank lies between one and the number of words. -/
def Ranking.Names (r : Ranking) (ranks : List Nat) : Prop :=
  ∀ rank ∈ ranks, 1 ≤ rank ∧ rank ≤ r.distinct

/-- The maximum is taken over the ranks and zero. -/
theorem isGreatest_foldl_max (ranks : List Nat) :
    IsGreatest {rank | rank ∈ 0 :: ranks} (ranks.foldl max 0) := by
  have hmax : (0 :: ranks).max? = some (ranks.foldl max 0) := List.max?_cons'
  exact List.max?_eq_some_iff.mp hmax

/-- Unless it is zero, it is the largest of the ranks. -/
theorem isGreatest_of_pos (h : 0 < ranks.foldl max 0) :
    IsGreatest {rank | rank ∈ ranks} (ranks.foldl max 0) := by
  obtain ⟨hmem, hle⟩ := isGreatest_foldl_max ranks
  refine ⟨?_, fun rank hrank => hle (List.mem_cons_of_mem 0 hrank)⟩
  rcases List.mem_cons.mp hmem with hzero | hrank
  · omega
  · exact hrank

/-- The words at the ranks, one after another. -/
theorem spell_selections (r : Ranking) (ranks : List Nat) :
    Ranking.spell (r.selections ranks) = String.join (ranks.filterMap r.word?) := by
  have hwords : (r.selections ranks).map (·.2.word) = ranks.filterMap r.word? := by
    rw [Ranking.selections, List.map_filterMap]
    congr 1
    funext rank
    rw [Option.map_map]
    rfl
  rw [Ranking.spell, hwords]

/-- A rank is zero, or the largest one lies beyond the last word, or every rank names a word. -/
theorem Ranking.secret_cases (r : Ranking) (ranks : List Nat) :
    (0 ∈ ranks ∧ r.secret ranks = .error .zeroRank) ∨
      (0 ∉ ranks ∧ ∃ largest, IsGreatest {rank | rank ∈ ranks} largest ∧
        r.distinct < largest ∧
        r.secret ranks = .error (.insufficientVocabulary largest r.distinct)) ∨
      (r.Names ranks ∧ r.secret ranks = .ok (String.join (ranks.filterMap r.word?))) := by
  by_cases hzero : 0 ∈ ranks
  · refine Or.inl ⟨hzero, ?_⟩
    rw [secret, checkRanks, if_pos hzero]
    rfl
  · by_cases hfew : r.distinct < ranks.foldl max 0
    · refine Or.inr (Or.inl ⟨hzero, _, isGreatest_of_pos (Nat.zero_lt_of_lt hfew), hfew, ?_⟩)
      rw [secret, checkRanks, if_neg hzero, if_pos hfew]
      rfl
    · refine Or.inr (Or.inr ⟨fun rank hrank => ?_, ?_⟩)
      · have hle := (isGreatest_foldl_max ranks).2 (List.mem_cons_of_mem 0 hrank)
        have hpos : rank ≠ 0 := fun heq => hzero (heq ▸ hrank)
        omega
      · rw [secret, checkRanks, if_neg hzero, if_neg hfew, ← spell_selections]
        rfl

theorem Ranking.secret_eq_zeroRank_iff : r.secret ranks = .error .zeroRank ↔ 0 ∈ ranks := by
  rcases r.secret_cases ranks with ⟨hzero, heq⟩ | ⟨hzero, _, _, _, heq⟩ | ⟨hnames, heq⟩
  · exact ⟨fun _ => hzero, fun _ => heq⟩
  · rw [heq]
    exact ⟨(nomatch ·), fun h => absurd h hzero⟩
  · rw [heq]
    exact ⟨(nomatch ·), fun h => absurd (hnames 0 h).1 (by decide)⟩

theorem Ranking.secret_eq_insufficientVocabulary_iff {required available : Nat} :
    r.secret ranks = .error (.insufficientVocabulary required available) ↔
      0 ∉ ranks ∧ IsGreatest {rank | rank ∈ ranks} required ∧ available = r.distinct ∧
        r.distinct < required := by
  rcases r.secret_cases ranks with ⟨hzero, heq⟩ | ⟨hzero, largest, hlargest, hfew, heq⟩ |
    ⟨hnames, heq⟩
  · rw [heq]
    exact ⟨(nomatch ·), fun h => absurd hzero h.1⟩
  · rw [heq]
    constructor
    · intro h
      cases h
      exact ⟨hzero, hlargest, rfl, hfew⟩
    · intro h
      obtain ⟨_, hrequired, rfl, _⟩ := h
      rw [hlargest.unique hrequired]
  · rw [heq]
    refine ⟨(nomatch ·), fun h => ?_⟩
    obtain ⟨_, hrequired, _, hmore⟩ := h
    have hle := (hnames required hrequired.1).2
    omega

theorem Ranking.secret_eq_ok_iff : r.secret ranks = .ok secret ↔
    r.Names ranks ∧ secret = String.join (ranks.filterMap r.word?) := by
  rcases r.secret_cases ranks with ⟨hzero, heq⟩ | ⟨_, largest, hlargest, hfew, heq⟩ |
    ⟨hnames, heq⟩
  · rw [heq]
    exact ⟨(nomatch ·), fun h => absurd (h.1 0 hzero).1 (by decide)⟩
  · rw [heq]
    refine ⟨(nomatch ·), fun h => ?_⟩
    have hle := (h.1 largest hlargest.1).2
    omega
  · rw [heq]
    constructor
    · intro h
      exact ⟨hnames, (Except.ok.inj h).symm⟩
    · intro h
      rw [h.2]

/-! ## One word for each rank -/

/-- A rank names a word exactly if it lies between one and the number of words. -/
theorem exists_word?_iff {rank : Nat} :
    (∃ word, r.word? rank = some word) ↔ 1 ≤ rank ∧ rank ≤ r.distinct := by
  have hnone := atRank?_eq_none_iff r rank
  rw [Ranking.word?]
  cases hentry : r.atRank? rank with
  | none =>
      have hout := hnone.mp hentry
      constructor
      · intro h
        obtain ⟨word, hword⟩ := h
        cases hword
      · omega
  | some entry =>
      rw [hentry] at hnone
      have hin : ¬ (rank = 0 ∨ r.distinct < rank) := fun h => nomatch hnone.mpr h
      constructor
      · omega
      · intro _
        exact ⟨entry.word, rfl⟩

/-- If every rank names a word, none is passed over. -/
theorem forall₂_word?_iff {words : List String} :
    List.Forall₂ (fun rank word => r.word? rank = some word) ranks words ↔
      r.Names ranks ∧ words = ranks.filterMap r.word? := by
  induction ranks generalizing words with
  | nil =>
      rw [List.forall₂_nil_left_iff, List.filterMap_nil]
      exact ⟨fun h => ⟨List.forall_mem_nil _, h⟩, fun h => h.2⟩
  | cons rank ranks ih =>
      rw [List.forall₂_cons_left_iff]
      constructor
      · intro h
        obtain ⟨word, words, hword, hwords, rfl⟩ := h
        obtain ⟨hnames, hjoin⟩ := ih.mp hwords
        refine ⟨List.forall_mem_cons.mpr ⟨exists_word?_iff.mp ⟨word, hword⟩, hnames⟩, ?_⟩
        rw [List.filterMap_cons_some hword, hjoin]
      · intro h
        obtain ⟨hrank, hnames⟩ := List.forall_mem_cons.mp h.1
        obtain ⟨word, hword⟩ := exists_word?_iff.mpr hrank
        rw [List.filterMap_cons_some hword] at h
        exact ⟨word, _, hword, ih.mpr ⟨hnames, rfl⟩, h.2⟩

theorem Ranking.names_append : r.Names (ranks ++ more) ↔ r.Names ranks ∧ r.Names more :=
  List.forall_mem_append

/-- Lists of ranks that are joined spell their secrets one after the other. -/
theorem Ranking.secret_append_eq_ok_iff : r.secret (ranks ++ more) = .ok secret ↔
    ∃ first second, r.secret ranks = .ok first ∧ r.secret more = .ok second ∧
      secret = first ++ second := by
  simp only [secret_eq_ok_iff, names_append, List.filterMap_append, String.join_append]
  constructor
  · intro h
    obtain ⟨⟨hranks, hmore⟩, rfl⟩ := h
    exact ⟨_, _, ⟨hranks, rfl⟩, ⟨hmore, rfl⟩, rfl⟩
  · intro h
    obtain ⟨_, _, ⟨hranks, rfl⟩, ⟨hmore, rfl⟩, rfl⟩ := h
    exact ⟨⟨hranks, hmore⟩, rfl⟩

/-! ## Repeating the tokens -/

/-- An entry whose word is counted `k` times as often. -/
def WordCount.scale (k : Nat) (entry : WordCount) : WordCount := ⟨entry.word, k * entry.count⟩

/-- A ranking with all counts multiplied. -/
def Ranking.scale (k : Nat) (r : Ranking) : Ranking := ⟨r.entries.map (.scale k), k * r.total⟩

theorem Ranking.word?_scale (k : Nat) (r : Ranking) (rank : Nat) :
    (r.scale k).word? rank = r.word? rank := by
  cases rank with
  | zero => rfl
  | succ index =>
      rw [word?, word?, atRank?_succ, atRank?_succ, scale, List.getElem?_map, Option.map_map]
      rfl

/-- Counts do not show in a secret. -/
theorem Ranking.secret_scale (k : Nat) (r : Ranking) (ranks : List Nat) :
    (r.scale k).secret ranks = r.secret ranks := by
  have hdistinct : (r.scale k).distinct = r.distinct := List.length_map _
  have hword : (r.scale k).word? = r.word? := funext (r.word?_scale k)
  rw [secret, secret, spell_selections, spell_selections, hword, checkRanks, checkRanks, hdistinct]

theorem map_word_scale (k : Nat) (entries : List WordCount) :
    (entries.map (.scale k)).map WordCount.word = entries.map WordCount.word := by
  rw [List.map_map]
  rfl

/-- Repeating the tokens repeats their counts. -/
theorem count_flatten_replicate (k : Nat) (tokens : List String) (word : String) :
    (List.replicate k tokens).flatten.count word = k * tokens.count word := by
  rw [List.count_flatten, List.map_replicate, List.sum_replicate, smul_eq_mul]

section Repeating

variable {k : Nat} (hk : 0 < k)

include hk

theorem mem_flatten_replicate {word : String} :
    word ∈ (List.replicate k tokens).flatten ↔ word ∈ tokens := by
  rw [← List.count_pos_iff, count_flatten_replicate, Nat.mul_pos_iff_of_pos_left hk,
    List.count_pos_iff]

/-- Every word appears first in the first copy of the tokens. -/
theorem idxOf_flatten_replicate {word : String} (h : word ∈ tokens) :
    (List.replicate k tokens).flatten.idxOf word = tokens.idxOf word := by
  obtain ⟨k, rfl⟩ := Nat.exists_eq_add_one_of_ne_zero (Nat.ne_of_gt hk)
  rw [List.replicate_succ, List.flatten_cons, List.idxOf_append_of_mem h]

/-- Repeating the tokens does not change which of two entries stands above the other. -/
theorem outranks_scale_iff {a b : WordCount} (ha : a.word ∈ tokens) (hb : b.word ∈ tokens) :
    Outranks (List.replicate k tokens).flatten (a.scale k) (b.scale k) ↔ Outranks tokens a b := by
  show k * b.count < k * a.count ∨ (k * a.count = k * b.count ∧
    (List.replicate k tokens).flatten.idxOf a.word <
      (List.replicate k tokens).flatten.idxOf b.word) ↔ _
  rw [idxOf_flatten_replicate hk ha, idxOf_flatten_replicate hk hb, Nat.mul_lt_mul_left hk,
    Nat.mul_right_inj (Nat.ne_of_gt hk), Outranks]

/-- Tokens that are repeated are ranked alike. -/
theorem RanksWords.flatten_replicate (h : RanksWords entries tokens) :
    RanksWords (entries.map (.scale k)) (List.replicate k tokens).flatten where
  once := by
    rw [map_word_scale]
    exact h.once
  mem_iff word := by
    rw [map_word_scale, h.mem_iff, mem_flatten_replicate hk]
  counted entry hentry := by
    obtain ⟨old, hold, rfl⟩ := List.mem_map.mp hentry
    rw [count_flatten_replicate]
    exact congrArg (k * ·) (h.counted old hold)
  inOrder := by
    rw [List.pairwise_map]
    apply h.inOrder.imp_of_mem
    intro a b ha hb hab
    have hfirst := (h.mem_iff a.word).mp (List.mem_map_of_mem ha)
    have hsecond := (h.mem_iff b.word).mp (List.mem_map_of_mem hb)
    exact (outranks_scale_iff hk hfirst hsecond).mpr hab

/-- Repeating the tokens multiplies all counts, and nothing else changes. -/
theorem ofTokens_flatten_replicate (tokens : List String) :
    Ranking.ofTokens (List.replicate k tokens).flatten = (Ranking.ofTokens tokens).scale k := by
  have hrepeated := ranksWords_ofTokens (List.replicate k tokens).flatten
  have hentries := hrepeated.unique ((ranksWords_ofTokens tokens).flatten_replicate hk)
  have htotal : (Ranking.ofTokens (List.replicate k tokens).flatten).total =
      k * (Ranking.ofTokens tokens).total := by
    rw [total_ofTokens, total_ofTokens, List.length_flatten, List.map_replicate,
      List.sum_replicate, smul_eq_mul]
  exact congrArg₂ Ranking.mk hentries htotal

end Repeating

/-! ## Repeating the text -/

/-- Copies of a text with gaps between them, one copy more than gaps. -/
def repeated (text : String) : List String → String
  | [] => text
  | gap :: gaps => text ++ gap ++ repeated text gaps

/-- A gap is not empty, and has nothing but blanks. -/
def IsGap (gap : String) : Prop := gap ≠ "" ∧ ∀ c ∈ gap.toList, isBlank c = true

/-- Blanks in front do not count. -/
theorem tokenize_blanks {blanks : List Char} (h : ∀ c ∈ blanks, isBlank c = true) (text : String) :
    tokenize (String.ofList blanks ++ text) = tokenize text := by
  have hclean : clean blanks = blanks := clean_eq_self fun c hc => isPlain_of_isBlank (h c hc)
  rw [tokenize, String.toList_append, String.toList_ofList, clean_append, hclean,
    Text.splitWords_gap h, tokenize]

/-- A gap cuts a text in two. -/
theorem tokenize_gap {gap : String} (h : IsGap gap) (text other : String) :
    tokenize (text ++ gap ++ other) = tokenize text ++ tokenize other := by
  obtain ⟨hne, hblank⟩ := h
  cases hlist : gap.toList with
  | nil => exact absurd (String.toList_eq_nil_iff.mp hlist) hne
  | cons c blanks =>
      rw [hlist] at hblank
      have hgap : gap = String.singleton c ++ String.ofList blanks := by
        apply String.toList_injective
        rw [hlist, String.toList_append, String.toList_singleton, String.toList_ofList,
          List.singleton_append]
      rw [hgap, String.append_assoc, String.append_assoc, ← String.append_assoc,
        tokenize_append (hblank c List.mem_cons_self),
        tokenize_blanks fun d hd => hblank d (List.mem_cons_of_mem c hd)]

/-- The tokens of a text that is repeated. -/
theorem tokenize_repeated (text : String) {gaps : List String} (h : ∀ gap ∈ gaps, IsGap gap) :
    tokenize (repeated text gaps) =
      (List.replicate (gaps.length + 1) (tokenize text)).flatten := by
  induction gaps with
  | nil =>
      rw [repeated, List.length_nil, List.replicate_succ, List.replicate_zero, List.flatten_cons,
        List.flatten_nil, List.append_nil]
  | cons gap gaps ih =>
      have hrest := ih fun later hlater => h later (List.mem_cons_of_mem gap hlater)
      rw [repeated, tokenize_gap (h gap List.mem_cons_self), hrest]
      rfl

theorem ofText_repeated (text : String) {gaps : List String} (h : ∀ gap ∈ gaps, IsGap gap) :
    Ranking.ofText (repeated text gaps) = (Ranking.ofText text).scale (gaps.length + 1) := by
  rw [Ranking.ofText, tokenize_repeated text h, Ranking.ofText,
    ofTokens_flatten_replicate (Nat.succ_pos _)]

/-! ## The laws -/

/-- What the secrets of a ranking come to. -/
structure SpelledInFull (r : Ranking) : Prop where
  /-- A secret under watch is the secret. -/
  watched : ∀ ranks, Journal.Gives (Workflow.secret r ranks) (r.secret ranks)
  /-- Ranks are refused for a zero exactly if there is one. -/
  zeroRank_iff : ∀ ranks, r.secret ranks = .error .zeroRank ↔ 0 ∈ ranks
  /-- Otherwise they are refused exactly if the largest of them lies beyond the last word, and
  both are named. -/
  insufficientVocabulary_iff : ∀ ranks required available,
    r.secret ranks = .error (.insufficientVocabulary required available) ↔
      0 ∉ ranks ∧ IsGreatest {rank | rank ∈ ranks} required ∧ available = r.distinct ∧
        r.distinct < required
  /-- Otherwise there is a secret, -/
  ok_of_names : ∀ ranks, (∃ secret, r.secret ranks = .ok secret) ↔
    ∀ rank ∈ ranks, 1 ≤ rank ∧ rank ≤ r.distinct
  /-- and it is the concatenation of one word for each rank, in the order of the ranks. -/
  ok_iff : ∀ ranks secret, r.secret ranks = .ok secret ↔ ∃ words,
    List.Forall₂ (fun rank word => ∃ entry, r.atRank? rank = some entry ∧ entry.word = word)
      ranks words ∧ secret = String.join words
  /-- Lists of ranks that are joined spell their secrets one after the other. -/
  append_iff : ∀ ranks more secret, r.secret (ranks ++ more) = .ok secret ↔
    ∃ first second, r.secret ranks = .ok first ∧ r.secret more = .ok second ∧
      secret = first ++ second

/-- What repeating a text, with blanks between the copies, does to its ranking. -/
structure StableWhenRepeated (text : String) : Prop where
  /-- The words stay in their order, and every count is multiplied, and the total. -/
  entries : ∀ gaps, (∀ gap ∈ gaps, IsGap gap) →
    (Ranking.ofText (repeated text gaps)).entries = (Ranking.ofText text).entries.map fun entry =>
      ⟨entry.word, (gaps.length + 1) * entry.count⟩
  total : ∀ gaps, (∀ gap ∈ gaps, IsGap gap) →
    (Ranking.ofText (repeated text gaps)).total = (gaps.length + 1) * (Ranking.ofText text).total
  /-- All ranks spell what they have spelled, or are refused as they were. -/
  secret : ∀ gaps ranks, (∀ gap ∈ gaps, IsGap gap) →
    (Ranking.ofText (repeated text gaps)).secret ranks = (Ranking.ofText text).secret ranks

theorem spelledInFull (r : Ranking) : SpelledInFull r where
  watched := Workflow.gives_secret r
  zeroRank_iff _ := Ranking.secret_eq_zeroRank_iff
  insufficientVocabulary_iff _ _ _ := Ranking.secret_eq_insufficientVocabulary_iff
  ok_of_names ranks := by
    simp only [Ranking.secret_eq_ok_iff, exists_and_left, exists_eq, and_true]
    rfl
  ok_iff ranks secret := by
    have hword : ∀ rank word, r.word? rank = some word ↔
        ∃ entry, r.atRank? rank = some entry ∧ entry.word = word := fun rank word =>
      Option.map_eq_some_iff
    simp only [← hword, forall₂_word?_iff, Ranking.secret_eq_ok_iff]
    constructor
    · intro h
      exact ⟨_, ⟨h.1, rfl⟩, h.2⟩
    · intro h
      obtain ⟨words, ⟨hnames, rfl⟩, hsecret⟩ := h
      exact ⟨hnames, hsecret⟩
  append_iff _ _ _ := Ranking.secret_append_eq_ok_iff

theorem stableWhenRepeated (text : String) : StableWhenRepeated text where
  entries gaps h := by
    rw [ofText_repeated text h]
    rfl
  total gaps h := by
    rw [ofText_repeated text h]
    rfl
  secret gaps ranks h := by
    rw [ofText_repeated text h, Ranking.secret_scale]

/-- No rank is passed over when a secret is spelled, and repeating the text changes none. -/
theorem secret_laws (tokens : List String) (text : String) :
    SpelledInFull (Ranking.ofTokens tokens) ∧ StableWhenRepeated text :=
  ⟨spelledInFull _, stableWhenRepeated text⟩

/-- Two copies spell what one does, though every word is counted twice. -/
example : ((Ranking.ofText "b a, b c; b a\nb a, b c; b a").secret [2, 1, 3],
    (Ranking.ofText "b a, b c; b a").secret [2, 1, 3]) = (.ok "abc", .ok "abc") := by
  cbv

end ProbeForest.Vocabulary
