import ProbeForest.Proofs.Text.Words
import ProbeForest.Vocabulary.Tokens

/-!
# What tokenizing prose obeys

Cleaning deletes some characters and lowers others, each for itself, and it
takes blanks for blanks.  So it passes over cuts and joints of a text, and the
laws of words carry over to tokens: they are the maximal runs of the cleaned
text, a blank cuts a text in two, and tokens that are joined by blanks are
found again.  Edits that cleaning undoes do not show in the tokens.

## Main results

* `isPunctuation_iff`, `toLower_cases` — punctuation and capitals by number.
* `tokenize_append` — a blank cuts a text in two.
* `Edit.clean_eq`, `tokenize_eq_of_edits` — the step lemma and the run lemma for
  edits that do not show.
* `tokenize_intercalate` — tokens that are joined are found again.
* `tokenize_laws` — all of it.
-/

namespace ProbeForest.Vocabulary

open Text (Spaced isBlank splitWords splitWords_append_cons splitWords_eq_iff
  splitWords_intercalate)

variable {c : Char} {text other : List Char}

/-! ## Characters by number -/

theorem isUpper_iff : c.isUpper = true ↔ 65 ≤ c.toNat ∧ c.toNat ≤ 90 := by
  simp [Char.isUpper, UInt32.le_iff_toNat_le]

/-- The four blocks of ASCII punctuation. -/
theorem isPunctuation_iff : isPunctuation c = true ↔
    (33 ≤ c.toNat ∧ c.toNat ≤ 47) ∨ (58 ≤ c.toNat ∧ c.toNat ≤ 64) ∨
      (91 ≤ c.toNat ∧ c.toNat ≤ 96) ∨ (123 ≤ c.toNat ∧ c.toNat ≤ 126) := by
  simp [isPunctuation, Char.isAlphanum, Char.isAlpha, Char.isUpper, Char.isLower, Char.isDigit,
    Char.le_def, UInt32.le_iff_toNat_le]
  omega

/-- The blanks, six of which are ASCII. -/
theorem isBlank_iff : isBlank c = true ↔
    (9 ≤ c.toNat ∧ c.toNat ≤ 13) ∨ c.toNat = 32 ∨ c.toNat = 133 ∨ c.toNat = 160 ∨
      c.toNat = 5760 ∨ (8192 ≤ c.toNat ∧ c.toNat ≤ 8202) ∨ c.toNat = 8232 ∨ c.toNat = 8233 ∨
      c.toNat = 8239 ∨ c.toNat = 8287 ∨ c.toNat = 12288 := by
  simp [isBlank, or_assoc]

/-- Only capitals are lowered, by 32. -/
theorem toLower_cases (c : Char) :
    (c.isUpper = true ∧ c.toLower.toNat = c.toNat + 32) ∨
      (c.isUpper = false ∧ c.toLower = c) := by
  by_cases hval : c.val ≥ 'A'.val ∧ c.val ≤ 'Z'.val
  · have hupper : c.isUpper = true := by simpa [Char.isUpper] using hval
    have hrange := isUpper_iff.mp hupper
    have hlower : c.toLower.val = c.val + ('a'.val - 'A'.val) := by
      rw [Char.toLower, dif_pos hval]
    refine Or.inl ⟨hupper, ?_⟩
    rw [← Char.toNat_val, hlower, UInt32.toNat_add, Char.toNat_val]
    show (c.toNat + 32) % 2 ^ 32 = c.toNat + 32
    omega
  · refine Or.inr ⟨?_, dif_neg hval⟩
    simpa [Char.isUpper] using hval

theorem isBlank_toLower (c : Char) : isBlank c.toLower = isBlank c := by
  rcases toLower_cases c with ⟨hupper, hlower⟩ | ⟨_, hsame⟩
  · have hrange := isUpper_iff.mp hupper
    rw [Bool.eq_iff_iff, isBlank_iff, isBlank_iff, hlower]
    omega
  · rw [hsame]

theorem isPunctuation_toLower (c : Char) : isPunctuation c.toLower = isPunctuation c := by
  rcases toLower_cases c with ⟨hupper, hlower⟩ | ⟨_, hsame⟩
  · have hrange := isUpper_iff.mp hupper
    rw [Bool.eq_iff_iff, isPunctuation_iff, isPunctuation_iff, hlower]
    omega
  · rw [hsame]

theorem isUpper_toLower (c : Char) : c.toLower.isUpper = false := by
  rcases toLower_cases c with ⟨hupper, hlower⟩ | ⟨hnone, hsame⟩
  · have hrange := isUpper_iff.mp hupper
    rw [← Bool.not_eq_true, isUpper_iff, hlower]
    omega
  · rw [hsame, hnone]

/-- A character that cleaning leaves as it is. -/
def isPlain (c : Char) : Bool := !isPunctuation c && !c.isUpper

theorem isPlain_of_isBlank (h : isBlank c = true) : isPlain c = true := by
  rw [isBlank_iff] at h
  have hpunctuation : isPunctuation c ≠ true := by
    rw [Ne, isPunctuation_iff]
    omega
  have hupper : c.isUpper ≠ true := by
    rw [Ne, isUpper_iff]
    omega
  simp [isPlain, hpunctuation, hupper]

theorem toLower_of_isPlain (h : isPlain c = true) : c.toLower = c := by
  simp only [isPlain, Bool.and_eq_true, Bool.not_eq_true'] at h
  rcases toLower_cases c with ⟨hupper, _⟩ | ⟨_, hsame⟩
  · rw [h.2] at hupper
    cases hupper
  · exact hsame

/-! ## Cleaning -/

@[simp] theorem clean_nil : clean [] = [] := rfl

@[simp] theorem clean_append (text other : List Char) :
    clean (text ++ other) = clean text ++ clean other := by
  simp [clean]

theorem clean_cons_of_isPunctuation (h : isPunctuation c = true) (text : List Char) :
    clean (c :: text) = clean text := by
  simp [clean, h]

theorem clean_cons_of_not_isPunctuation (h : isPunctuation c = false) (text : List Char) :
    clean (c :: text) = c.toLower :: clean text := by
  simp [clean, h]

theorem clean_cons_of_isPlain (h : isPlain c = true) (text : List Char) :
    clean (c :: text) = c :: clean text := by
  have hpunctuation : isPunctuation c = false := by
    simp only [isPlain, Bool.and_eq_true, Bool.not_eq_true'] at h
    exact h.1
  rw [clean_cons_of_not_isPunctuation hpunctuation, toLower_of_isPlain h]

/-- What is clean stays as it is. -/
theorem clean_eq_self (h : ∀ c ∈ text, isPlain c = true) : clean text = text := by
  induction text with
  | nil => rfl
  | cons c text ih =>
      rw [clean_cons_of_isPlain (h c List.mem_cons_self),
        ih fun d hd => h d (List.mem_cons_of_mem c hd)]

theorem isPlain_of_mem_clean (h : c ∈ clean text) : isPlain c = true := by
  obtain ⟨d, hd, rfl⟩ := List.mem_map.mp h
  have hpunctuation := (List.mem_filter.mp hd).2
  rw [isPlain, isPunctuation_toLower, isUpper_toLower, hpunctuation]
  rfl

theorem filter_clean (text : List Char) : (clean text).filter (fun c => !isBlank c) =
    (text.filter fun c => !isBlank c && !isPunctuation c).map Char.toLower := by
  have hlower : (fun c => !isBlank c) ∘ Char.toLower = fun c => !isBlank c := by
    funext c
    rw [Function.comp_apply, isBlank_toLower]
  rw [clean, List.filter_map, hlower, List.filter_filter]

/-! ## Tokens -/

theorem map_toList_tokenize (text : String) :
    (tokenize text).map String.toList = splitWords (clean text.toList) := by
  simp [tokenize, Function.comp_def]

theorem tokenize_eq_iff {text : String} {tokens : List String} :
    tokenize text = tokens ↔ splitWords (clean text.toList) = tokens.map String.toList := by
  rw [← map_toList_tokenize]
  exact (List.map_injective_iff.mpr fun _ _ => String.toList_injective).eq_iff.symm

/-- The tokens are the maximal runs of the cleaned text. -/
theorem spaced_tokenize (text : String) :
    Spaced (clean text.toList) ((tokenize text).map String.toList) :=
  splitWords_eq_iff.mp (map_toList_tokenize text).symm

/-- A token has characters, and they are neither blank nor changed by cleaning. -/
theorem of_mem_tokenize {text token : String} (h : token ∈ tokenize text) :
    token.toList ≠ [] ∧ ∀ c ∈ token.toList, isBlank c = false ∧ isPlain c = true := by
  have hmem : token.toList ∈ (tokenize text).map String.toList := List.mem_map_of_mem h
  obtain ⟨hne, hblank⟩ := (spaced_tokenize text).of_mem hmem
  refine ⟨hne, fun c hc => ⟨hblank c hc, ?_⟩⟩
  have hflat : c ∈ ((tokenize text).map String.toList).flatten :=
    List.mem_flatten.mpr ⟨_, hmem, hc⟩
  rw [(spaced_tokenize text).flatten_eq] at hflat
  exact isPlain_of_mem_clean (List.mem_filter.mp hflat).1

/-- The tokens together are the characters that count, in small letters. -/
theorem toList_join_tokenize (text : String) : (String.join (tokenize text)).toList =
    (text.toList.filter fun c => !isBlank c && !isPunctuation c).map Char.toLower := by
  rw [String.toList_join, List.flatMap_def]
  exact (spaced_tokenize text).flatten_eq.trans (filter_clean text.toList)

/-- A blank cuts a text in two. -/
theorem tokenize_append (h : isBlank c = true) (text other : String) :
    tokenize (text ++ String.singleton c ++ other) = tokenize text ++ tokenize other := by
  have hclean : clean (text ++ String.singleton c ++ other).toList =
      clean text.toList ++ c :: clean other.toList := by
    rw [String.toList_append, String.toList_append, String.toList_singleton, clean_append,
      clean_append, clean_cons_of_isPlain (isPlain_of_isBlank h), clean_nil, List.append_assoc,
      List.singleton_append]
  rw [tokenize, hclean, splitWords_append_cons h, List.map_append]
  rfl

/-! ## Edits that do not show -/

/-- One edit: punctuation is inserted somewhere, or a capital is made a small letter. -/
inductive Edit : List Char → List Char → Prop
  | insert {c : Char} (before behind : List Char) (h : isPunctuation c = true) :
      Edit (before ++ behind) (before ++ c :: behind)
  | lower {c : Char} (before behind : List Char) (h : c.isUpper = true) :
      Edit (before ++ c :: behind) (before ++ c.toLower :: behind)

theorem isPunctuation_of_isUpper (h : c.isUpper = true) : isPunctuation c = false := by
  have hrange := isUpper_iff.mp h
  rw [← Bool.not_eq_true, isPunctuation_iff]
  omega

/-- An edit does not show in the cleaned text. -/
theorem Edit.clean_eq (h : Edit text other) : clean other = clean text := by
  cases h with
  | insert before behind h =>
      rw [clean_append, clean_append, clean_cons_of_isPunctuation h]
  | @lower c before behind h =>
      have hpunctuation := isPunctuation_of_isUpper h
      have hlower : isPunctuation c.toLower = false := by
        rw [isPunctuation_toLower, hpunctuation]
      have htwice : c.toLower.toLower = c.toLower := by
        apply toLower_of_isPlain
        rw [isPlain, hlower, isUpper_toLower]
        rfl
      rw [clean_append, clean_append, clean_cons_of_not_isPunctuation hpunctuation,
        clean_cons_of_not_isPunctuation hlower, htwice]

/-- Two texts that edits, made or undone one after another, take to each other. -/
def Restyled : List Char → List Char → Prop := Relation.EqvGen Edit

/-- Edits do not show in the cleaned text, however many are made or undone. -/
theorem Restyled.clean_eq (h : Restyled text other) : clean other = clean text := by
  induction h with
  | rel _ _ hedit => exact hedit.clean_eq
  | refl _ => rfl
  | symm _ _ _ ih => exact ih.symm
  | trans _ _ _ _ _ ih ih' => exact ih'.trans ih

theorem tokenize_eq_of_restyled {text other : String} (h : Restyled text.toList other.toList) :
    tokenize other = tokenize text := by
  rw [tokenize, h.clean_eq, tokenize]

/-! ## Tokens that are joined -/

/-- Cleaning passes over joints. -/
theorem clean_intercalate (h : isPlain c = true) (parts : List (List Char)) :
    clean (List.intercalate [c] parts) = List.intercalate [c] (parts.map clean) := by
  induction parts with
  | nil => rfl
  | cons part parts ih =>
      cases parts with
      | nil => rw [List.intercalate_singleton, List.map_singleton, List.intercalate_singleton]
      | cons next parts =>
          rw [List.map_cons] at ih
          rw [List.intercalate_cons_cons, clean_append, clean_append, clean_cons_of_isPlain h, ih,
            clean_nil, List.map_cons, List.map_cons, List.intercalate_cons_cons]

/-- Tokens that are joined by single spaces are found again. -/
theorem tokenize_intercalate (text : String) :
    tokenize (" ".intercalate (tokenize text)) = tokenize text := by
  have hspace : isBlank ' ' = true := by decide
  have hself : ((tokenize text).map String.toList).map clean =
      (tokenize text).map String.toList := by
    rw [List.map_map]
    apply List.map_congr_left
    intro token htoken
    exact clean_eq_self fun c hc => ((of_mem_tokenize htoken).2 c hc).2
  rw [tokenize_eq_iff, String.toList_intercalate]
  show splitWords (clean (List.intercalate [' '] _)) = _
  rw [clean_intercalate (isPlain_of_isBlank hspace), hself]
  apply splitWords_intercalate hspace
  intro word hword
  exact (spaced_tokenize text).of_mem hword

/-! ## The laws -/

/-- What tokenizing a text obeys. -/
structure TokenLaws (text : String) : Prop where
  /-- The tokens are the maximal runs, between blanks, of the text without its punctuation and in
  small letters. -/
  runs : Spaced ((text.toList.filter fun c => !isPunctuation c).map Char.toLower)
    ((tokenize text).map String.toList)
  /-- No token is empty, and no character of a token is blank, punctuation or a capital. -/
  token : ∀ token ∈ tokenize text, token ≠ "" ∧
    ∀ c ∈ token.toList, isBlank c = false ∧ isPunctuation c = false ∧ c.isUpper = false
  /-- The tokens together are the text without blanks and punctuation, in small letters. -/
  joined : (String.join (tokenize text)).toList =
    (text.toList.filter fun c => !isBlank c && !isPunctuation c).map Char.toLower
  /-- A blank cuts the text in two. -/
  cut : ∀ c other, isBlank c = true →
    tokenize (text ++ String.singleton c ++ other) = tokenize text ++ tokenize other
  /-- Punctuation may be inserted and deleted, and letters be made small or capital. -/
  restyled : ∀ other : String, Restyled text.toList other.toList → tokenize other = tokenize text
  /-- The tokens joined by single spaces have the same tokens. -/
  respaced : tokenize (" ".intercalate (tokenize text)) = tokenize text

/-- Every text obeys the laws of tokens. -/
theorem tokenize_laws (text : String) : TokenLaws text where
  runs := spaced_tokenize text
  token token h := by
    obtain ⟨hne, hchars⟩ := of_mem_tokenize h
    refine ⟨fun heq => hne (by rw [heq]; rfl), fun c hc => ?_⟩
    obtain ⟨hblank, hplain⟩ := hchars c hc
    simp only [isPlain, Bool.and_eq_true, Bool.not_eq_true'] at hplain
    exact ⟨hblank, hplain⟩
  joined := toList_join_tokenize text
  cut c other h := tokenize_append h text other
  restyled _ h := tokenize_eq_of_restyled h
  respaced := tokenize_intercalate text

/-- Punctuation does not separate, and an apostrophe that is not ASCII stays. -/
example : tokenize "End.Start -- Don't, DON\u2019T!" = ["endstart", "dont", "don\u2019t"] := by
  decide +kernel

end ProbeForest.Vocabulary
