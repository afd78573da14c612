import ProbeForest.Proofs.Random.Draws
import ProbeForest.Proofs.Table.Invariant
import ProbeForest.Proofs.Text.Utf8
import ProbeForest.Synthetic.Words

/-!
# What synthetic words look like

Every word has a length within the settings and letters of the alphabet only,
since every draw stays in its range.  The words are drawn one after another, so
that fewer words are the first of many.

The absent variant of a word ends in a character that no letter is, and is
therefore none of the words.  Its bytes begin with those of the word.  If these
are four or more, then they alone decide on the home slot, and a search for the
variant starts where one for the word does; it is in vain.

## Main results

* `WordConfig.Valid.yields_words` — what the draws of the words give.
* `signature_push` — a character behind the first four bytes does not count.
* `generate_described` — the words that settings describe, and their variants.
-/

namespace ProbeForest.Synthetic

open ProbeForest.Random (Generator Width Yields run_many_take yields_pick yields_wordBetween)
open Table (home signature weigh weights)

variable {c : WordConfig} {w : Words} {word : String} {marker : Char} {index : Nat}

/-! ## Settings -/

/-- The settings describe words. -/
structure WordConfig.Valid (c : WordConfig) : Prop where
  /-- There are words to make. -/
  wordCount_pos : 0 < c.wordCount
  /-- There are letters to draw from. -/
  alphabet_ne_nil : c.alphabet ≠ []
  /-- No word is empty. -/
  minLength_pos : 0 < c.minLength
  /-- There is a length to draw. -/
  minLength_le : c.minLength ≤ c.maxLength

theorem WordConfig.Valid.check_eq (h : c.Valid) : c.check = .ok () := by
  have hcount := Nat.ne_of_gt h.wordCount_pos
  have hlength := Nat.ne_of_gt h.minLength_pos
  have hrange := Nat.not_lt_of_le h.minLength_le
  rw [WordConfig.check, if_neg hcount, if_neg h.alphabet_ne_nil, if_neg hlength, if_neg hrange]

theorem WordConfig.Valid.generate_eq (h : c.Valid) :
    Words.generate c =
      .ok ((c.words.run (Generator.ofSeed c.seed)).map fun (words, _) => ⟨words, c.alphabet⟩) := by
  rw [Words.generate, h.check_eq]
  rfl

theorem WordConfig.Valid.withCount (h : c.Valid) {k : Nat} (hpos : 0 < k) :
    { c with wordCount := k }.Valid :=
  { h with wordCount_pos := hpos }

/-! ## Draws -/

theorem yields_letter {alphabet : Array Char} (hpos : 0 < alphabet.size) :
    Yields (WordConfig.letter alphabet) fun letter => letter ∈ alphabet.toList := by
  apply (yields_pick hpos).bind
  intro index hindex
  apply Yields.pure
  rw [← Array.getElem_eq_getD (h := hindex)]
  exact Array.getElem_mem_toList hindex

/-- A word whose length and letters are within the settings. -/
structure WordConfig.Allows (c : WordConfig) (word : String) : Prop where
  /-- The word is not too short. -/
  minLength_le : c.minLength ≤ word.length
  /-- The word is not too long. -/
  le_maxLength : word.length ≤ c.maxLength
  /-- Its letters are in the alphabet. -/
  letters : ∀ letter ∈ word.toList, letter ∈ c.alphabet

theorem WordConfig.Valid.yields_word (h : c.Valid) (hfits : c.maxLength < Width.full.modulus) :
    Yields (c.word c.alphabet.toArray) c.Allows := by
  have hpos : 0 < c.alphabet.toArray.size := List.length_pos_of_ne_nil h.alphabet_ne_nil
  apply (yields_wordBetween h.minLength_le hfits).bind
  intro length hlength
  apply ((yields_letter hpos).many length).bind
  intro letters hletters
  apply Yields.pure
  obtain ⟨rfl, hmem⟩ := hletters
  exact
    { minLength_le := by rw [String.length_ofList]; exact hlength.1
      le_maxLength := by rw [String.length_ofList]; exact hlength.2
      letters := by rwa [String.toList_ofList] }

theorem WordConfig.Valid.yields_words (h : c.Valid) (hfits : c.maxLength < Width.full.modulus) :
    Yields c.words fun words => words.length = c.wordCount ∧ ∀ word ∈ words, c.Allows word :=
  (h.yields_word hfits).many c.wordCount

/-- Settings that ask for fewer words describe the first of the words. -/
theorem WordConfig.Valid.generate_take (h : c.Valid) {words : List String} {g : Generator} {k : Nat}
    (hrun : c.words.run (Generator.ofSeed c.seed) = some (words, g)) (hpos : 0 < k)
    (hle : k ≤ c.wordCount) :
    Words.generate { c with wordCount := k } = .ok (some ⟨words.take k, c.alphabet⟩) := by
  obtain ⟨g', htake⟩ : ∃ g', { c with wordCount := k }.words.run (Generator.ofSeed c.seed) =
      some (words.take k, g') := run_many_take hrun hle
  rw [(h.withCount hpos).generate_eq, htake]
  rfl

/-! ## Markers -/

theorem markers_eq : Words.markers = (List.range' 65 26 ++ List.range' 48 10).map Char.ofNat := by
  rfl

/-- The characters that can mark a variant are the capital letters and the digits. -/
theorem mem_markers_iff :
    marker ∈ Words.markers ↔ ('A' ≤ marker ∧ marker ≤ 'Z') ∨ ('0' ≤ marker ∧ marker ≤ '9') := by
  have hcodes : (('A' ≤ marker ∧ marker ≤ 'Z') ∨ ('0' ≤ marker ∧ marker ≤ '9')) ↔
      (65 ≤ marker.toNat ∧ marker.toNat ≤ 90) ∨ (48 ≤ marker.toNat ∧ marker.toNat ≤ 57) := by
    simp only [Char.le_def, UInt32.le_iff_toNat_le]
    rfl
  rw [hcodes, markers_eq, List.mem_map]
  simp only [List.mem_append, List.mem_range'_1]
  constructor
  · rintro ⟨code, hcode, rfl⟩
    have hvalid : code.isValidChar := Or.inl (by omega)
    rw [Char.toNat_ofNat, if_pos hvalid]
    omega
  · intro h
    exact ⟨marker.toNat, by omega, Char.ofNat_toNat marker⟩

/-- The first marker that the alphabet lacks. -/
def Words.freeMarker? (w : Words) : Option Char :=
  Words.markers.find? fun c => !w.alphabet.contains c

theorem absentVariant?_eq_some_iff {variant : String} :
    w.absentVariant? index = some variant ↔ ∃ word marker,
      w.words[index]? = some word ∧ w.freeMarker? = some marker ∧ variant = word.push marker := by
  constructor
  · intro h
    obtain ⟨word, hword, h⟩ := Option.bind_eq_some_iff.mp h
    obtain ⟨marker, hmarker, h⟩ := Option.bind_eq_some_iff.mp h
    exact ⟨word, marker, hword, hmarker, (Option.some.inj h).symm⟩
  · rintro ⟨word, marker, hword, hmarker, rfl⟩
    refine Option.bind_eq_some_iff.mpr ⟨word, hword, ?_⟩
    exact Option.bind_eq_some_iff.mpr ⟨marker, hmarker, rfl⟩

theorem not_mem_of_freeMarker? (h : w.freeMarker? = some marker) : marker ∉ w.alphabet := by
  have hfree := List.find?_some h
  simpa using hfree

/-- There is a variant of every word, unless all markers are letters. -/
theorem isSome_absentVariant?_iff : (w.absentVariant? index).isSome = true ↔
    index < w.words.length ∧ ∃ marker ∈ Words.markers, marker ∉ w.alphabet := by
  have hmarker : (∃ marker, w.freeMarker? = some marker) ↔
      ∃ marker ∈ Words.markers, marker ∉ w.alphabet := by
    rw [← Option.isSome_iff_exists, Words.freeMarker?, List.find?_isSome]
    simp
  rw [← hmarker, Option.isSome_iff_exists]
  simp only [absentVariant?_eq_some_iff]
  constructor
  · rintro ⟨_, word, marker, hword, hfree, _⟩
    exact ⟨(List.getElem?_eq_some_iff.mp hword).1, marker, hfree⟩
  · rintro ⟨hlt, marker, hfree⟩
    exact ⟨_, w.words[index], marker, List.getElem?_eq_getElem hlt, hfree, rfl⟩

/-! ## Bytes that count -/

theorem length_encode (text : String) : (Text.encode text).length = text.utf8ByteSize := by
  have harray := Text.toByteArray_encode text
  rw [← List.size_toByteArray, harray, String.size_toByteArray]

/-- Only the first four bytes are weighed. -/
theorem weigh_take (bytes : List UInt8) : weigh (bytes.take 4) = weigh bytes := by
  have hlength : (bytes.zipWith (fun byte weight => weight * byte.toNat) weights).length ≤ 4 := by
    rw [List.length_zipWith]
    exact Nat.min_le_right _ _
  unfold weigh
  rw [← List.take_of_length_le hlength, List.take_zipWith]
  rfl

/-- A character behind the first four bytes of a key does not count. -/
theorem signature_push (h : 4 ≤ word.utf8ByteSize) (marker : Char) :
    signature (word.push marker) = signature word := by
  have hencode : Text.encode (word.push marker) =
      Text.encode word ++ String.utf8EncodeChar marker := by
    rw [Text.encode, String.toList_push, List.flatMap_append, List.flatMap_singleton, Text.encode]
  have hfour : 4 ≤ (Text.encode word).length := by rwa [length_encode]
  rw [signature, hencode, ← weigh_take, List.take_append_of_le_length hfour, weigh_take, signature]

/-! ## Words and variants -/

/-- Words made from settings, and their absent variants. -/
structure Words.Described (w : Words) (c : WordConfig) : Prop where
  /-- There are as many words as the settings ask for. -/
  length_eq : w.words.length = c.wordCount
  /-- Each has a length within the settings, and letters of the alphabet. -/
  allows : ∀ word ∈ w.words, c.Allows word
  /-- Settings that ask for fewer words describe the first of these. -/
  fewer : ∀ k, 0 < k → k ≤ c.wordCount →
    Words.generate { c with wordCount := k } = .ok (some { w with words := w.words.take k })
  /-- A word has a variant exactly if a capital letter or a digit is outside the alphabet. -/
  variant_iff : ∀ index, (w.absentVariant? index).isSome = true ↔ index < c.wordCount ∧
    ∃ marker, (('A' ≤ marker ∧ marker ≤ 'Z') ∨ ('0' ≤ marker ∧ marker ≤ '9')) ∧
      marker ∉ c.alphabet
  /-- A variant is none of the words. -/
  variant_absent : ∀ index variant, w.absentVariant? index = some variant → variant ∉ w.words
  /-- It has the signature and the home slots of its word, if that has at least four bytes. -/
  variant_signature : ∀ index variant word, w.absentVariant? index = some variant →
    w.words[index]? = some word → 4 ≤ word.utf8ByteSize →
    signature variant = signature word ∧ ∀ capacity, home variant capacity = home word capacity
  /-- It is not found in a table that holds nothing but words. -/
  variant_missed : ∀ index variant, w.absentVariant? index = some variant →
    ∀ t : Table, (∀ key ∈ t.keys, key ∈ w.words) → t.find? variant = none

section Variants

variable {variant : String} (hvariant : w.absentVariant? index = some variant)

include hvariant

/-- A word ends in a letter, and a variant does not. -/
theorem not_mem_of_absentVariant?
    (hletters : ∀ word ∈ w.words, ∀ letter ∈ word.toList, letter ∈ w.alphabet) :
    variant ∉ w.words := by
  obtain ⟨word, marker, _, hfree, rfl⟩ := absentVariant?_eq_some_iff.mp hvariant
  intro hmem
  have hlast : marker ∈ (word.push marker).toList := by simp
  exact not_mem_of_freeMarker? hfree (hletters _ hmem marker hlast)

theorem signature_absentVariant? (hword : w.words[index]? = some word)
    (hbytes : 4 ≤ word.utf8ByteSize) : signature variant = signature word := by
  obtain ⟨word', marker, hword', _, rfl⟩ := absentVariant?_eq_some_iff.mp hvariant
  rw [hword'] at hword
  obtain rfl := Option.some.inj hword
  exact signature_push hbytes marker

end Variants

/-- Settings that describe words give them, with variants as described, unless the generator
stalls in one of the draws. -/
theorem generate_described (c : WordConfig) (hvalid : c.Valid)
    (hfits : c.maxLength < Width.full.modulus) :
    (∃ w, Words.generate c = .ok (some w) ∧ w.Described c) ∨
      (Words.generate c = .ok none ∧ (Generator.ofSeed c.seed).Stalls) := by
  have hyields := hvalid.yields_words hfits
  rw [hvalid.generate_eq]
  rcases hyields (Generator.ofSeed c.seed) with ⟨words, n, hrun, hlength, hallows⟩ | ⟨hrun, hstalls⟩
  · have hletters : ∀ word ∈ words, ∀ letter ∈ word.toList, letter ∈ c.alphabet :=
      fun word hword => (hallows word hword).letters
    rw [hrun]
    refine Or.inl ⟨⟨words, c.alphabet⟩, rfl, ?_⟩
    refine
      { length_eq := hlength
        allows := hallows
        fewer := fun k hpos hle => hvalid.generate_take hrun hpos hle
        variant_iff := ?_
        variant_absent := fun index variant hvariant =>
          not_mem_of_absentVariant? hvariant hletters
        variant_signature := ?_
        variant_missed := ?_ }
    · intro index
      rw [isSome_absentVariant?_iff, hlength]
      simp only [mem_markers_iff]
    · intro index variant word hvariant hword hbytes
      have hsignature := signature_absentVariant? hvariant hword hbytes
      refine ⟨hsignature, fun capacity => ?_⟩
      rw [home, hsignature, home]
    · intro index variant hvariant t hkeys
      have habsent := not_mem_of_absentVariant? hvariant hletters
      exact Table.find?_eq_none_of_not_mem fun hmem => habsent (hkeys variant hmem)
  · rw [hrun]
    exact Or.inr ⟨rfl, hstalls⟩

/-- Three words over an alphabet with a letter of two bytes. -/
def accented : WordConfig := ⟨3, 4, 5, ['a', 'b', 'é'], 7⟩

theorem generate_accented : Words.generate accented =
    .ok (some ⟨["aaébb", "bébé", "aébé"], ['a', 'b', 'é']⟩) := by
  decide +kernel

/-- The draws end, and the words are as described. -/
theorem generate_described_accented :
    accented.Valid ∧ accented.maxLength < Width.full.modulus ∧
      ∃ w, Words.generate accented = .ok (some w) ∧ w.Described accented := by
  have hvalid : accented.Valid :=
    ⟨by decide, by decide, by decide, by decide⟩
  have hfits : accented.maxLength < Width.full.modulus := by decide
  refine ⟨hvalid, hfits, ?_⟩
  rcases generate_described accented hvalid hfits with hwords | ⟨hnone, _⟩
  · exact hwords
  · rw [generate_accented] at hnone
    cases hnone

end ProbeForest.Synthetic
