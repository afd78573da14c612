import Mathlib
import ProbeForest.Text.Utf8

/-!
# What bytes spell

Bytes are well formed exactly if they are the bytes of some text, and then
they are the bytes of that text only.  The bytes of a sequence for one
character that has more than one byte are 128 or larger, so a line feed among
the bytes is a line feed of the text.  Bytes may be cut there, and both parts
spell what stands there.

## Main results

* `decode?_eq_some_iff` — reading bytes as text is the inverse of spelling it.
* `encode_eq_cut_iff` — what spells the bytes around a line feed.
-/

namespace ProbeForest.Text

variable {bytes line rest : List UInt8} {text : String} {c : Char}

/-! ## Spelling and reading -/

theorem toByteArray_encode (text : String) : (encode text).toByteArray = text.toByteArray := by
  rw [← String.utf8Encode_toList]
  rfl

/-- Bytes are read as a text exactly if they spell it. -/
theorem decode?_eq_some_iff : decode? bytes = some text ↔ encode text = bytes := by
  have hread : ∀ (h : bytes.toByteArray.IsValidUTF8), decode? bytes =
      some (String.fromUTF8 bytes.toByteArray h) := fun h => dif_pos h
  constructor
  · intro h
    by_cases hvalid : bytes.toByteArray.IsValidUTF8
    · rw [hread hvalid] at h
      obtain rfl := Option.some.inj h
      have harray : (encode (String.fromUTF8 bytes.toByteArray hvalid)).toByteArray =
          bytes.toByteArray := toByteArray_encode _
      have hlist := congrArg (fun array => array.data.toList) harray
      simpa using hlist
    · have hnone : decode? bytes = none := dif_neg hvalid
      rw [hnone] at h
      cases h
  · rintro rfl
    have harray := toByteArray_encode text
    have hvalid : (encode text).toByteArray.IsValidUTF8 := harray ▸ text.isValidUTF8
    rw [hread hvalid, Option.some_inj]
    exact String.toByteArray_inj.mp harray

theorem encode_append (text other : String) :
    encode (text ++ other) = encode text ++ encode other := by
  unfold encode
  rw [String.toList_append, List.flatMap_append]

/-! ## Cutting at a line feed -/

/-- All bytes of a longer sequence are at least 128. -/
theorem le_of_mem_utf8EncodeChar (hc : 127 < c.val.toNat) {byte : UInt8}
    (h : byte ∈ String.utf8EncodeChar c) : 128 ≤ byte.toNat := by
  simp only [String.utf8EncodeChar] at h
  rw [if_neg (by omega)] at h
  split_ifs at h with htwo hthree
  · simp only [List.mem_cons, List.not_mem_nil, or_false] at h
    rcases h with rfl | rfl <;> rw [UInt8.toNat_ofNat'] <;> omega
  · simp only [List.mem_cons, List.not_mem_nil, or_false] at h
    rcases h with rfl | rfl | rfl <;> rw [UInt8.toNat_ofNat'] <;> omega
  · simp only [List.mem_cons, List.not_mem_nil, or_false] at h
    rcases h with rfl | rfl | rfl | rfl <;> rw [UInt8.toNat_ofNat'] <;> omega

/-- A line feed among the bytes of a character is the character. -/
theorem eq_of_lineFeed_mem_utf8EncodeChar (h : 10 ∈ String.utf8EncodeChar c) : c = '\n' := by
  by_cases hlong : 127 < c.val.toNat
  · exact absurd (le_of_mem_utf8EncodeChar hlong h) (by decide)
  · simp only [String.utf8EncodeChar] at h
    rw [if_pos (by omega)] at h
    have hnat := congrArg UInt8.toNat (List.mem_singleton.mp h)
    rw [UInt8.toNat_ofNat', Nat.mod_eq_of_lt (by omega)] at hnat
    exact Char.ext (UInt32.toNat_inj.mp hnat.symm)

/-- The characters around a line feed are those that the bytes around it spell. -/
theorem exists_cut {cs : List Char}
    (h : cs.flatMap String.utf8EncodeChar = line ++ 10 :: rest) :
    ∃ before after, cs = before ++ '\n' :: after ∧
      before.flatMap String.utf8EncodeChar = line ∧ after.flatMap String.utf8EncodeChar = rest := by
  induction cs generalizing line with
  | nil => simp at h
  | cons c cs ih =>
      rw [List.flatMap_cons, List.append_eq_append_iff] at h
      rcases h with ⟨line', rfl, hcs⟩ | ⟨bytes, hbytes, hrest⟩
      · obtain ⟨before, after, rfl, rfl, hafter⟩ := ih hcs
        exact ⟨c :: before, after, rfl, List.flatMap_cons, hafter⟩
      · cases bytes with
        | nil =>
            have hcut : cs.flatMap String.utf8EncodeChar = [] ++ 10 :: rest := hrest.symm
            obtain ⟨before, after, rfl, hbefore, hafter⟩ := ih hcut
            refine ⟨c :: before, after, rfl, ?_, hafter⟩
            rw [List.flatMap_cons, hbefore, hbytes, List.append_nil, List.append_nil]
        | cons byte bytes =>
            obtain ⟨rfl, rfl⟩ := List.cons.inj hrest
            obtain rfl : c = '\n' := eq_of_lineFeed_mem_utf8EncodeChar (by simp [hbytes])
            have hfeed : [10] = line ++ 10 :: bytes := hbytes
            obtain ⟨rfl, rfl⟩ : line = [] ∧ bytes = [] := by
              have hlength := congrArg List.length hfeed
              simp only [List.length_append, List.length_cons, List.length_nil] at hlength
              exact ⟨List.eq_nil_of_length_eq_zero (by omega),
                List.eq_nil_of_length_eq_zero (by omega)⟩
            exact ⟨[], cs, rfl, rfl, rfl⟩

theorem encode_eq_cut_iff : encode text = line ++ 10 :: rest ↔
    ∃ before after,
      encode before = line ∧ encode after = rest ∧ text = before ++ "\n" ++ after := by
  constructor
  · intro h
    obtain ⟨before, after, heq, hline, hrest⟩ := exists_cut h
    refine ⟨String.ofList before, String.ofList after, ?_, ?_, ?_⟩
    · rwa [encode, String.toList_ofList]
    · rwa [encode, String.toList_ofList]
    · rw [← String.toList_inj, heq]
      simp
  · rintro ⟨before, after, rfl, rfl, rfl⟩
    have hfeed : encode "\n" = [10] := by decide
    rw [encode_append, encode_append, hfeed, List.append_assoc, List.singleton_append]

end ProbeForest.Text
