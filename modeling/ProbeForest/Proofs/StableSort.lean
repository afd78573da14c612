import Mathlib

/-!
# What a stable sort keeps

A stable sort leaves elements that compare as equal in the order in which they
stood.  Read as a property of neighbours at any distance: if all elements
stood in a relation to the later ones, then after sorting they still do,
wherever the sort itself does not tell them apart.  Rankings and building
orders both take their rule for ties from this one fact.

## Main results

* `pairwise_mergeSort_stable` — elements that compare as equal keep their former relation.
* `pairwise_mergeSort_key` — sorted by a key, equal keys in the former order.
-/

namespace ProbeForest.StableSort

variable {α : Type*} {before : α → α → Bool} {former : α → α → Prop} {l : List α}

/-- After a stable sort, elements that compare as equal still stand in their former relation. -/
theorem pairwise_mergeSort_stable
    (htrans : ∀ a b c, before a b → before b c → before a c)
    (htotal : ∀ a b, before a b || before b a) (h : l.Pairwise former) :
    (l.mergeSort before).Pairwise fun a b => before a b ∧ (before b a → former a b) := by
  induction l with
  | nil => simp
  | cons first rest ih =>
      obtain ⟨hfirst, hrest⟩ := List.pairwise_cons.mp h
      obtain ⟨left, right, hsort, hsort', hleft⟩ := List.mergeSort_cons htrans htotal first rest
      have hkept := ih hrest
      have hsorted := List.pairwise_mergeSort htrans htotal (first :: rest)
      rw [hsort'] at hkept
      rw [hsort] at hsorted ⊢
      obtain ⟨hkeptLeft, hkeptRight, hkeptAcross⟩ := List.pairwise_append.mp hkept
      obtain ⟨_, hsortedRight, hsortedAcross⟩ := List.pairwise_append.mp hsorted
      have hmem : ∀ b ∈ right, b ∈ rest := by
        intro b hb
        have hb' : b ∈ rest.mergeSort before := hsort' ▸ List.mem_append_right left hb
        exact List.mem_mergeSort.mp hb'
      refine List.pairwise_append.mpr ⟨hkeptLeft, List.pairwise_cons.mpr ⟨?_, hkeptRight⟩, ?_⟩
      · intro b hb
        exact ⟨(List.pairwise_cons.mp hsortedRight).1 b hb, fun _ => hfirst b (hmem b hb)⟩
      · intro a ha b hb
        rcases List.mem_cons.mp hb with rfl | hb
        · -- Whatever moved in front of the first element is strictly before it.
          refine ⟨hsortedAcross a ha b List.mem_cons_self, fun hback => ?_⟩
          have hstrict := hleft a ha
          simp [hback] at hstrict
        · exact hkeptAcross a ha b hb

/-- Sorted by a key, elements stand by their keys first, and by the former relation where the keys
are equal. -/
theorem pairwise_mergeSort_key {κ : Type*} [LinearOrder κ] (key : α → κ)
    (hbefore : ∀ a b, before a b ↔ key a ≤ key b) (h : l.Pairwise former) :
    (l.mergeSort before).Pairwise fun a b => key a < key b ∨ (key a = key b ∧ former a b) := by
  have htrans : ∀ a b c, before a b → before b c → before a c := by
    intro a b c hab hbc
    rw [hbefore] at hab hbc ⊢
    exact le_trans hab hbc
  have htotal : ∀ a b, before a b || before b a := by
    intro a b
    rw [Bool.or_eq_true, hbefore, hbefore]
    exact le_total (key a) (key b)
  refine (pairwise_mergeSort_stable htrans htotal h).imp ?_
  rintro a b ⟨hab, htie⟩
  rw [hbefore] at hab htie
  rcases lt_or_eq_of_le hab with hlt | heq
  · exact Or.inl hlt
  · exact Or.inr ⟨heq, htie heq.ge⟩

end ProbeForest.StableSort
