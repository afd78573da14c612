import ProbeForest.Proofs.DisjointSet.Forest

/-!
# A union merges two classes

Attaching the root of one tree below the root of another moves all elements of
the first tree to the second root and leaves the others where they were.  The
rule that picks the winner by rank decides only which of the two roots stays,
so that a union is told by the partition alone: it merges the classes of its
two elements.

## Main results

* `union_fst` — the answer says whether the elements were in different sets.
* `union_of_rel`, `union_of_not_rel` — a union of connected elements only
  compresses their paths, and any other takes one from the count of sets.
-/

namespace ProbeForest.DisjointSet

open ProbeForest.Partition

variable {s : DisjointSet} {x r winner child left right : Nat} {ranksEqual : Bool}

/-! ## Attaching a root -/

/-- The rank of a node. -/
def rankOf (s : DisjointSet) (node : Nat) : Nat := s.rank.getD node 0

@[simp] theorem size_attach (s : DisjointSet) (winner child : Nat) (ranksEqual : Bool) :
    (s.attach winner child ranksEqual).size = s.size := by
  simp [attach, DisjointSet.size]

theorem rank_size_attach (s : DisjointSet) (winner child : Nat) (ranksEqual : Bool) :
    (s.attach winner child ranksEqual).rank.size = s.rank.size := by
  cases ranksEqual <;> simp [attach]

theorem parentOf_attach (s : DisjointSet) (winner x : Nat) (ranksEqual : Bool)
    (hchild : child < s.size) :
    (s.attach winner child ranksEqual).parentOf x = if x = child then winner else s.parentOf x :=
  parentOf_repoint s winner x hchild

section Attach

variable (hs : Forest s) (hw : s.parentOf winner = winner) (hc : s.parentOf child = child)
  (hlt : child < s.size) (hne : winner ≠ child)

include hs hw hc hlt hne

omit hs in
/-- A climb that ended at the child goes on to the winner, and all others stay as they were. -/
theorem Climbs.attach {steps : Nat} (h : Climbs s steps x r) :
    ∃ steps, Climbs (s.attach winner child ranksEqual) steps x
      (if r = child then winner else r) := by
  have hparent := fun x => parentOf_attach s winner x ranksEqual hlt
  have hwinner : Climbs (s.attach winner child ranksEqual) 0 winner winner :=
    Climbs.stay (by rw [hparent, if_neg hne, hw])
  induction h with
  | @stay r hr =>
      by_cases hrc : r = child
      · subst hrc
        have hup : (s.attach winner r ranksEqual).parentOf r = winner := by
          rw [hparent, if_pos rfl]
        rw [if_pos rfl]
        exact ⟨1, Climbs.up (by rw [hup]; exact hne) (by rw [hup]; exact hwinner)⟩
      · rw [if_neg hrc]
        exact ⟨0, Climbs.stay (by rw [hparent, if_neg hrc, hr])⟩
  | @up _ x r hup _ ih =>
      obtain ⟨steps, hrest⟩ := ih
      have hxc : x ≠ child := fun h => hup (h ▸ hc)
      have hparent' : (s.attach winner child ranksEqual).parentOf x = s.parentOf x := by
        rw [hparent, if_neg hxc]
      exact ⟨steps + 1, Climbs.up (by rw [hparent']; exact hup) (by rw [hparent']; exact hrest)⟩

theorem forest_attach (hwlt : winner < s.size) : Forest (s.attach winner child ranksEqual) where
  parentOf_lt x hx := by
    rw [size_attach] at hx ⊢
    rw [parentOf_attach s winner x ranksEqual hlt]
    split
    · exact hwlt
    · exact hs.parentOf_lt x hx
  climbs x := by
    obtain ⟨_, h⟩ := hs.climbs_root x
    have hclimb : ∃ steps, Climbs (s.attach winner child ranksEqual) steps x _ :=
      h.attach hw hc hlt hne
    obtain ⟨steps, hclimb⟩ := hclimb
    exact ⟨steps, _, hclimb⟩

theorem root_attach (hwlt : winner < s.size) (x : Nat) :
    (s.attach winner child ranksEqual).root x =
      if s.root x = child then winner else s.root x := by
  obtain ⟨_, h⟩ := hs.climbs_root x
  exact (forest_attach hs hw hc hlt hne hwlt).root_eq_iff.mpr (h.attach hw hc hlt hne)

/-- Attaching merges the classes of the two roots. -/
theorem partition_attach (hwlt : winner < s.size) :
    (s.attach winner child ranksEqual).partition = merge s.partition winner child := by
  have hrw : s.root winner = winner := hs.root_eq_self_iff.mpr hw
  have hrc : s.root child = child := hs.root_eq_self_iff.mpr hc
  ext x y
  rw [merge_rel]
  simp only [partition_rel, root_attach hs hw hc hlt hne hwlt, hrw, hrc]
  by_cases hx : s.root x = child <;> by_cases hy : s.root y = child <;> grind

end Attach

theorem sound_attach (hs : Sound s) (hw : s.parentOf winner = winner)
    (hc : s.parentOf child = child) (hwlt : winner < s.size) (hlt : child < s.size)
    (hne : winner ≠ child) : Sound (s.attach winner child ranksEqual) where
  toForest := forest_attach hs.toForest hw hc hlt hne hwlt
  rank_size := by rw [rank_size_attach, size_attach, hs.rank_size]
  components_eq := by
    have hdiff : ¬ s.partition winner child := by
      rw [partition_rel, hs.root_eq_self_iff.mpr hw, hs.root_eq_self_iff.mpr hc]
      exact hne
    have hcount := classCount_merge (Finset.mem_range.mpr hwlt) (Finset.mem_range.mpr hlt) hdiff
    rw [partition_attach hs.toForest hw hc hlt hne hwlt, size_attach]
    rw [← hs.components_eq] at hcount
    show s.components - 1 = _
    omega

/-! ## Linking two roots -/

theorem link_self (s : DisjointSet) (x : Nat) : s.link x x = (false, s) := by
  simp [link]

/-- Linking two roots attaches one of them to the other, never the one of the higher rank, and
says whether the ranks were equal. -/
theorem link_of_ne (h : left ≠ right) :
    ∃ winner child ranksEqual, s.link left right = (true, s.attach winner child ranksEqual) ∧
      ((winner = left ∧ child = right) ∨ (winner = right ∧ child = left)) ∧
      s.rankOf child ≤ s.rankOf winner ∧
      (ranksEqual = true ↔ s.rankOf child = s.rankOf winner) := by
  unfold link
  rw [if_neg h]
  dsimp only
  split
  · rename_i hlt
    change s.rankOf left < s.rankOf right at hlt
    refine ⟨right, left, false, rfl, Or.inr ⟨rfl, rfl⟩, hlt.le, ?_⟩
    simpa using hlt.ne
  · rename_i hle
    change ¬ s.rankOf left < s.rankOf right at hle
    refine ⟨left, right, _, rfl, Or.inl ⟨rfl, rfl⟩, Nat.le_of_not_lt hle, ?_⟩
    rw [beq_iff_eq]
    exact eq_comm

theorem link_of_rankOf_eq (h : left ≠ right) (hrank : s.rankOf left = s.rankOf right) :
    s.link left right = (true, s.attach left right true) := by
  change s.rank.getD left 0 = s.rank.getD right 0 at hrank
  simp [link, h, hrank]

/-- What linking two different roots makes of a sound structure. -/
structure Linked (s t : DisjointSet) (left right : Nat) : Prop where
  sound : Sound t
  size : t.size = s.size
  partition : t.partition = merge s.partition left right
  components : t.components + 1 = s.components

theorem link_linked (hs : Sound s) (hl : s.parentOf left = left) (hr : s.parentOf right = right)
    (hllt : left < s.size) (hrlt : right < s.size) (hne : left ≠ right) :
    (s.link left right).1 = true ∧ Linked s (s.link left right).2 left right := by
  have hdiff : ¬ s.partition left right := by
    rw [partition_rel, hs.root_eq_self_iff.mpr hl, hs.root_eq_self_iff.mpr hr]
    exact hne
  have hcount := classCount_merge (Finset.mem_range.mpr hllt) (Finset.mem_range.mpr hrlt) hdiff
  have hpos : s.components - 1 + 1 = s.components := by
    rw [hs.components_eq]
    omega
  obtain ⟨winner, child, ranksEqual, heq, ⟨rfl, rfl⟩ | ⟨rfl, rfl⟩, _⟩ := link_of_ne (s := s) hne
  · rw [heq]
    exact ⟨rfl,
      { sound := sound_attach hs hl hr hllt hrlt hne
        size := size_attach s _ _ _
        partition := partition_attach hs.toForest hl hr hrlt hne hllt
        components := hpos }⟩
  · rw [heq]
    exact ⟨rfl,
      { sound := sound_attach hs hr hl hrlt hllt hne.symm
        size := size_attach s _ _ _
        partition := by
          rw [merge_symm]
          exact partition_attach hs.toForest hr hl hllt hne.symm hrlt
        components := hpos }⟩

/-! ## Unions -/

/-- The structure that a union links in: both paths have been compressed. -/
def searched (s : DisjointSet) (left right : Nat) : DisjointSet :=
  ((s.find left).2.find right).2

theorem searched_sameSets (hs : Sound s) (left right : Nat) :
    SameSets s (s.searched left right) :=
  (find_sameSets hs.toForest left).trans (find_sameSets (find_sound hs left).toForest right)

theorem searched_sound (hs : Sound s) (left right : Nat) : Sound (s.searched left right) :=
  find_sound (find_sound hs left) right

theorem union_eq_link (hs : Sound s) (left right : Nat) :
    s.union left right = (s.searched left right).link (s.root left) (s.root right) := by
  have hroot : (s.find left).2.root right = s.root right :=
    (find_sameSets hs.toForest left).root right
  rw [← hroot]
  rfl

theorem union_of_rel (hs : Sound s) (h : s.partition left right) :
    s.union left right = (false, s.searched left right) := by
  rw [union_eq_link hs, partition_rel.mp h, link_self]

section Searched

variable (hs : Sound s)

include hs

/-- Roots are still roots after both searches. -/
theorem parentOf_searched_root (left right x : Nat) :
    (s.searched left right).parentOf (s.root x) = s.root x := by
  rw [← (searched_sameSets hs left right).root x]
  exact (searched_sound hs left right).parentOf_root x

theorem root_lt_searched (left right : Nat) (hx : x < s.size) :
    s.root x < (s.searched left right).size := by
  rw [(searched_sameSets hs left right).size]
  exact hs.root_lt hx

end Searched

theorem union_of_not_rel (hs : Sound s) (hl : left < s.size) (hr : right < s.size)
    (h : ¬ s.partition left right) :
    (s.union left right).1 = true ∧ Linked s (s.union left right).2 left right := by
  have hsame := searched_sameSets hs left right
  obtain ⟨htrue, hlinked⟩ :=
    link_linked (searched_sound hs left right) (parentOf_searched_root hs left right left)
      (parentOf_searched_root hs left right right) (root_lt_searched hs left right hl)
      (root_lt_searched hs left right hr) h
  rw [union_eq_link hs]
  refine ⟨htrue, hlinked.sound, ?_, ?_, ?_⟩
  · rw [hlinked.size, hsame.size]
  · -- The classes of the roots are the classes of the elements.
    rw [hlinked.partition, hsame.partition]
    exact merge_congr (hs.root_root left) (hs.root_root right)
  · rw [hlinked.components, hsame.components]

theorem union_sound (hs : Sound s) (hl : left < s.size) (hr : right < s.size) :
    Sound (s.union left right).2 ∧ (s.union left right).2.size = s.size := by
  by_cases h : s.partition left right
  · rw [union_of_rel hs h]
    exact ⟨searched_sound hs left right, (searched_sameSets hs left right).size⟩
  · obtain ⟨-, hlinked⟩ := union_of_not_rel hs hl hr h
    exact ⟨hlinked.sound, hlinked.size⟩

open Classical in
/-- A union says whether its elements were in different sets. -/
theorem union_fst (hs : Sound s) (hl : left < s.size) (hr : right < s.size) :
    (s.union left right).1 = decide (¬ s.partition left right) := by
  by_cases h : s.partition left right
  · rw [union_of_rel hs h]
    simp [h]
  · rw [(union_of_not_rel hs hl hr h).1]
    simp [h]

end ProbeForest.DisjointSet
