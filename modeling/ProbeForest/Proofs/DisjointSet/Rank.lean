import ProbeForest.Proofs.DisjointSet.Compression

/-!
# Ranks keep climbs short

Every step up raises the rank, and a root needs twice the elements for every
further rank.  Both are told of the structure as a whole: a search may give
nodes new parents, but only ones that stood above them before, and it moves no
element to another root; a union raises a rank only where two trees of that
rank have become one.  Ranks are written down up to 255.  That they rise is
therefore first stated as far as they are written down, which needs no bound
on the number of elements; below `2 ^ 255` elements no rank comes that far.

## Main results

* `Ranked.find`, `Ranked.union` — what the two operations keep.
* `Climbs.rankOf_le` — a climb is no longer than the rank of its root.
* `Ranked.rankOf_le_log` — ranks are at most logarithmic.
* `after_wellRanked` — the bounds, and the end of both walks, after any script.
-/

namespace ProbeForest.DisjointSet

variable {s t : DisjointSet} {x r node winner child left right steps : Nat} {ranksEqual : Bool}

/-- The elements that climb to `r`. -/
def members (s : DisjointSet) (r : Nat) : Finset Nat :=
  (Finset.range s.size).filter fun x => s.root x = r

theorem mem_members : x ∈ s.members r ↔ x < s.size ∧ s.root x = r := by
  rw [members, Finset.mem_filter, Finset.mem_range]

theorem card_members_le (s : DisjointSet) (r : Nat) : (s.members r).card ≤ s.size := by
  have hcard := Finset.card_filter_le (Finset.range s.size) fun x => s.root x = r
  rwa [Finset.card_range] at hcard

theorem SameSets.members (h : SameSets s t) (r : Nat) : t.members r = s.members r := by
  ext x
  rw [mem_members, mem_members, h.size, h.root]

theorem SameSets.rankOf (h : SameSets s t) (x : Nat) : t.rankOf x = s.rankOf x := by
  rw [DisjointSet.rankOf, h.rank, DisjointSet.rankOf]

/-- Sound structures whose ranks rise towards the roots, as far as ranks are written down, and
where a root of rank `k` has at least `2 ^ k` elements. -/
structure Ranked (s : DisjointSet) : Prop extends Sound s where
  rank_le : ∀ x, s.rankOf x ≤ maxRank
  rises : ∀ x, s.parentOf x ≠ x → min maxRank (s.rankOf x + 1) ≤ s.rankOf (s.parentOf x)
  weight : ∀ r, r < s.size → s.parentOf r = r → 2 ^ s.rankOf r ≤ (s.members r).card

theorem rankOf_singletons (size x : Nat) : (singletons size).rankOf x = 0 := by
  by_cases hx : x < size <;>
    simp [singletons, rankOf, Array.getD_eq_getD_getElem?, hx]

theorem ranked_singletons (size : Nat) : Ranked (singletons size) where
  toSound := sound_singletons size
  rank_le x := by
    rw [rankOf_singletons]
    exact Nat.zero_le maxRank
  rises x hx := absurd (parentOf_singletons size x) hx
  weight r hr _ := by
    have hmem : r ∈ (singletons size).members r := mem_members.mpr ⟨hr, root_singletons size r⟩
    rw [rankOf_singletons, pow_zero]
    exact Finset.card_pos.mpr ⟨r, hmem⟩

/-! ## Climbs -/

/-- Every step of a climb raises the rank, as far as ranks are written down. -/
theorem Climbs.rankOf_le (hs : Ranked s) (h : Climbs s steps x r) :
    min maxRank (s.rankOf x + steps) ≤ s.rankOf r := by
  induction h with
  | stay _ => exact Nat.min_le_right _ _
  | @up _ x _ hne _ ih =>
      have hstep := hs.rises x hne
      omega

/-! ## Searches -/

/-- The new parents that a search gives are roots, which stand above the whole path. -/
theorem Ranked.find (h : Ranked s) (node : Nat) : Ranked (s.find node).2 := by
  have hcompressed := find_compressed h.toForest node
  have hsame := hcompressed.sameSets
  have hsound := find_sound h.toSound node
  refine { toSound := hsound, rank_le := ?_, rises := ?_, weight := ?_ }
  · intro x
    rw [hsame.rankOf]
    exact h.rank_le x
  · intro x hx
    rw [hsame.rankOf, hsame.rankOf]
    by_cases hon : OnPath s node x
    · rw [hcompressed.onPath x hon] at hx ⊢
      obtain ⟨_, hclimb⟩ := h.climbs_root node
      obtain ⟨steps, _, hclimb⟩ := hclimb.of_onPath hon
      have hrank := hclimb.rankOf_le h
      have hpos : steps ≠ 0 := by
        rintro rfl
        cases hclimb with
        | stay _ => exact hx rfl
      omega
    · rw [hcompressed.offPath x hon] at hx ⊢
      exact h.rises x hx
  · intro r hr hroot
    have hroot' : s.parentOf r = r := by
      rw [← h.root_eq_self_iff, ← hsame.root]
      exact hsound.root_eq_self_iff.mpr hroot
    rw [hsame.members, hsame.rankOf]
    exact h.weight r (hsame.size ▸ hr) hroot'

/-! ## Unions -/

theorem rankOf_attach_of_ne (s : DisjointSet) (child : Nat) (ranksEqual : Bool)
    (hx : x ≠ winner) : (s.attach winner child ranksEqual).rankOf x = s.rankOf x := by
  cases ranksEqual <;> simp [attach, rankOf, Array.getD_eq_getD_getElem?, hx.symm]

theorem rankOf_attach_winner (child : Nat) (ranksEqual : Bool) (hwinner : winner < s.rank.size) :
    (s.attach winner child ranksEqual).rankOf winner =
      if ranksEqual then min maxRank (s.rankOf winner + 1) else s.rankOf winner := by
  cases ranksEqual <;> simp [attach, rankOf, Array.getD_eq_getD_getElem?, hwinner]

/-- Attaching a tree lowers no rank. -/
theorem rankOf_le_attach (h : Ranked s) (child : Nat) (ranksEqual : Bool)
    (hwinner : winner < s.size) (x : Nat) :
    s.rankOf x ≤ (s.attach winner child ranksEqual).rankOf x := by
  by_cases hx : x = winner
  · have hmax := h.rank_le winner
    rw [hx, rankOf_attach_winner child ranksEqual (by rwa [h.rank_size])]
    split
    · omega
    · exact le_refl _
  · rw [rankOf_attach_of_ne s child ranksEqual hx]

/-- The child ends below a higher rank: the ranks were different, or the rank of the winner
grows. -/
theorem rankOf_child_rises (h : Ranked s) (hwinner : winner < s.size)
    (hle : s.rankOf child ≤ s.rankOf winner)
    (heq : ranksEqual = true ↔ s.rankOf child = s.rankOf winner) :
    min maxRank (s.rankOf child + 1) ≤ (s.attach winner child ranksEqual).rankOf winner := by
  rw [rankOf_attach_winner child ranksEqual (by rwa [h.rank_size])]
  split
  · rename_i hequal
    rw [heq.mp hequal]
  · rename_i hdiffer
    have hranks := mt heq.mpr hdiffer
    omega

section Attach

variable (h : Ranked s) (hw : s.parentOf winner = winner) (hc : s.parentOf child = child)
  (hwlt : winner < s.size) (hlt : child < s.size) (hne : winner ≠ child)

include h hw hc hwlt hlt hne

theorem mem_members_attach :
    x ∈ (s.attach winner child ranksEqual).members r ↔
      x < s.size ∧ (if s.root x = child then winner else s.root x) = r := by
  rw [mem_members, size_attach, root_attach h.toForest hw hc hlt hne hwlt]

/-- The winner gets all elements of the child. -/
theorem card_members_attach_winner :
    ((s.attach winner child ranksEqual).members winner).card =
      (s.members winner).card + (s.members child).card := by
  have hunion : (s.attach winner child ranksEqual).members winner =
      s.members winner ∪ s.members child := by
    ext x
    rw [mem_members_attach h hw hc hwlt hlt hne, Finset.mem_union, mem_members, mem_members]
    by_cases hx : s.root x = child
    · simp [hx, hne.symm]
    · simp [hx]
  have hdisj : Disjoint (s.members winner) (s.members child) := by
    rw [Finset.disjoint_left]
    intro x hx hx'
    exact hne ((mem_members.mp hx).2.symm.trans (mem_members.mp hx').2)
  rw [hunion, Finset.card_union_of_disjoint hdisj]

theorem members_attach_of_ne (hr : r ≠ winner) (hr' : r ≠ child) :
    (s.attach winner child ranksEqual).members r = s.members r := by
  ext x
  rw [mem_members_attach h hw hc hwlt hlt hne, mem_members]
  by_cases hx : s.root x = child
  · simp [hx, hr.symm, hr'.symm]
  · simp [hx]

/-- The winner of two trees of equal rank has the elements of both, which are enough for the next
rank. -/
theorem two_pow_rankOf_attach_winner_le
    (heq : ranksEqual = true ↔ s.rankOf child = s.rankOf winner) :
    2 ^ (s.attach winner child ranksEqual).rankOf winner ≤
      ((s.attach winner child ranksEqual).members winner).card := by
  have hwweight := h.weight winner hwlt hw
  have hcweight := h.weight child hlt hc
  rw [card_members_attach_winner h hw hc hwlt hlt hne,
    rankOf_attach_winner child ranksEqual (h.rank_size.symm ▸ hwlt)]
  split
  · rename_i hequal
    rw [heq.mp hequal] at hcweight
    calc
      2 ^ min maxRank (s.rankOf winner + 1) ≤ 2 ^ (s.rankOf winner + 1) :=
        Nat.pow_le_pow_right Nat.two_pos (Nat.min_le_right _ _)
      _ = 2 ^ s.rankOf winner + 2 ^ s.rankOf winner := by rw [pow_succ, Nat.mul_two]
      _ ≤ (s.members winner).card + (s.members child).card := Nat.add_le_add hwweight hcweight
  · exact Nat.le_add_right_of_le hwweight

/-- Two trees of equal rank make one of the next rank, and any other union keeps the ranks. -/
theorem Ranked.attach (hle : s.rankOf child ≤ s.rankOf winner)
    (heq : ranksEqual = true ↔ s.rankOf child = s.rankOf winner) :
    Ranked (s.attach winner child ranksEqual) := by
  have hother : ∀ x, x ≠ winner → (s.attach winner child ranksEqual).rankOf x = s.rankOf x :=
    fun _ hx => rankOf_attach_of_ne s child ranksEqual hx
  have hparent := fun x => parentOf_attach s winner x ranksEqual hlt
  refine
    { toSound := sound_attach h.toSound hw hc hwlt hlt hne
      rank_le := ?_
      rises := ?_
      weight := ?_ }
  · intro x
    by_cases hxw : x = winner
    · rw [hxw, rankOf_attach_winner child ranksEqual (h.rank_size.symm ▸ hwlt)]
      split
      · exact Nat.min_le_left _ _
      · exact h.rank_le winner
    · rw [hother x hxw]
      exact h.rank_le x
  · intro x hx
    have hxw : x ≠ winner := by
      rintro rfl
      rw [hparent, if_neg hne] at hx
      exact hx hw
    rw [hother x hxw]
    by_cases hxc : x = child
    · rw [hparent, if_pos hxc, hxc]
      exact rankOf_child_rises h hwlt hle heq
    · -- All others keep their parents, whose ranks do not fall.
      rw [hparent, if_neg hxc] at hx ⊢
      exact (h.rises x hx).trans (rankOf_le_attach h child ranksEqual hwlt _)
  · intro r hr hroot
    rw [size_attach] at hr
    have hrc : r ≠ child := by
      rintro rfl
      rw [hparent, if_pos rfl] at hroot
      exact hne hroot
    rw [hparent, if_neg hrc] at hroot
    by_cases hrw : r = winner
    · rw [hrw]
      exact two_pow_rankOf_attach_winner_le h hw hc hwlt hlt hne heq
    · rw [members_attach_of_ne h hw hc hwlt hlt hne hrw hrc, hother r hrw]
      exact h.weight r hr hroot

end Attach

theorem Ranked.link (h : Ranked s) (hl : s.parentOf left = left) (hr : s.parentOf right = right)
    (hllt : left < s.size) (hrlt : right < s.size) : Ranked (s.link left right).2 := by
  by_cases hne : left = right
  · rw [hne, link_self]
    exact h
  · obtain ⟨winner, child, ranksEqual, hlink, ⟨rfl, rfl⟩ | ⟨rfl, rfl⟩, hle, heq⟩ :=
      link_of_ne (s := s) hne
    · rw [hlink]
      exact h.attach hl hr hllt hrlt hne hle heq
    · rw [hlink]
      exact h.attach hr hl hrlt hllt (fun h => hne h.symm) hle heq

theorem Ranked.searched (h : Ranked s) (left right : Nat) : Ranked (s.searched left right) :=
  (h.find left).find right

theorem Ranked.union (h : Ranked s) (hl : left < s.size) (hr : right < s.size) :
    Ranked (s.union left right).2 := by
  have hs := h.toSound
  rw [union_eq_link hs]
  exact (h.searched left right).link (parentOf_searched_root hs left right left)
    (parentOf_searched_root hs left right right) (root_lt_searched hs left right hl)
    (root_lt_searched hs left right hr)

theorem after_ranked (size : Nat) (script : List Call) : Ranked (after size script) :=
  invariant_after (fun _ h => h.toSound) (fun _ node h => h.find node)
    (fun _ _ _ h hl hr => h.union hl hr) size (ranked_singletons size) script

/-! ## Bounds -/

namespace Ranked

variable (h : Ranked s)

include h

theorem two_pow_rankOf_root_le (hx : x < s.size) :
    2 ^ s.rankOf (s.root x) ≤ (s.members (s.root x)).card :=
  h.weight (s.root x) (h.root_lt hx) (h.parentOf_root x)

theorem rankOf_root_le_log (hx : x < s.size) : s.rankOf (s.root x) ≤ Nat.log 2 s.size :=
  Nat.le_log_of_pow_le Nat.one_lt_two
    ((h.two_pow_rankOf_root_le hx).trans (card_members_le s (s.root x)))

theorem rankOf_le_log (hx : x < s.size) : s.rankOf x ≤ Nat.log 2 s.size := by
  obtain ⟨_, hclimb⟩ := h.climbs_root x
  have hrises := hclimb.rankOf_le h
  have hmax := h.rank_le x
  have hroot := h.rankOf_root_le_log hx
  omega

section Below

variable (hsize : s.size < 2 ^ maxRank)

include hsize

/-- With fewer than `2 ^ 255` elements no rank is the largest one that is written down. -/
theorem rankOf_lt_maxRank (hx : x < s.size) : s.rankOf x < maxRank :=
  (h.rankOf_le_log hx).trans_lt (Nat.log_lt_of_lt_pow (Nat.ne_zero_of_lt hx) hsize)

theorem rankOf_lt_parentOf (hx : x < s.size) (hup : s.parentOf x ≠ x) :
    s.rankOf x < s.rankOf (s.parentOf x) := by
  have hrises := h.rises x hup
  have hmax := h.rankOf_lt_maxRank hsize (h.parentOf_lt x hx)
  omega

theorem steps_le_log (hx : x < s.size) (hclimb : Climbs s steps x r) :
    steps ≤ Nat.log 2 s.size := by
  have hr := hclimb.lt_size h.toForest hx
  have hrises := hclimb.rankOf_le h
  have hmax := h.rankOf_lt_maxRank hsize hr
  have hlog := h.rankOf_le_log hr
  omega

/-- A union of two trees of equal rank adds exactly one to the rank of the left root. -/
theorem rankOf_union_root (hl : left < s.size) (hne : s.root left ≠ s.root right)
    (heq : s.rankOf (s.root left) = s.rankOf (s.root right)) :
    (s.union left right).2.rankOf (s.root left) = s.rankOf (s.root left) + 1 := by
  have hsame := searched_sameSets h.toSound left right
  have hlt := root_lt_searched h.toSound left right hl
  have hmax := h.rankOf_lt_maxRank hsize (h.root_lt hl)
  rw [← hsame.rankOf, ← hsame.rankOf (s.root right)] at heq
  rw [union_eq_link h.toSound, link_of_rankOf_eq hne heq,
    rankOf_attach_winner _ _ (by rwa [(h.searched left right).rank_size]), if_pos rfl,
    hsame.rankOf]
  omega

end Below

end Ranked

/-! ## Scripts -/

/-- Disjoint sets of `size` elements whose ranks and paths are in order. -/
structure WellRanked (size : Nat) (s : DisjointSet) : Prop where
  parent_size : s.parent.size = size
  rank_size : s.rank.size = size
  /-- Every parent is an element. -/
  parentOf_lt : ∀ x, x < size → s.parentOf x < size
  /-- The rank of a parent is higher, or the largest one that is written down. -/
  rises : ∀ x, x < size → s.parentOf x ≠ x →
    min maxRank (s.rankOf x + 1) ≤ s.rankOf (s.parentOf x)
  /-- A set whose root has rank `k` has at least `2 ^ k` elements. -/
  weight : ∀ x, x < size → 2 ^ s.rankOf (s.root x) ≤ (s.members (s.root x)).card
  rankOf_le_log : ∀ x, x < size → s.rankOf x ≤ Nat.log 2 size
  /-- The first walk of a search comes to an end. -/
  climbs : ∀ x, x < size → ∃ steps < size, Climbs s steps x (s.root x)
  /-- The second walk of a search comes to an end. -/
  repoints : ∀ x, x < size → ∃ turns < size, Repoints (s.root x) turns x s (s.find x).2

/-- Disjoint sets of `size` elements in which every rank is written down as it is. -/
structure Unsaturated (size : Nat) (s : DisjointSet) : Prop where
  rises : ∀ x, x < size → s.parentOf x ≠ x → s.rankOf x < s.rankOf (s.parentOf x)
  /-- Neither walk of a search is longer than the logarithm of the number of elements. -/
  walks_le_log : ∀ x, x < size →
    ∃ steps ≤ Nat.log 2 size, Climbs s steps x (s.root x) ∧
      ∃ turns ≤ steps, Repoints (s.root x) turns x s (s.find x).2
  /-- A union of two sets whose roots have equal ranks adds one to the rank of the left root. -/
  grows : ∀ a b, a < size → b < size → s.root a ≠ s.root b →
    s.rankOf (s.root a) = s.rankOf (s.root b) →
    ((Call.union a b).leaves s).rankOf (s.root a) = s.rankOf (s.root a) + 1

theorem Ranked.wellRanked (h : Ranked s) : WellRanked s.size s where
  parent_size := rfl
  rank_size := h.rank_size
  parentOf_lt := h.parentOf_lt
  rises x _ := h.rises x
  weight _ hx := h.two_pow_rankOf_root_le hx
  rankOf_le_log _ hx := h.rankOf_le_log hx
  climbs x hx := by
    obtain ⟨steps, hclimb⟩ := h.climbs_root x
    exact ⟨steps, hclimb.steps_lt h.toForest hx, hclimb⟩
  repoints x hx := by
    obtain ⟨steps, hclimb⟩ := h.climbs_root x
    obtain ⟨turns, hle, hwalk⟩ := hclimb.repoints_find h.toForest
    exact ⟨turns, hle.trans_lt (hclimb.steps_lt h.toForest hx), hwalk⟩

theorem Ranked.unsaturated (h : Ranked s) (hsize : s.size < 2 ^ maxRank) :
    Unsaturated s.size s where
  rises _ hx hup := h.rankOf_lt_parentOf hsize hx hup
  walks_le_log x hx := by
    obtain ⟨steps, hclimb⟩ := h.climbs_root x
    exact ⟨steps, h.steps_le_log hsize hx hclimb, hclimb, hclimb.repoints_find h.toForest⟩
  grows a b ha hb hne heq := by
    rw [leaves_union h.toSound ha hb]
    exact h.rankOf_union_root hsize ha hne heq

/-- After any script of calls on any number of elements, parents are elements, ranks rise towards
the roots as far as they are written down, a root of rank `k` has at least `2 ^ k` elements, no
rank is above the logarithm of the number of elements, and both walks of every search come to an
end.  Below `2 ^ 255` elements, which is more than a machine can number, ranks rise at every step
and are never cut off. -/
theorem after_wellRanked (size : Nat) (script : List Call) :
    WellRanked size (after size script) ∧
      (size < 2 ^ 255 → Unsaturated size (after size script)) := by
  obtain ⟨-, hsize⟩ := after_sound size script
  have hranked := after_ranked size script
  constructor
  · have hwell := hranked.wellRanked
    rwa [hsize] at hwell
  · intro hlt
    have hunsaturated := hranked.unsaturated (by rwa [hsize])
    rwa [hsize] at hunsaturated

/-- Eight elements in one tree of rank three. -/
theorem after_wellRanked_stacked :
    8 < 2 ^ 255 ∧ WellRanked 8 (after 8 stacked) ∧ Unsaturated 8 (after 8 stacked) :=
  ⟨by decide, (after_wellRanked 8 stacked).1, (after_wellRanked 8 stacked).2 (by decide)⟩

end ProbeForest.DisjointSet
