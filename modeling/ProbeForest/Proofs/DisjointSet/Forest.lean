import ProbeForest.DisjointSet
import ProbeForest.Proofs.Partition

/-!
# The forest behind disjoint sets

The parents of disjoint sets form a forest: every element climbs to a root.
`Climbs` follows that climb step by step, and a pigeonhole argument shows that
the fuel of `root` always suffices.  Compressing a path moves elements within
their tree only.

Everything an operation does is told through two views of the structure: the
root of every element, and the partition into elements with equal roots.

## Main results

* `Climbs.steps_lt` — a climb has fewer steps than there are elements.
* `Forest.root_eq_iff` — `root` finds the root that an element climbs to.
* `find_sound`, `find_sameSets` — a search keeps the roots, the ranks and the
  number of sets.
-/

namespace ProbeForest.DisjointSet

open ProbeForest.Partition

variable {s t : DisjointSet} {x y r node : Nat}

/-! ## Climbing to a root -/

/-- Following parents from `x`, the first root met is `r`, after `steps` steps. -/
inductive Climbs (s : DisjointSet) : (steps : Nat) → (x r : Nat) → Prop
  | stay {r : Nat} (h : s.parentOf r = r) : Climbs s 0 r r
  | up {steps x r : Nat} (h : s.parentOf x ≠ x) (rest : Climbs s steps (s.parentOf x) r) :
      Climbs s (steps + 1) x r

/-- Parents are elements, and every element climbs to a root. -/
structure Forest (s : DisjointSet) : Prop where
  parentOf_lt : ∀ x, x < s.size → s.parentOf x < s.size
  climbs : ∀ x, ∃ steps r, Climbs s steps x r

theorem parentOf_of_size_le (h : s.size ≤ x) : s.parentOf x = x := by
  unfold size at h
  simp [parentOf, h]

theorem lt_size_of_parentOf_ne (h : s.parentOf x ≠ x) : x < s.size := by
  apply Nat.lt_of_not_le
  intro hle
  exact h (parentOf_of_size_le hle)

theorem Climbs.parentOf_eq {steps : Nat} (h : Climbs s steps x r) : s.parentOf r = r := by
  induction h with
  | stay h => exact h
  | up _ _ ih => exact ih

theorem Climbs.lt_size {steps : Nat} (hs : Forest s) (h : Climbs s steps x r)
    (hx : x < s.size) : r < s.size := by
  induction h with
  | stay _ => exact hx
  | up _ _ ih => exact ih (hs.parentOf_lt _ hx)

/-- There is only one climb from an element. -/
theorem Climbs.unique {steps steps' r' : Nat} (h : Climbs s steps x r)
    (h' : Climbs s steps' x r') : steps = steps' ∧ r = r' := by
  induction h generalizing steps' with
  | stay hr =>
      cases h' with
      | stay _ => exact ⟨rfl, rfl⟩
      | up hne _ => exact absurd hr hne
  | up hne _ ih =>
      cases h' with
      | stay hr => exact absurd hr hne
      | up _ rest =>
          obtain ⟨hsteps, hroot⟩ := ih rest
          exact ⟨congrArg (· + 1) hsteps, hroot⟩

/-- Every shorter distance to the root is taken by some element on the way. -/
theorem Climbs.exists_at {steps : Nat} (hs : Forest s) (h : Climbs s steps x r)
    (hx : x < s.size) : ∀ k, k ≤ steps → ∃ y, y < s.size ∧ Climbs s k y r := by
  induction h with
  | stay hr =>
      intro k hk
      obtain rfl : k = 0 := by omega
      exact ⟨_, hx, Climbs.stay hr⟩
  | @up steps x r hne rest ih =>
      intro k hk
      by_cases hlast : k = steps + 1
      · subst hlast
        exact ⟨x, hx, Climbs.up hne rest⟩
      · exact ih (hs.parentOf_lt _ hx) k (by omega)

/-- A climb visits no element twice, so it is shorter than the number of elements. -/
theorem Climbs.steps_lt {steps : Nat} (hs : Forest s) (h : Climbs s steps x r)
    (hx : x < s.size) : steps < s.size := by
  choose! visited hlt hclimb using h.exists_at hs hx
  have hinj : Set.InjOn visited (Finset.range (steps + 1)) := by
    intro i hi j hj hij
    simp only [Finset.coe_range, Set.mem_Iio] at hi hj
    have hi' := hclimb i (by omega)
    rw [hij] at hi'
    exact (hi'.unique (hclimb j (by omega))).1
  have hmaps : ∀ k ∈ Finset.range (steps + 1), visited k ∈ Finset.range s.size := by
    intro k hk
    rw [Finset.mem_range] at hk ⊢
    exact hlt k (by omega)
  have hcard := Finset.card_le_card_of_injOn visited hmaps hinj
  rw [Finset.card_range, Finset.card_range] at hcard
  omega

theorem Climbs.rootWithin_eq {steps fuel : Nat} (h : Climbs s steps x r) (hfuel : steps ≤ fuel) :
    s.rootWithin fuel x = r := by
  induction h generalizing fuel with
  | stay hr =>
      cases fuel with
      | zero => rfl
      | succ fuel => simp [rootWithin, hr]
  | up hne _ ih =>
      cases fuel with
      | zero => omega
      | succ fuel =>
          simp only [rootWithin, if_neg hne]
          exact ih (by omega)

/-- An index out of range is its own root, so the number of elements is enough for every climb. -/
theorem Climbs.steps_le {steps : Nat} (hs : Forest s) (h : Climbs s steps x r) :
    steps ≤ s.size := by
  by_cases hx : x < s.size
  · exact Nat.le_of_lt (h.steps_lt hs hx)
  · have hstay : Climbs s 0 x x := Climbs.stay (parentOf_of_size_le (by omega))
    obtain ⟨rfl, rfl⟩ := h.unique hstay
    exact Nat.zero_le _

theorem Climbs.root_eq {steps : Nat} (hs : Forest s) (h : Climbs s steps x r) : s.root x = r :=
  h.rootWithin_eq (h.steps_le hs)

/-! ## Roots of a forest -/

namespace Forest

theorem climbs_root (hs : Forest s) (x : Nat) : ∃ steps, Climbs s steps x (s.root x) := by
  obtain ⟨steps, r, h⟩ := hs.climbs x
  rw [h.root_eq hs]
  exact ⟨steps, h⟩

/-- The root of `x` is the root that `x` climbs to. -/
theorem root_eq_iff (hs : Forest s) : s.root x = r ↔ ∃ steps, Climbs s steps x r := by
  constructor
  · rintro rfl
    exact hs.climbs_root x
  · rintro ⟨steps, h⟩
    exact h.root_eq hs

theorem parentOf_root (hs : Forest s) (x : Nat) : s.parentOf (s.root x) = s.root x := by
  obtain ⟨_, h⟩ := hs.climbs_root x
  exact h.parentOf_eq

theorem root_eq_self_iff (hs : Forest s) : s.root x = x ↔ s.parentOf x = x := by
  constructor
  · intro h
    rw [← h]
    exact hs.parentOf_root x
  · intro h
    exact (Climbs.stay h).root_eq hs

theorem root_root (hs : Forest s) (x : Nat) : s.root (s.root x) = s.root x :=
  hs.root_eq_self_iff.mpr (hs.parentOf_root x)

theorem root_lt (hs : Forest s) (hx : x < s.size) : s.root x < s.size := by
  obtain ⟨_, h⟩ := hs.climbs_root x
  exact h.lt_size hs hx

theorem root_parentOf (hs : Forest s) (x : Nat) : s.root (s.parentOf x) = s.root x := by
  obtain ⟨steps, h⟩ := hs.climbs_root x
  generalize hr : s.root x = r at h
  cases h with
  | stay h => rw [h, hr]
  | up _ rest => exact rest.root_eq hs

end Forest

/-- The partition into elements with the same root. -/
def partition (s : DisjointSet) : Setoid Nat := Setoid.ker s.root

theorem partition_rel : s.partition x y ↔ s.root x = s.root y := Iff.rfl

/-- A sound structure is a forest with a rank for every element and a right count of its sets. -/
structure Sound (s : DisjointSet) : Prop extends Forest s where
  rank_size : s.rank.size = s.size
  components_eq : s.components = classCount s.partition (Finset.range s.size)

/-- There are no more sets than elements. -/
theorem Sound.components_le (hs : Sound s) : s.components ≤ s.size := by
  have hcount := classCount_le_card s.partition (Finset.range s.size)
  rwa [← hs.components_eq, Finset.card_range] at hcount

/-- The same sets with the same roots, ranks and count; only paths may differ. -/
structure SameSets (s t : DisjointSet) : Prop where
  size : t.size = s.size
  root : ∀ x, t.root x = s.root x
  rank : t.rank = s.rank
  components : t.components = s.components

namespace SameSets

theorem refl (s : DisjointSet) : SameSets s s := ⟨rfl, fun _ => rfl, rfl, rfl⟩

theorem trans {u : DisjointSet} (h : SameSets s t) (h' : SameSets t u) : SameSets s u where
  size := h'.size.trans h.size
  root x := (h'.root x).trans (h.root x)
  rank := h'.rank.trans h.rank
  components := h'.components.trans h.components

theorem partition (h : SameSets s t) : t.partition = s.partition := by
  ext x y
  rw [partition_rel, partition_rel, h.root, h.root]

theorem sound (h : SameSets s t) (hs : Sound s) (ht : Forest t) : Sound t where
  toForest := ht
  rank_size := by rw [h.rank, h.size, hs.rank_size]
  components_eq := by rw [h.components, h.partition, h.size, hs.components_eq]

end SameSets

/-! ## Singletons -/

theorem size_singletons (size : Nat) : (singletons size).size = size := by
  simp [singletons, DisjointSet.size]

theorem parentOf_singletons (size x : Nat) : (singletons size).parentOf x = x := by
  by_cases hx : x < size
  · simp [singletons, parentOf, Array.getD_eq_getD_getElem?, hx]
  · exact parentOf_of_size_le (by rw [size_singletons]; omega)

theorem forest_singletons (size : Nat) : Forest (singletons size) where
  parentOf_lt x hx := by rwa [parentOf_singletons]
  climbs x := ⟨0, x, Climbs.stay (parentOf_singletons size x)⟩

theorem root_singletons (size x : Nat) : (singletons size).root x = x :=
  (forest_singletons size).root_eq_self_iff.mpr (parentOf_singletons size x)

theorem partition_singletons (size : Nat) : (singletons size).partition = ⊥ := by
  ext x y
  rw [partition_rel, root_singletons, root_singletons]
  rfl

theorem sound_singletons (size : Nat) : Sound (singletons size) where
  toForest := forest_singletons size
  rank_size := by simp [singletons, DisjointSet.size]
  components_eq := by
    rw [partition_singletons, classCount_bot, Finset.card_range, size_singletons]
    rfl

/-! ## Path compression -/

@[simp] theorem size_repoint (s : DisjointSet) (node up : Nat) :
    (s.repoint node up).size = s.size := by
  simp [repoint, DisjointSet.size]

theorem parentOf_repoint (s : DisjointSet) (up x : Nat) (hnode : node < s.size) :
    (s.repoint node up).parentOf x = if x = node then up else s.parentOf x := by
  unfold DisjointSet.size at hnode
  by_cases hx : x = node
  · subst hx
    simp [repoint, parentOf, Array.getD_eq_getD_getElem?, hnode]
  · have hx' : node ≠ x := fun h => hx h.symm
    simp [repoint, parentOf, Array.getD_eq_getD_getElem?, hx, hx']

section Repoint

variable (hs : Forest s) (hnode : s.parentOf node ≠ node)

include hs hnode

/-- An element that is pointed at its own root still climbs there, and so do all others. -/
theorem Climbs.repoint {steps : Nat} (h : Climbs s steps x r) :
    ∃ steps, Climbs (s.repoint node (s.root node)) steps x r := by
  have hlt : node < s.size := lt_size_of_parentOf_ne hnode
  have hparent := fun x => parentOf_repoint s (s.root node) x hlt
  -- A root of the old forest is never `node`, so it is a root of the new one.
  have hroot : ∀ r, s.parentOf r = r → (s.repoint node (s.root node)).parentOf r = r := by
    intro r hr
    have hne : r ≠ node := fun h => hnode (h ▸ hr)
    rw [hparent, if_neg hne, hr]
  induction h with
  | stay hr => exact ⟨0, Climbs.stay (hroot _ hr)⟩
  | @up _ x r hne rest ih =>
      by_cases hx : x = node
      · subst hx
        have hr : s.root x = r := (Climbs.up hne rest).root_eq hs
        have hrr : s.parentOf r = r := rest.parentOf_eq
        have hup : (s.repoint x (s.root x)).parentOf x = r := by rw [hparent, if_pos rfl, hr]
        have hrx : r ≠ x := fun h => hne (h ▸ hrr)
        refine ⟨1, Climbs.up (by rw [hup]; exact hrx) ?_⟩
        rw [hup]
        exact Climbs.stay (hroot r hrr)
      · obtain ⟨steps, hrest⟩ := ih
        have hup : (s.repoint node (s.root node)).parentOf x = s.parentOf x := by
          rw [hparent, if_neg hx]
        exact ⟨steps + 1, Climbs.up (by rw [hup]; exact hne) (by rw [hup]; exact hrest)⟩

theorem forest_repoint : Forest (s.repoint node (s.root node)) where
  parentOf_lt x hx := by
    have hlt : node < s.size := lt_size_of_parentOf_ne hnode
    rw [size_repoint] at hx ⊢
    rw [parentOf_repoint s (s.root node) x hlt]
    split
    · exact hs.root_lt hlt
    · exact hs.parentOf_lt x hx
  climbs x := by
    obtain ⟨_, h⟩ := hs.climbs_root x
    obtain ⟨steps, h'⟩ := h.repoint hs hnode
    exact ⟨steps, _, h'⟩

theorem sameSets_repoint : SameSets s (s.repoint node (s.root node)) where
  size := size_repoint s node _
  root x := by
    obtain ⟨_, h⟩ := hs.climbs_root x
    exact (forest_repoint hs hnode).root_eq_iff.mpr (h.repoint hs hnode)
  rank := rfl
  components := rfl

end Repoint

/-- Compression keeps the forest and every root, whatever the fuel. -/
theorem compressWithin_sameSets (fuel : Nat) (hs : Forest s) (hnode : s.root node = r) :
    Forest (compressWithin r fuel node s) ∧ SameSets s (compressWithin r fuel node s) := by
  induction fuel generalizing s node with
  | zero => exact ⟨hs, SameSets.refl s⟩
  | succ fuel ih =>
      rw [compressWithin]
      by_cases hup : s.parentOf node = r
      · rw [if_pos hup]
        exact ⟨hs, SameSets.refl s⟩
      · rw [if_neg hup]
        -- A node whose parent is not the root is no root itself.
        have hne : s.parentOf node ≠ node := by
          intro h
          rw [← hnode, h] at hup
          exact hup (hs.root_eq_self_iff.mpr h).symm
        subst hnode
        have hsame := sameSets_repoint hs hne
        have hrest := ih (forest_repoint hs hne)
          (by rw [hsame.root, hs.root_parentOf] : _ = s.root node)
        exact ⟨hrest.1, hsame.trans hrest.2⟩

theorem find_sameSets (hs : Forest s) (x : Nat) : SameSets s (s.find x).2 :=
  (compressWithin_sameSets s.size hs rfl).2

theorem find_sound (hs : Sound s) (x : Nat) : Sound (s.find x).2 :=
  (find_sameSets hs.toForest x).sound hs (compressWithin_sameSets s.size hs.toForest rfl).1

end ProbeForest.DisjointSet
