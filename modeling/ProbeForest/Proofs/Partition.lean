import Mathlib

/-!
# Partitions that grow by merging two classes

A partition is given by its equivalence relation.  `merge` joins the classes
of two elements, and `generated` is the partition that a list of pairs
generates.  Both disjoint sets and road networks are described by these two:
a structure over small numbers and a network of regions compute the same
thing when they merge the same pairs.

## Main results

* `merge_le_iff`, `generated_le_iff` — both are the least partition with the
  pairs they were given, so the order of the pairs does not matter.
* `merge_eq_merge_of_rel` — the exchange property: a pair that a merge has
  joined for the first time may stand in for the pair that was merged.
* `classCount_merge` — merging two classes of a set takes one class away.
-/

namespace ProbeForest.Partition

variable {α β : Type*}

/-! ## Merging two classes -/

/-- The partition in which the classes of `a` and `b` have become one class. -/
def merge (r : Setoid α) (a b : α) : Setoid α where
  r x y := r x y ∨ (r x a ∧ r b y) ∨ (r x b ∧ r a y)
  iseqv :=
    { refl := fun x => Or.inl (r.refl' x)
      symm := by
        rintro x y (h | ⟨hx, hy⟩ | ⟨hx, hy⟩)
        · exact Or.inl (r.symm' h)
        · exact Or.inr (Or.inr ⟨r.symm' hy, r.symm' hx⟩)
        · exact Or.inr (Or.inl ⟨r.symm' hy, r.symm' hx⟩)
      trans := by
        rintro x y z (h | ⟨hx, hy⟩ | ⟨hx, hy⟩) (h' | ⟨hy', hz⟩ | ⟨hy', hz⟩)
        · exact Or.inl (r.trans' h h')
        · exact Or.inr (Or.inl ⟨r.trans' h hy', hz⟩)
        · exact Or.inr (Or.inr ⟨r.trans' h hy', hz⟩)
        · exact Or.inr (Or.inl ⟨hx, r.trans' hy h'⟩)
        · exact Or.inl (r.trans' hx (r.trans' (r.symm' (r.trans' hy hy')) hz))
        · exact Or.inl (r.trans' hx hz)
        · exact Or.inr (Or.inr ⟨hx, r.trans' hy h'⟩)
        · exact Or.inl (r.trans' hx hz)
        · exact Or.inl (r.trans' hx (r.trans' (r.symm' (r.trans' hy hy')) hz)) }

theorem merge_rel {r : Setoid α} {a b x y : α} :
    merge r a b x y ↔ r x y ∨ (r x a ∧ r b y) ∨ (r x b ∧ r a y) := Iff.rfl

theorem le_merge (r : Setoid α) (a b : α) : r ≤ merge r a b :=
  fun _ _ h => Or.inl h

theorem merge_pair (r : Setoid α) (a b : α) : merge r a b a b :=
  Or.inr (Or.inl ⟨r.refl' a, r.refl' b⟩)

/-- Merging gives the least partition above `r` that relates `a` and `b`. -/
theorem merge_le_iff {r t : Setoid α} {a b : α} :
    merge r a b ≤ t ↔ r ≤ t ∧ t a b := by
  constructor
  · intro h
    exact ⟨le_trans (le_merge r a b) h, h (merge_pair r a b)⟩
  · rintro ⟨hle, hab⟩ x y (h | ⟨hx, hy⟩ | ⟨hx, hy⟩)
    · exact hle h
    · exact t.trans' (hle hx) (t.trans' hab (hle hy))
    · exact t.trans' (hle hx) (t.trans' (t.symm' hab) (hle hy))

theorem merge_mono {r t : Setoid α} (h : r ≤ t) (a b : α) : merge r a b ≤ merge t a b :=
  merge_le_iff.mpr ⟨le_trans h (le_merge t a b), merge_pair t a b⟩

/-- Merging a class with itself changes nothing. -/
theorem merge_of_rel {r : Setoid α} {a b : α} (h : r a b) : merge r a b = r :=
  le_antisymm (merge_le_iff.mpr ⟨le_refl r, h⟩) (le_merge r a b)

/-- Only the classes of the two elements matter to a merge. -/
theorem merge_congr {r : Setoid α} {a b c d : α} (ha : r a c) (hb : r b d) :
    merge r a b = merge r c d := by
  apply le_antisymm
  · refine merge_le_iff.mpr ⟨le_merge r c d, ?_⟩
    exact Or.inr (Or.inl ⟨ha, r.symm' hb⟩)
  · refine merge_le_iff.mpr ⟨le_merge r a b, ?_⟩
    exact Or.inr (Or.inl ⟨r.symm' ha, hb⟩)

theorem merge_symm (r : Setoid α) (a b : α) : merge r a b = merge r b a :=
  le_antisymm
    (merge_le_iff.mpr ⟨le_merge r b a, (merge r b a).symm' (merge_pair r b a)⟩)
    (merge_le_iff.mpr ⟨le_merge r a b, (merge r a b).symm' (merge_pair r a b)⟩)

theorem merge_comm (r : Setoid α) (a b c d : α) :
    merge (merge r a b) c d = merge (merge r c d) a b := by
  refine eq_of_forall_ge_iff fun t => ?_
  simp only [merge_le_iff]
  tauto

/-- The exchange property.  If `c` and `d` are joined by merging `a` and `b`, and
were not joined before, then merging `c` and `d` instead gives the same partition. -/
theorem merge_eq_merge_of_rel {r : Setoid α} {a b c d : α}
    (hold : ¬ r c d) (hnew : merge r a b c d) : merge r c d = merge r a b := by
  have hback : merge r c d a b := by
    rcases hnew with h | ⟨hca, hbd⟩ | ⟨hcb, had⟩
    · exact absurd h hold
    · exact Or.inr (Or.inl ⟨r.symm' hca, r.symm' hbd⟩)
    · exact Or.inr (Or.inr ⟨had, hcb⟩)
  exact le_antisymm (merge_le_iff.mpr ⟨le_merge r a b, hnew⟩)
    (merge_le_iff.mpr ⟨le_merge r c d, hback⟩)

/-! ## Merging many pairs -/

/-- Merges the pairs of a list, one after another. -/
def mergeAll (r : Setoid α) (pairs : List (α × α)) : Setoid α :=
  pairs.foldl (fun r pair => merge r pair.1 pair.2) r

@[simp] theorem mergeAll_nil (r : Setoid α) : mergeAll r [] = r := rfl

@[simp] theorem mergeAll_cons (r : Setoid α) (pair : α × α) (pairs : List (α × α)) :
    mergeAll r (pair :: pairs) = mergeAll (merge r pair.1 pair.2) pairs := rfl

theorem mergeAll_append (r : Setoid α) (pairs more : List (α × α)) :
    mergeAll r (pairs ++ more) = mergeAll (mergeAll r pairs) more :=
  List.foldl_append

theorem mergeAll_le_iff {r t : Setoid α} {pairs : List (α × α)} :
    mergeAll r pairs ≤ t ↔ r ≤ t ∧ ∀ pair ∈ pairs, t pair.1 pair.2 := by
  induction pairs generalizing r with
  | nil => simp
  | cons pair pairs ih =>
      rw [mergeAll_cons, ih, merge_le_iff, List.forall_mem_cons, and_assoc]

theorem le_mergeAll (r : Setoid α) (pairs : List (α × α)) : r ≤ mergeAll r pairs :=
  (mergeAll_le_iff.mp (le_refl _)).1

/-- Merging pairs that are joined already changes nothing. -/
theorem mergeAll_of_rel {r : Setoid α} {pairs : List (α × α)}
    (h : ∀ pair ∈ pairs, r pair.1 pair.2) : mergeAll r pairs = r :=
  le_antisymm (mergeAll_le_iff.mpr ⟨le_refl r, h⟩) (le_mergeAll r pairs)

/-- Only which pairs are merged matters, not how often or in which order. -/
theorem mergeAll_congr {r : Setoid α} {pairs more : List (α × α)}
    (h : ∀ pair, pair ∈ pairs ↔ pair ∈ more) : mergeAll r pairs = mergeAll r more := by
  refine eq_of_forall_ge_iff fun t => ?_
  simp only [mergeAll_le_iff, h]

/-! ## The partition generated by pairs -/

/-- The smallest equivalence relation that relates the two elements of every pair. -/
def generated (pairs : List (α × α)) : Setoid α :=
  Relation.EqvGen.setoid fun x y => (x, y) ∈ pairs

theorem generated_le_iff {t : Setoid α} {pairs : List (α × α)} :
    generated pairs ≤ t ↔ ∀ pair ∈ pairs, t pair.1 pair.2 := by
  constructor
  · intro h pair hpair
    exact h (Relation.EqvGen.rel _ _ hpair)
  · intro h
    exact Setoid.eqvGen_le fun x y hxy => h (x, y) hxy

theorem generated_eq_mergeAll (pairs : List (α × α)) : generated pairs = mergeAll ⊥ pairs := by
  refine eq_of_forall_ge_iff fun t => ?_
  rw [generated_le_iff, mergeAll_le_iff]
  exact ⟨fun h => ⟨bot_le, h⟩, fun h => h.2⟩

/-! ### Deciding relations

Partitions that are generated by pairs can be evaluated, which decides
statements about small networks.
-/

instance decidableMerge (r : Setoid α) [DecidableRel r] (a b : α) :
    DecidableRel (merge r a b) := fun x y =>
  inferInstanceAs (Decidable (r x y ∨ (r x a ∧ r b y) ∨ (r x b ∧ r a y)))

/-- Relations stay decidable while pairs are merged. -/
@[reducible]
def decidableMergeAll : (pairs : List (α × α)) → (r : Setoid α) → DecidableRel r →
    DecidableRel (mergeAll r pairs)
  | [], _, h => h
  | pair :: pairs, r, _ => decidableMergeAll pairs (merge r pair.1 pair.2) inferInstance

instance decidableGenerated [DecidableEq α] (pairs : List (α × α)) :
    DecidableRel (generated pairs) := fun x y =>
  have : Decidable (mergeAll ⊥ pairs x y) :=
    decidableMergeAll pairs ⊥ (inferInstanceAs (DecidableRel (@Eq α))) x y
  decidable_of_iff (mergeAll ⊥ pairs x y) (by rw [generated_eq_mergeAll])

/-! ## Counting classes -/

open Classical in
/-- The number of classes that have a member in `V`. -/
noncomputable def classCount (r : Setoid α) (V : Finset α) : Nat :=
  (V.image (Quotient.mk r)).card

theorem classCount_le_card (r : Setoid α) (V : Finset α) : classCount r V ≤ V.card := by
  classical
  exact Finset.card_image_le

/-- A function that tells apart all that `g` tells apart has at least as many values. -/
theorem card_image_le_of_eq_imp_eq [DecidableEq β] {γ : Type*} [DecidableEq γ] {V : Finset α}
    {f : α → β} {g : α → γ} (h : ∀ x ∈ V, ∀ y ∈ V, f x = f y → g x = g y) :
    (V.image g).card ≤ (V.image f).card := by
  have hfst : (V.image fun x => (f x, g x)).image Prod.fst = V.image f := by
    rw [Finset.image_image]
    rfl
  have hsnd : (V.image fun x => (f x, g x)).image Prod.snd = V.image g := by
    rw [Finset.image_image]
    rfl
  have hinj : Set.InjOn Prod.fst (V.image fun x => (f x, g x) : Set (β × γ)) := by
    intro p hp q hq hpq
    simp only [Finset.coe_image, Set.mem_image, Finset.mem_coe] at hp hq
    obtain ⟨x, hx, rfl⟩ := hp
    obtain ⟨y, hy, rfl⟩ := hq
    exact Prod.ext hpq (h x hx y hy hpq)
  calc
    (V.image g).card ≤ (V.image fun x => (f x, g x)).card := hsnd ▸ Finset.card_image_le
    _ = (V.image f).card := by rw [← hfst, Finset.card_image_of_injOn hinj]

/-- The classes are counted by any function that takes equal values exactly within a class. -/
theorem classCount_eq_card_image [DecidableEq β] {r : Setoid α} {V : Finset α} {f : α → β}
    (h : ∀ x ∈ V, ∀ y ∈ V, f x = f y ↔ r x y) : classCount r V = (V.image f).card := by
  classical
  apply le_antisymm
  · refine card_image_le_of_eq_imp_eq fun x hx y hy heq => ?_
    exact Quotient.sound ((h x hx y hy).mp heq)
  · refine card_image_le_of_eq_imp_eq fun x hx y hy heq => ?_
    exact (h x hx y hy).mpr (Quotient.exact heq)

theorem classCount_bot (V : Finset α) : classCount ⊥ V = V.card := by
  classical
  rw [classCount_eq_card_image (f := id) (fun x _ y _ => Iff.rfl), Finset.image_id]

/-- At most one class is left exactly when all members of `V` are related. -/
theorem classCount_le_one_iff {r : Setoid α} {V : Finset α} :
    classCount r V ≤ 1 ↔ ∀ x ∈ V, ∀ y ∈ V, r x y := by
  classical
  rw [classCount, Finset.card_le_one]
  simp only [Finset.mem_image, forall_exists_index, and_imp, forall_apply_eq_imp_iff₂]
  constructor
  · intro h x hx y hy
    exact Quotient.eq.mp (h x hx y hy)
  · intro h x hx y hy
    exact Quotient.eq.mpr (h x hx y hy)

/-! ### One class less

`absorb` names every class after a merge; it tells apart exactly the merged
classes, and its values on the classes of a set are all of them but one.
-/

section Absorb

variable {r : Setoid α} {a b : α}

open Classical in
/-- The class that a class is part of once the class of `b` belongs to that of `a`. -/
noncomputable def absorb (r : Setoid α) (a b : α) (q : Quotient r) : Quotient r :=
  if q = Quotient.mk r b then Quotient.mk r a else q

private theorem mk_eq_iff {x y : α} : Quotient.mk r x = Quotient.mk r y ↔ r x y :=
  Quotient.eq

theorem absorb_eq_iff {x y : α} :
    absorb r a b (Quotient.mk r x) = absorb r a b (Quotient.mk r y) ↔ merge r a b x y := by
  rw [merge_rel]
  unfold absorb
  by_cases hx : r x b <;> by_cases hy : r y b
  · simp only [mk_eq_iff, hx, hy, if_true, true_iff]
    exact Or.inl (r.trans' hx (r.symm' hy))
  · simp only [mk_eq_iff, hx, hy, if_true, if_false]
    constructor
    · intro h
      exact Or.inr (Or.inr ⟨trivial, h⟩)
    · rintro (h | ⟨_, h⟩ | ⟨_, h⟩)
      · exact absurd (r.trans' (r.symm' h) hx) hy
      · exact absurd (r.symm' h) hy
      · exact h
  · simp only [mk_eq_iff, hx, hy, if_true, if_false]
    constructor
    · intro h
      exact Or.inr (Or.inl ⟨h, r.symm' hy⟩)
    · rintro (h | ⟨h, _⟩ | ⟨h, _⟩)
      · exact absurd (r.trans' h hy) hx
      · exact h
      · exact h.elim
  · simp only [mk_eq_iff, hx, hy, if_false]
    constructor
    · exact Or.inl
    · rintro (h | ⟨_, h⟩ | ⟨h, _⟩)
      · exact h
      · exact absurd (r.symm' h) hy
      · exact h.elim

open Classical in
theorem image_absorb {S : Finset (Quotient r)} (ha : Quotient.mk r a ∈ S) (hab : ¬ r a b) :
    S.image (absorb r a b) = S.erase (Quotient.mk r b) := by
  have hne : Quotient.mk r a ≠ Quotient.mk r b := fun h => hab (mk_eq_iff.mp h)
  ext q
  simp only [Finset.mem_image, Finset.mem_erase]
  constructor
  · rintro ⟨q, hq, rfl⟩
    by_cases hqb : q = Quotient.mk r b
    · rw [absorb, if_pos hqb]
      exact ⟨hne, ha⟩
    · rw [absorb, if_neg hqb]
      exact ⟨hqb, hq⟩
  · rintro ⟨hqb, hq⟩
    exact ⟨q, hq, if_neg hqb⟩

/-- Merging two classes that meet `V` leaves one class less. -/
theorem classCount_merge {V : Finset α} (ha : a ∈ V) (hb : b ∈ V) (hab : ¬ r a b) :
    classCount (merge r a b) V + 1 = classCount r V := by
  classical
  have ha' : Quotient.mk r a ∈ V.image (Quotient.mk r) := Finset.mem_image_of_mem _ ha
  have hb' : Quotient.mk r b ∈ V.image (Quotient.mk r) := Finset.mem_image_of_mem _ hb
  calc
    classCount (merge r a b) V + 1
        = (V.image (absorb r a b ∘ Quotient.mk r)).card + 1 := by
          rw [classCount_eq_card_image fun x _ y _ => absorb_eq_iff]
          rfl
    _ = ((V.image (Quotient.mk r)).erase (Quotient.mk r b)).card + 1 := by
          rw [← Finset.image_image, image_absorb ha' hab]
    _ = classCount r V := Finset.card_erase_add_one hb'

end Absorb

/-- Elements that are related to nothing but themselves are classes of their own. -/
theorem classCount_union_of_isolated [DecidableEq α] {r : Setoid α} {V W : Finset α}
    (hdisj : Disjoint V W) (h : ∀ x y, r x y → x = y ∨ (x ∈ V ∧ y ∈ V)) :
    classCount r (V ∪ W) = classCount r V + W.card := by
  classical
  have halone : ∀ x ∈ W, ∀ y, r x y → x = y := by
    intro x hx y hxy
    rcases h x y hxy with rfl | ⟨hxV, _⟩
    · rfl
    · exact absurd hx (Finset.disjoint_left.mp hdisj hxV)
  have hW : (W.image (Quotient.mk r)).card = W.card := by
    refine Finset.card_image_of_injOn fun x hx y _ hxy => ?_
    exact halone x hx y (Quotient.eq.mp hxy)
  have hparts : Disjoint (V.image (Quotient.mk r)) (W.image (Quotient.mk r)) := by
    rw [Finset.disjoint_left]
    simp only [Finset.mem_image, not_exists, not_and]
    rintro _ ⟨x, hx, rfl⟩ y hy hyx
    have hyx : y = x := halone y hy x (Quotient.eq.mp hyx)
    exact Finset.disjoint_left.mp hdisj hx (hyx ▸ hy)
  rw [classCount, Finset.image_union, Finset.card_union_of_disjoint hparts, hW, classCount]

end ProbeForest.Partition
