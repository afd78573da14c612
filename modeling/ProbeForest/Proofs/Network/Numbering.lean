import Mathlib
import ProbeForest.Network.Plan
import ProbeForest.Proofs.Traversal

/-!
# Numbers by first touch

Numbering the ends of roads hands out the numbers below the count of touched
regions, one to each.  A number that was given stays, so that the edges may be
read off the final numbering although most of them were made before it.

## Main results

* `Numbers.touch`, `Numbers.edge`, `Numbers.mapM_edge` — touching a region, numbering a
  road and numbering many keep the numbers dense, and only add to them.
* `edges_eq` — every edge carries the final numbers of its road.
-/

namespace ProbeForest.Network.Numbering

open Std (HashMap)

variable {ν ν' ν'' : Numbering} {V : Finset Nat} {region : Nat}

/-- The regions that are an end of some road. -/
def touched : List Road → Finset Nat
  | [] => ∅
  | road :: roads => insert road.left (insert road.right (touched roads))

theorem mem_touched {roads : List Road} :
    region ∈ touched roads ↔ ∃ road ∈ roads, region = road.left ∨ region = road.right := by
  induction roads with
  | nil => simp [touched]
  | cons road roads ih =>
      simp only [touched, Finset.mem_insert, ih, List.exists_mem_cons_iff, or_assoc]

/-- The numbers given to the regions of `V` are those below its size, one to each. -/
structure Numbers (ν : Numbering) (V : Finset Nat) : Prop where
  mem_iff : ∀ region : Nat, (∃ n, ν[region]? = some n) ↔ region ∈ V
  size_eq : ν.size = V.card
  lt_size : ∀ region n : Nat, ν[region]? = some n → n < ν.size
  injective : ∀ x y n : Nat, ν[x]? = some n → ν[y]? = some n → x = y

/-- Every number that was given stays. -/
def Extends (ν ν' : Numbering) : Prop :=
  ∀ region n : Nat, ν[region]? = some n → ν'[region]? = some n

theorem Extends.refl (ν : Numbering) : Extends ν ν := fun _ _ h => h

theorem Extends.trans (h : Extends ν ν') (h' : Extends ν' ν'') : Extends ν ν'' :=
  fun region n hn => h' region n (h region n hn)

theorem numbers_empty : Numbers ∅ ∅ where
  mem_iff region := by simp
  size_eq := by simp
  lt_size region n h := by simp at h
  injective x y n h := by simp at h

/-! ## Touching a region -/

theorem touch_of_some {n : Nat} (h : ν[region]? = some n) : (touch region).run ν = (n, ν) := by
  simp [touch, h]
  rfl

theorem touch_of_none (h : ν[region]? = none) :
    (touch region).run ν = (ν.size, ν.insert region ν.size) := by
  simp [touch, h]
  rfl

theorem notMem_of_none (h : ν[region]? = none) : region ∉ ν := by
  rw [HashMap.mem_iff_isSome_getElem?, h]
  simp

/-- A region without a number takes the next one. -/
theorem Numbers.insert (hν : Numbers ν V) (hnone : ν[region]? = none) :
    Numbers (ν.insert region ν.size) (insert region V) where
  mem_iff other := by
    rw [Finset.mem_insert, ← hν.mem_iff other, HashMap.getElem?_insert]
    by_cases h : region = other
    · simp [h]
    · have h' : other ≠ region := fun heq => h heq.symm
      simp [h, h']
  size_eq := by
    have hV : region ∉ V := by
      rw [← hν.mem_iff, hnone]
      simp
    rw [HashMap.size_insert, if_neg (notMem_of_none hnone), Finset.card_insert_of_notMem hV, hν.size_eq]
  lt_size other n hn := by
    rw [HashMap.size_insert, if_neg (notMem_of_none hnone)]
    rw [HashMap.getElem?_insert] at hn
    split at hn
    · injection hn with hn
      omega
    · have := hν.lt_size other n hn
      omega
  injective x y n hx hy := by
    rw [HashMap.getElem?_insert] at hx hy
    -- The fresh number lies above all numbers given before.
    have hfresh : ∀ z : Nat, ν[z]? = some n → n ≠ ν.size := by
      intro z hz
      have := hν.lt_size z n hz
      omega
    by_cases hrx : region = x <;> by_cases hry : region = y
    · rw [← hrx, hry]
    · rw [if_pos (beq_iff_eq.mpr hrx), Option.some.injEq] at hx
      rw [if_neg (by simpa using hry)] at hy
      exact absurd hx.symm (hfresh y hy)
    · rw [if_neg (by simpa using hrx)] at hx
      rw [if_pos (beq_iff_eq.mpr hry), Option.some.injEq] at hy
      exact absurd hy.symm (hfresh x hx)
    · rw [if_neg (by simpa using hrx)] at hx
      rw [if_neg (by simpa using hry)] at hy
      exact hν.injective x y n hx hy

/-- What numbering made of `ν`: the regions `V` have numbers, and no number has changed. -/
structure Numbered (ν ν' : Numbering) (V : Finset Nat) : Prop where
  numbers : Numbers ν' V
  extend : Extends ν ν'

theorem Numbers.touch (hν : Numbers ν V) (region : Nat) :
    Numbered ν ((Numbering.touch region).run ν).2 (Insert.insert region V) ∧
      ((Numbering.touch region).run ν).2[region]? = some ((Numbering.touch region).run ν).1 := by
  cases h : ν[region]? with
  | some n =>
      have hmem : region ∈ V := (hν.mem_iff region).mp ⟨n, h⟩
      rw [touch_of_some h, Finset.insert_eq_of_mem hmem]
      exact ⟨⟨hν, Extends.refl ν⟩, h⟩
  | none =>
      rw [touch_of_none h]
      refine ⟨⟨hν.insert h, ?_⟩, by simp⟩
      intro other n hn
      have hne : region ≠ other := by
        rintro rfl
        rw [h] at hn
        cases hn
      simpa [HashMap.getElem?_insert, hne] using hn

/-! ## Numbering roads -/

/-- A road with the numbers of its ends. -/
def edgeOf (ν : Numbering) (road : Road) : Edge :=
  ⟨ν.getD road.left 0, ν.getD road.right 0, road⟩

theorem getD_of_some {n : Nat} (h : ν[region]? = some n) : ν.getD region 0 = n := by
  rw [HashMap.getD_eq_getD_getElem?, h]
  rfl

theorem Numbers.getElem?_eq (hν : Numbers ν V) (hregion : region ∈ V) :
    ν[region]? = some (ν.getD region 0) := by
  obtain ⟨n, hn⟩ := (hν.mem_iff region).mpr hregion
  rw [getD_of_some hn, hn]

/-- The numbers given are all those below the count of regions that have one. -/
theorem Numbers.exists_iff (hν : Numbers ν V) {n : Nat} :
    (∃ region : Nat, ν[region]? = some n) ↔ n < ν.size := by
  constructor
  · rintro ⟨region, hn⟩
    exact hν.lt_size region n hn
  · intro hn
    have hmaps : Set.MapsTo (fun region => ν.getD region 0) V (Finset.range ν.size) := by
      intro region hregion
      rw [Finset.mem_coe, Finset.mem_range]
      exact hν.lt_size region _ (hν.getElem?_eq hregion)
    have hinj : Set.InjOn (fun region => ν.getD region 0) (V : Set Nat) := by
      intro x hx y hy hxy
      refine hν.injective x y _ (hν.getElem?_eq hx) ?_
      rw [hν.getElem?_eq hy]
      exact congrArg some hxy.symm
    have hcard : (Finset.range ν.size).card ≤ V.card := by
      rw [Finset.card_range, hν.size_eq]
    have hsurj := Finset.surjOn_of_injOn_of_card_le _ hmaps hinj hcard
    obtain ⟨region, hregion, rfl⟩ := hsurj (Finset.mem_coe.mpr (Finset.mem_range.mpr hn))
    exact ⟨region, hν.getElem?_eq hregion⟩

theorem Numbers.edge (hν : Numbers ν V) (road : Road) :
    Numbered ν ((Numbering.edge road).run ν).2
        (Insert.insert road.right (Insert.insert road.left V)) ∧
      ∀ {ν'}, Extends ((Numbering.edge road).run ν).2 ν' →
        ((Numbering.edge road).run ν).1 = edgeOf ν' road := by
  obtain ⟨⟨hnum₁, hext₁⟩, hleft⟩ := hν.touch road.left
  obtain ⟨⟨hnum₂, hext₂⟩, hright⟩ := hnum₁.touch road.right
  refine ⟨⟨hnum₂, hext₁.trans hext₂⟩, fun {ν'} hext => ?_⟩
  have hleft' := getD_of_some (hext _ _ (hext₂ _ _ hleft))
  have hright' := getD_of_some (hext _ _ hright)
  rw [edgeOf, hleft', hright']
  rfl

/-- Every edge carries the numbers that its ends have in any later numbering. -/
theorem Numbers.mapM_edge (hν : Numbers ν V) (roads : List Road) :
    Numbered ν ((roads.mapM Numbering.edge).run ν).2 (V ∪ touched roads) ∧
      ∀ {ν'}, Extends ((roads.mapM Numbering.edge).run ν).2 ν' →
        ((roads.mapM Numbering.edge).run ν).1 = roads.map (edgeOf ν') := by
  induction roads generalizing ν V with
  | nil =>
      rw [List.mapM_nil, touched, Finset.union_empty]
      exact ⟨⟨hν, Extends.refl ν⟩, fun _ => rfl⟩
  | cons road roads ih =>
      obtain ⟨⟨hnum₁, hext₁⟩, hfirst⟩ := hν.edge road
      obtain ⟨⟨hnum₂, hext₂⟩, hrest⟩ := ih hnum₁
      have hV : V ∪ touched (road :: roads) =
          Insert.insert road.right (Insert.insert road.left V) ∪ touched roads := by
        ext region
        simp only [touched, Finset.mem_union, Finset.mem_insert]
        tauto
      rw [run_mapM_cons, hV]
      refine ⟨⟨hnum₂, hext₁.trans hext₂⟩, fun {ν'} hext => ?_⟩
      rw [List.map_cons, ← hfirst (hext₂.trans hext), ← hrest hext]

/-- The numbering that the ends of roads get. -/
def final (roads : List Road) : Numbering := (edges roads).2

theorem numbers_final (roads : List Road) : Numbers (final roads) (touched roads) := by
  have h := (numbers_empty.mapM_edge roads).1.numbers
  rwa [Finset.empty_union] at h

/-- A road touches two regions at most. -/
theorem card_touched_le (roads : List Road) : (touched roads).card ≤ 2 * roads.length := by
  induction roads with
  | nil => rfl
  | cons road roads ih =>
      have hright := Finset.card_insert_le road.right (touched roads)
      have hleft := Finset.card_insert_le road.left (insert road.right (touched roads))
      rw [touched, List.length_cons]
      omega

/-- Numbers that some roads have got stay when more roads follow. -/
theorem extends_final_append (roads more : List Road) :
    Extends (final roads) (final (roads ++ more)) := by
  have hfinal : final (roads ++ more) = ((more.mapM Numbering.edge).run (final roads)).2 := by
    rw [final, edges, run_mapM_append]
    rfl
  rw [hfinal]
  exact ((numbers_final roads).mapM_edge more).1.extend

/-- Every edge carries the final numbers of its road. -/
theorem edges_eq (roads : List Road) :
    edges roads = (roads.map (edgeOf (final roads)), final roads) :=
  Prod.ext ((numbers_empty.mapM_edge roads).2 (Extends.refl _)) rfl

end ProbeForest.Network.Numbering
