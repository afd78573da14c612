import ProbeForest.Proofs.Network.Spanning

/-!
# Greedy choice is cheapest

A road spares the fallback once, so building it costs its own cost less the
fallback.  `surplus` adds these differences up.  Among the independent parts
of a list of roads whose surplus is not positive, the `joining` roads of the
list taken cheapest first have the smallest surplus: where another choice
leaves out the next cheapest road, exchanging it for a dearer one does not
raise the surplus.

## Main results

* `Independent.sublist` — a part of independent roads is independent.
* `exists_chosen_after` — the exchange: the cheapest road can be taken at no loss.
* `surplus_joining_le` — the greedy choice has the smallest surplus.
-/

namespace ProbeForest.Network

open ProbeForest.Partition

variable {r : Setoid Nat} {fallback : Int} {road : Road} {roads chosen : List Road}

/-! ## Parts of independent roads -/

theorem Independent.not_rel (h : Independent r chosen) (hroad : road ∈ chosen) :
    ¬ r road.left road.right := by
  induction chosen generalizing r with
  | nil => cases hroad
  | cons first rest ih =>
      obtain ⟨hfirst, hrest⟩ := h
      rcases List.mem_cons.mp hroad with rfl | hroad
      · exact hfirst
      · exact fun hr => ih hrest hroad (le_merge r _ _ hr)

theorem Independent.anti {t : Setoid Nat} (h : Independent r chosen) (hle : t ≤ r) :
    Independent t chosen := by
  induction chosen generalizing r t with
  | nil => trivial
  | cons first rest ih =>
      obtain ⟨hfirst, hrest⟩ := h
      exact ⟨fun ht => hfirst (hle ht), ih hrest (merge_mono hle _ _)⟩

/-- A part of independent roads is independent. -/
theorem Independent.sublist (h : Independent r roads) (hsub : chosen.Sublist roads) :
    Independent r chosen := by
  induction hsub generalizing r with
  | slnil => trivial
  | cons road _ ih => exact ih (h.2.anti (le_merge r _ _))
  | cons_cons road _ ih => exact ⟨h.1, ih h.2⟩

/-- A road that independent roads do not connect can be built first. -/
theorem Independent.join_of_not_rel (h : Independent r chosen)
    (hroad : ¬ joinAll r chosen road.left road.right) : Independent (road.join r) chosen := by
  have happend : Independent r (chosen ++ [road]) :=
    independent_append.mpr ⟨h, hroad, trivial⟩
  exact (happend.perm (List.perm_append_singleton road chosen)).2

/-! ## What roads cost beyond the fallback that they spare -/

/-- The cost of building roads, less one fallback for each. -/
def surplus (fallback : Int) (roads : List Road) : Int :=
  (roads.map fun road => road.cost - fallback).sum

@[simp] theorem surplus_nil (fallback : Int) : surplus fallback [] = 0 := rfl

@[simp] theorem surplus_cons (fallback : Int) (road : Road) (roads : List Road) :
    surplus fallback (road :: roads) = (road.cost - fallback) + surplus fallback roads := by
  simp [surplus]

@[simp] theorem surplus_append (fallback : Int) (roads more : List Road) :
    surplus fallback (roads ++ more) = surplus fallback roads + surplus fallback more := by
  simp [surplus]

theorem surplus_perm {more : List Road} (h : roads.Perm more) :
    surplus fallback roads = surplus fallback more :=
  (h.map _).sum_eq

theorem surplus_eq (fallback : Int) (roads : List Road) :
    surplus fallback roads = (roads.map Road.cost).sum - fallback * roads.length := by
  induction roads with
  | nil => simp
  | cons road roads ih =>
      rw [surplus_cons, ih, List.map_cons, List.sum_cons, List.length_cons]
      push_cast
      ring

/-- Roads that cost at least the fallback can be left out. -/
theorem surplus_filter_le (fallback : Int) (roads : List Road) :
    surplus fallback (roads.filter fun road => road.cost < fallback) ≤ surplus fallback roads := by
  induction roads with
  | nil => exact le_refl _
  | cons road roads ih =>
      by_cases hcost : road.cost < fallback
      · rw [List.filter_cons_of_pos (by simpa using hcost), surplus_cons, surplus_cons]
        omega
      · rw [List.filter_cons_of_neg (by simpa using hcost), surplus_cons]
        omega

/-- The first road can always be taken: some independent roads after it make up for it. -/
theorem exists_chosen_after {first : Road} {rest : List Road}
    (hfirst : ∀ other ∈ rest, first.cost ≤ other.cost) (hcheap : first.cost ≤ fallback)
    (hr : ¬ r first.left first.right) (hind : Independent r chosen)
    (hpart : (chosen : Multiset Road) ≤ first ::ₘ rest) :
    ∃ chosen', Independent (first.join r) chosen' ∧ (chosen' : Multiset Road) ≤ rest ∧
      (first.cost - fallback) + surplus fallback chosen' ≤ surplus fallback chosen := by
  by_cases hin : first ∈ chosen
  · have hperm : chosen.Perm (first :: chosen.erase first) := List.perm_cons_erase hin
    refine ⟨chosen.erase first, (hind.perm hperm).2, ?_, ?_⟩
    · have herase := Multiset.erase_le_erase first hpart
      rwa [Multiset.erase_cons_head, Multiset.coe_erase] at herase
    · rw [surplus_perm hperm, surplus_cons]
  · have hpart' : (chosen : Multiset Road) ≤ rest :=
      (Multiset.le_cons_of_notMem (by simpa using hin)).mp hpart
    by_cases hconn : joinAll r chosen first.left first.right
    · -- The first road replaces one of the chosen roads, none of which is cheaper.
      obtain ⟨before, out, behind, rfl, hind'⟩ := hind.exists_exchange hr hconn
      have hsub : (before ++ behind).Sublist (before ++ out :: behind) :=
        (List.sublist_cons_self out behind).append_left before
      have hcost := hfirst out (Multiset.mem_of_le hpart' (by simp))
      refine ⟨before ++ behind, hind', le_trans (Multiset.coe_le.mpr hsub.subperm) hpart', ?_⟩
      simp only [surplus_append, surplus_cons]
      omega
    · refine ⟨chosen, hind.join_of_not_rel hconn, hpart', ?_⟩
      omega

/-- The greedy choice: of all independent parts of a list that is sorted by cost and does not
exceed the fallback, the roads that join two groups have the smallest surplus. -/
theorem surplus_joining_le (hsorted : roads.Pairwise fun road other => road.cost ≤ other.cost)
    (hcheap : ∀ road ∈ roads, road.cost ≤ fallback) (hind : Independent r chosen)
    (hpart : (chosen : Multiset Road) ≤ roads) :
    surplus fallback (joining r roads) ≤ surplus fallback chosen := by
  induction roads generalizing r chosen with
  | nil =>
      have hzero : (chosen : Multiset Road) = 0 := Multiset.le_zero.mp hpart
      obtain rfl : chosen = [] := (Multiset.coe_eq_zero chosen).mp hzero
      exact le_refl _
  | cons first rest ih =>
      obtain ⟨hfirst, hrest⟩ := List.pairwise_cons.mp hsorted
      have hcheap' : ∀ road ∈ rest, road.cost ≤ fallback :=
        fun road hroad => hcheap road (List.mem_cons_of_mem first hroad)
      rw [← Multiset.cons_coe] at hpart
      by_cases hr : r first.left first.right
      · -- The first road joins nothing, so no independent list has it.
        have hout : first ∉ (chosen : Multiset Road) := fun hmem => hind.not_rel hmem hr
        rw [joining_cons_of_rel hr]
        exact ih hrest hcheap' hind ((Multiset.le_cons_of_notMem hout).mp hpart)
      · obtain ⟨chosen', hind', hpart', hle⟩ :=
          exists_chosen_after hfirst (hcheap first List.mem_cons_self) hr hind hpart
        have hrest := ih hrest hcheap' hind' hpart'
        rw [joining_cons_of_not_rel hr, surplus_cons]
        omega

end ProbeForest.Network
