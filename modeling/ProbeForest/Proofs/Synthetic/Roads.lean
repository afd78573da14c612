import ProbeForest.Proofs.Network.Overflow
import ProbeForest.Proofs.Random.Draws
import ProbeForest.Synthetic.Roads

/-!
# Synthetic road networks are problems

The ends of a road are drawn from the regions that exist, and its cost from the
costs of the settings, whatever 64-bit numbers these are.  So planning never
refuses a region of such a network.  The fallback is handed on and takes no part
in the draws, and fewer roads are the first of many.

## Main results

* `RoadConfig.Fits.yields_roads` — what the draws of the roads give.
* `generate_eq_error_iff` — the settings that are refused.
* `generate_problem` — the problem that settings describe.
-/

namespace ProbeForest.Synthetic

open Network (Problem Road)
open ProbeForest.Random (Generator Width Yields run_many_take yields_signedBetween
  yields_wordBetween)

variable {c : RoadConfig} {p : Problem}

/-! ## Settings -/

/-- The settings describe no roads. -/
def RoadConfig.Refused (c : RoadConfig) : Prop :=
  (c.regions = 0 ∧ 0 < c.roadCount) ∨ c.maxCost < c.minCost

/-- The numbers of the settings fit 64 bits. -/
structure RoadConfig.Fits (c : RoadConfig) : Prop where
  /-- The number of regions is one without a sign. -/
  regions : c.regions < Width.full.modulus
  /-- The costs are signed. -/
  minCost : Network.Cost.inRange c.minCost = true
  maxCost : Network.Cost.inRange c.maxCost = true

theorem generate_eq_error_iff : (∃ e, c.generate = .error e) ↔ c.Refused := by
  unfold RoadConfig.generate RoadConfig.check RoadConfig.Refused
  by_cases hregions : c.regions = 0 ∧ 0 < c.roadCount
  · rw [if_pos hregions]
    exact ⟨fun _ => Or.inl hregions, fun _ => ⟨.zeroRegions, rfl⟩⟩
  · by_cases hcosts : c.maxCost < c.minCost
    · rw [if_neg hregions, if_pos hcosts]
      exact ⟨fun _ => Or.inr hcosts, fun _ => ⟨.invalidCostRange c.minCost c.maxCost, rfl⟩⟩
    · rw [if_neg hregions, if_neg hcosts]
      constructor
      · rintro ⟨e, he⟩
        cases he
      · rintro (h | h)
        · exact absurd h hregions
        · exact absurd h hcosts

theorem generate_eq_of_not_refused (h : ¬ c.Refused) :
    c.generate = .ok ((c.roads.run (Generator.ofSeed c.seed)).map fun (roads, _) =>
      ⟨c.regions, c.fallback, roads⟩) := by
  obtain ⟨hregions, hcosts⟩ := not_or.mp h
  have hcheck : c.check = .ok () := by
    rw [RoadConfig.check, if_neg hregions, if_neg hcosts]
  rw [RoadConfig.generate, hcheck]
  rfl

/-! ## Draws -/

/-- A road whose ends exist and whose cost is within the settings. -/
structure RoadConfig.Allows (c : RoadConfig) (road : Road) : Prop where
  left : 1 ≤ road.left ∧ road.left ≤ c.regions
  right : 1 ≤ road.right ∧ road.right ≤ c.regions
  cost : c.minCost ≤ road.cost ∧ road.cost ≤ c.maxCost

theorem RoadConfig.Fits.yields_road (h : c.Fits) (hpos : 1 ≤ c.regions)
    (hcosts : c.minCost ≤ c.maxCost) : Yields c.road c.Allows := by
  have hlimit : (Network.Cost.limit : Int) = 2 ^ 63 := rfl
  have hmin := Network.inRange_iff.mp h.minCost
  have hmax := Network.inRange_iff.mp h.maxCost
  rw [hlimit] at hmin hmax
  apply (yields_wordBetween hpos h.regions).bind
  intro left hleft
  apply (yields_wordBetween hpos h.regions).bind
  intro right hright
  apply (yields_signedBetween hmin.1 hcosts hmax.2).bind
  intro cost hcost
  exact .pure ⟨hleft, hright, hcost⟩

/-- Settings without regions ask for no roads, so that nothing is drawn. -/
theorem RoadConfig.Fits.yields_roads (h : c.Fits) (haccepted : ¬ c.Refused) :
    Yields c.roads fun roads => roads.length = c.roadCount ∧ ∀ road ∈ roads, c.Allows road := by
  obtain ⟨hregions, hcosts⟩ := not_or.mp haccepted
  unfold RoadConfig.roads
  by_cases hnone : c.roadCount = 0
  · rw [hnone]
    exact .pure ⟨rfl, by simp⟩
  · exact (h.yields_road (by omega) (by omega)).many c.roadCount

/-! ## Problems -/

/-- The problem that settings describe. -/
structure RoadConfig.Describes (c : RoadConfig) (p : Problem) : Prop where
  regions_eq : p.regions = c.regions
  fallback_eq : p.fallback = c.fallback
  /-- There are as many roads as the settings ask for. -/
  length_eq : p.roads.length = c.roadCount
  /-- Each joins regions that exist, at a cost within the settings. -/
  allows : ∀ road ∈ p.roads, c.Allows road
  /-- Planning refuses no region. -/
  plan_ne : ∀ road region regions, p.plan ≠ .error (.invalidRegion road region regions)
  /-- Settings that ask for fewer roads describe the same problem with the first of them. -/
  fewer : ∀ k ≤ c.roadCount,
    { c with roadCount := k }.generate = .ok (some { p with roads := p.roads.take k })

/-- What settings generate. -/
structure RoadConfig.Generates (c : RoadConfig) : Prop where
  /-- They are refused if they ask for roads without regions, or turn the costs around. -/
  fails_iff : (∃ e, c.generate = .error e) ↔
    (c.regions = 0 ∧ 0 < c.roadCount) ∨ c.maxCost < c.minCost
  /-- Otherwise they give a problem, unless the generator stalls in one of the draws. -/
  problem : ¬ ((c.regions = 0 ∧ 0 < c.roadCount) ∨ c.maxCost < c.minCost) →
    (∃ p, c.generate = .ok (some p) ∧ c.Describes p) ∨
      (c.generate = .ok none ∧ (Generator.ofSeed c.seed).Stalls)
  /-- Another fallback changes nothing but the fallback. -/
  fallback : ∀ fallback, { c with fallback := fallback }.generate =
    c.generate.map (Option.map fun p => { p with fallback := fallback })

theorem RoadConfig.not_refused_of_fewer (h : ¬ c.Refused) {k : Nat} (hle : k ≤ c.roadCount) :
    ¬ { c with roadCount := k }.Refused := by
  obtain ⟨hregions, hcosts⟩ := not_or.mp h
  apply not_or.mpr
  constructor
  · rintro ⟨hzero, hpos⟩
    exact hregions ⟨hzero, Nat.lt_of_lt_of_le hpos hle⟩
  · exact hcosts

theorem generate_take (h : ¬ c.Refused) {roads : List Road} {g : Generator} {k : Nat}
    (hrun : c.roads.run (Generator.ofSeed c.seed) = some (roads, g)) (hle : k ≤ c.roadCount) :
    { c with roadCount := k }.generate =
      .ok (some ⟨c.regions, c.fallback, roads.take k⟩) := by
  obtain ⟨g', htake⟩ : ∃ g', { c with roadCount := k }.roads.run (Generator.ofSeed c.seed) =
      some (roads.take k, g') := run_many_take hrun hle
  rw [generate_eq_of_not_refused (RoadConfig.not_refused_of_fewer h hle), htake]
  rfl

/-- Roads whose ends exist are not refused by planning. -/
theorem plan_ne_invalidRegion
    (hends : ∀ road ∈ p.roads, (1 ≤ road.left ∧ road.left ≤ p.regions) ∧
      (1 ≤ road.right ∧ road.right ≤ p.regions)) (road region regions : Nat) :
    p.plan ≠ .error (.invalidRegion road region regions) := by
  intro hplan
  obtain ⟨_, hfirst⟩ := Network.invalidRegion_iff.mp hplan
  obtain ⟨stray, hstray, hmissing⟩ := Network.exists_firstMissing_iff.mp ⟨road, region, hfirst⟩
  have hboth := hends stray hstray
  apply hmissing
  constructor
  · rw [Problem.Missing]
    omega
  · rw [Problem.Missing]
    omega

theorem generate_withFallback (c : RoadConfig) (fallback : Int) :
    { c with fallback := fallback }.generate =
      c.generate.map (Option.map fun p => { p with fallback := fallback }) := by
  have hgenerate : ∀ fallback, { c with fallback := fallback }.generate = c.check.bind fun _ =>
      .ok ((c.roads.run (Generator.ofSeed c.seed)).map fun (roads, _) =>
        ⟨c.regions, fallback, roads⟩) := fun _ => rfl
  rw [hgenerate fallback, show c.generate = _ from hgenerate c.fallback]
  cases c.check with
  | error e => rfl
  | ok _ => cases c.roads.run (Generator.ofSeed c.seed) <;> rfl

/-- Settings of 64-bit numbers give a problem whose regions planning does not refuse, unless they
ask for what there is not, or the generator stalls in one of the draws. -/
theorem generate_problem (c : RoadConfig) (hfits : c.Fits) : c.Generates where
  fails_iff := generate_eq_error_iff
  problem haccepted := by
    have hyields := hfits.yields_roads haccepted
    rw [generate_eq_of_not_refused haccepted]
    rcases hyields (Generator.ofSeed c.seed) with
      ⟨roads, n, hrun, hlength, hallows⟩ | ⟨hrun, hstalls⟩
    · rw [hrun]
      refine Or.inl ⟨⟨c.regions, c.fallback, roads⟩, rfl, ?_⟩
      exact
        { regions_eq := rfl
          fallback_eq := rfl
          length_eq := hlength
          allows := hallows
          plan_ne := plan_ne_invalidRegion fun road hroad =>
            ⟨(hallows road hroad).left, (hallows road hroad).right⟩
          fewer := fun k hle => generate_take haccepted hrun hle }
    · rw [hrun]
      exact Or.inr ⟨rfl, hstalls⟩
  fallback := generate_withFallback c

/-- Settings with as many regions and as wide a range of costs as there can be. -/
def widest : RoadConfig := ⟨2 ^ 64 - 1, 2, -2 ^ 63, 2 ^ 63 - 1, 5, 7⟩

theorem generate_widest : widest.generate = .ok (some ⟨18446744073709551615, 5,
    [⟨17876040531463918309, 5791438544937527793, 8186033631819050777⟩,
      ⟨4774370799569821733, 7586724682685355763, -4312468315698866105⟩]⟩) := by
  decide +kernel

/-- The draws end, and the roads are as described. -/
theorem generate_problem_widest :
    widest.Fits ∧ widest.Generates ∧ ∃ p, widest.generate = .ok (some p) ∧ widest.Describes p := by
  have hfits : widest.Fits := ⟨by decide, by decide, by decide⟩
  have hgenerates := generate_problem widest hfits
  refine ⟨hfits, hgenerates, ?_⟩
  rcases hgenerates.problem (by decide) with hproblem | ⟨hnone, _⟩
  · exact hproblem
  · rw [generate_widest] at hnone
    cases hnone

end ProbeForest.Synthetic
