import Mathlib
import ProbeForest.Network.Reader
import ProbeForest.Proofs.Text.Literal

/-!
# How connection problems are written

Every position among the words expects a value of some kind, and has a name
for it.  `Spells` says which words write which problem, and `Fault` what can be
wrong with the word at one position.  How many positions there are is said by
the second word, so `Demanded` looks there.  None of this reads words in any
order: a problem is blamed at the first of its demanded positions that has a
fault.

## Main results

* `Spells.unique` — words write at most one problem.
* `FirstFault.unique` — words are blamed in at most one way.
* `Spells.sound` — what writes a problem has no fault where a word is demanded.
-/

namespace ProbeForest.Network

open Text (CountLiteral SignedLiteral)

variable {ts : List String} {p q : Problem} {i k m : Nat} {e f : InputError}

/-! ## Positions -/

/-- The kinds of values that a problem is written with. -/
inductive Kind where
  /-- How many regions or roads there are. -/
  | total
  /-- An amount of money. -/
  | cost
  /-- The number of a region. -/
  | region
deriving DecidableEq, Repr

/-- The word is a literal of the kind; whether a total is negative is not asked. -/
def Kind.Admits : Kind → String → Prop
  | total, token => ∃ v, SignedLiteral token.toList v
  | cost, token => ∃ v, SignedLiteral token.toList v
  | region, token => ∃ n, CountLiteral token.toList n

/-- What is expected at a position, and its name. -/
structure Slot where
  kind : Kind
  name : String
deriving DecidableEq, Repr

/-- The positions, counted from zero; roads are counted from one. -/
def slot : Nat → Slot
  | 0 => ⟨.total, "region count"⟩
  | 1 => ⟨.total, "road count"⟩
  | 2 => ⟨.cost, "fallback cost"⟩
  | i + 3 =>
    match i % 3 with
    | 0 => ⟨.region, s!"first region of road {i / 3 + 1}"⟩
    | 1 => ⟨.region, s!"second region of road {i / 3 + 1}"⟩
    | _ => ⟨.cost, s!"cost of road {i / 3 + 1}"⟩

theorem slot_left (k : Nat) : slot (3 * k + 3) = ⟨.region, s!"first region of road {k + 1}"⟩ := by
  have hmod : 3 * k % 3 = 0 := by omega
  have hdiv : 3 * k / 3 = k := by omega
  simp only [slot, hmod, hdiv]

theorem slot_right (k : Nat) : slot (3 * k + 4) = ⟨.region, s!"second region of road {k + 1}"⟩ := by
  have hmod : (3 * k + 1) % 3 = 1 := by omega
  have hdiv : (3 * k + 1) / 3 = k := by omega
  simp only [slot, hmod, hdiv]

theorem slot_cost (k : Nat) : slot (3 * k + 5) = ⟨.cost, s!"cost of road {k + 1}"⟩ := by
  have hmod : (3 * k + 2) % 3 = 2 := by omega
  have hdiv : (3 * k + 2) / 3 = k := by omega
  simp only [slot, hmod, hdiv]

/-! ## Problems -/

/-- The first three words write the two totals and the fallback cost. -/
structure Header (ts : List String) (n m : Nat) (a : Int) : Prop where
  regions : ∃ token ∈ ts[0]?, SignedLiteral token.toList n
  roadCount : ∃ token ∈ ts[1]?, SignedLiteral token.toList m
  fallback : ∃ token ∈ ts[2]?, SignedLiteral token.toList a

/-- The `k`-th three words behind the header write the road. -/
structure RoadAt (ts : List String) (k : Nat) (road : Road) : Prop where
  left : ∃ token ∈ ts[3 * k + 3]?, CountLiteral token.toList road.left
  right : ∃ token ∈ ts[3 * k + 4]?, CountLiteral token.toList road.right
  cost : ∃ token ∈ ts[3 * k + 5]?, SignedLiteral token.toList road.cost

/-- The words write the problem; there may be more words behind it. -/
structure Spells (ts : List String) (p : Problem) : Prop where
  header : Header ts p.regions p.roads.length p.fallback
  roads : ∀ k road, p.roads[k]? = some road → RoadAt ts k road

/-! ## Faults -/

/-- What is wrong with the word at a position, if it has one. -/
inductive Slot.Fault (s : Slot) : Option String → InputError → Prop where
  | missing : s.Fault none (.missing s.name)
  | invalid {token : String} (h : ¬ s.kind.Admits token) :
      s.Fault (some token) (.invalidInteger token s.name)
  | negative {token : String} {v : Int} (hkind : s.kind = .total)
      (h : SignedLiteral token.toList v) (hv : v < 0) :
      s.Fault (some token) (.negativeCount s.name v)

/-- Nothing is wrong at the position. -/
def Sound (ts : List String) (i : Nat) : Prop := ∀ e, ¬ (slot i).Fault ts[i]? e

/-- The position belongs to the problem: it is in the header, or in front of
as many roads as the second word asks for. -/
def Demanded (ts : List String) (i : Nat) : Prop :=
  i < 3 ∨ ∃ m : Nat, (∃ token ∈ ts[1]?, SignedLiteral token.toList m) ∧ i < 3 * m + 3

/-- The error is that of the first demanded position at which something is wrong. -/
def FirstFault (ts : List String) (e : InputError) : Prop :=
  ∃ i, Demanded ts i ∧ (∀ j < i, Sound ts j) ∧ (slot i).Fault ts[i]? e

/-! ## What has no fault -/

section Literals

variable {s : Slot} {token : String}

theorem Slot.not_fault_of_admits (hkind : s.kind ≠ .total) (h : s.kind.Admits token) :
    ¬ s.Fault (some token) e := by
  intro hfault
  cases hfault with
  | invalid hnot => exact hnot h
  | negative htotal _ _ => exact hkind htotal

theorem Slot.not_fault_of_total (hkind : s.kind = .total) {n : Nat}
    (h : SignedLiteral token.toList n) : ¬ s.Fault (some token) e := by
  intro hfault
  cases hfault with
  | invalid hnot =>
      rw [hkind] at hnot
      exact hnot ⟨n, h⟩
  | negative _ hneg hv =>
      obtain rfl := hneg.unique h
      omega

end Literals

theorem Header.sound {n : Nat} {a : Int} (h : Header ts n m a) (hi : i < 3) : Sound ts i := by
  intro e
  obtain rfl | rfl | rfl : i = 0 ∨ i = 1 ∨ i = 2 := by omega
  · obtain ⟨token, hmem, hlit⟩ := h.regions
    rw [Option.mem_def.mp hmem]
    exact Slot.not_fault_of_total rfl hlit
  · obtain ⟨token, hmem, hlit⟩ := h.roadCount
    rw [Option.mem_def.mp hmem]
    exact Slot.not_fault_of_total rfl hlit
  · obtain ⟨token, hmem, hlit⟩ := h.fallback
    rw [Option.mem_def.mp hmem]
    exact Slot.not_fault_of_admits nofun ⟨_, hlit⟩

theorem RoadAt.sound {road : Road} (h : RoadAt ts k road) (hlow : 3 * k + 3 ≤ i)
    (hhigh : i < 3 * k + 6) : Sound ts i := by
  intro e
  obtain rfl | rfl | rfl : i = 3 * k + 3 ∨ i = 3 * k + 4 ∨ i = 3 * k + 5 := by omega
  · obtain ⟨token, hmem, hlit⟩ := h.left
    rw [Option.mem_def.mp hmem, slot_left]
    exact Slot.not_fault_of_admits nofun ⟨_, hlit⟩
  · obtain ⟨token, hmem, hlit⟩ := h.right
    rw [Option.mem_def.mp hmem, slot_right]
    exact Slot.not_fault_of_admits nofun ⟨_, hlit⟩
  · obtain ⟨token, hmem, hlit⟩ := h.cost
    rw [Option.mem_def.mp hmem, slot_cost]
    exact Slot.not_fault_of_admits nofun ⟨_, hlit⟩

/-- The second word of a header decides what is demanded. -/
theorem Header.demanded_iff {n : Nat} {a : Int} (h : Header ts n m a) :
    Demanded ts i ↔ i < 3 * m + 3 := by
  obtain ⟨token, hmem, hlit⟩ := h.roadCount
  constructor
  · rintro (hi | ⟨m', ⟨token', hmem', hlit'⟩, hi⟩)
    · omega
    · obtain rfl := Option.mem_unique hmem hmem'
      obtain rfl := Int.ofNat.inj (hlit.unique hlit')
      exact hi
  · exact fun hi => .inr ⟨m, ⟨token, hmem, hlit⟩, hi⟩

theorem Spells.sound (h : Spells ts p) (hi : Demanded ts i) : Sound ts i := by
  have hlt := h.header.demanded_iff.mp hi
  by_cases hheader : i < 3
  · exact h.header.sound hheader
  · have hk : (i - 3) / 3 < p.roads.length := by omega
    have hroad := h.roads _ _ (List.getElem?_eq_getElem hk)
    exact hroad.sound (by omega) (by omega)

/-! ## Uniqueness -/

theorem Header.unique {n n' m' : Nat} {a a' : Int} (h : Header ts n m a)
    (h' : Header ts n' m' a') : n = n' ∧ m = m' ∧ a = a' := by
  obtain ⟨⟨_, hn, hnlit⟩, ⟨_, hm, hmlit⟩, ⟨_, ha, halit⟩⟩ := h
  obtain ⟨⟨_, hn', hnlit'⟩, ⟨_, hm', hmlit'⟩, ⟨_, ha', halit'⟩⟩ := h'
  obtain rfl := Option.mem_unique hn hn'
  obtain rfl := Option.mem_unique hm hm'
  obtain rfl := Option.mem_unique ha ha'
  exact ⟨Int.ofNat.inj (hnlit.unique hnlit'), Int.ofNat.inj (hmlit.unique hmlit'),
    halit.unique halit'⟩

theorem RoadAt.unique {road road' : Road} (h : RoadAt ts k road) (h' : RoadAt ts k road') :
    road = road' := by
  obtain ⟨⟨_, hl, hllit⟩, ⟨_, hr, hrlit⟩, ⟨_, hc, hclit⟩⟩ := h
  obtain ⟨⟨_, hl', hllit'⟩, ⟨_, hr', hrlit'⟩, ⟨_, hc', hclit'⟩⟩ := h'
  obtain rfl := Option.mem_unique hl hl'
  obtain rfl := Option.mem_unique hr hr'
  obtain rfl := Option.mem_unique hc hc'
  cases road
  cases road'
  simp only [Road.mk.injEq]
  exact ⟨hllit.unique hllit', hrlit.unique hrlit', hclit.unique hclit'⟩

theorem Spells.unique (hp : Spells ts p) (hq : Spells ts q) : p = q := by
  obtain ⟨hregions, hlength, hfallback⟩ := hp.header.unique hq.header
  have hroads : p.roads = q.roads := by
    refine List.ext_getElem hlength fun k hpk hqk => ?_
    exact (hp.roads k _ (List.getElem?_eq_getElem hpk)).unique
      (hq.roads k _ (List.getElem?_eq_getElem hqk))
  cases p
  cases q
  simp only [Problem.mk.injEq]
  exact ⟨hregions, hfallback, hroads⟩

theorem Slot.Fault.unique {s : Slot} {word : Option String} (he : s.Fault word e)
    (hf : s.Fault word f) : e = f := by
  cases he with
  | missing =>
      cases hf with
      | missing => rfl
  | invalid hnot =>
      cases hf with
      | invalid => rfl
      | negative hkind h _ =>
          rw [hkind] at hnot
          exact absurd ⟨_, h⟩ hnot
  | negative hkind h _ =>
      cases hf with
      | invalid hnot =>
          rw [hkind] at hnot
          exact absurd ⟨_, h⟩ hnot
      | negative _ h' _ => rw [h.unique h']

/-- The first fault comes before every other, so two first faults are one. -/
theorem FirstFault.unique (he : FirstFault ts e) (hf : FirstFault ts f) : e = f := by
  obtain ⟨i, _, hbefore, hfault⟩ := he
  obtain ⟨j, _, hbefore', hfault'⟩ := hf
  rcases Nat.lt_trichotomy i j with hlt | rfl | hlt
  · exact absurd hfault (hbefore' i hlt e)
  · exact hfault.unique hfault'
  · exact absurd hfault' (hbefore j hlt f)

/-- Words that write a problem are not blamed. -/
theorem Spells.not_firstFault (h : Spells ts p) : ¬ FirstFault ts e := by
  rintro ⟨i, hdemanded, _, hfault⟩
  exact h.sound hdemanded e hfault

/-! ## Words that do not matter -/

/-- What stands behind the last road has no influence. -/
theorem Spells.congr {us : List String} (h : Spells ts p)
    (hsame : us.take (3 * p.roads.length + 3) = ts.take (3 * p.roads.length + 3)) :
    Spells us p := by
  have hword : ∀ i < 3 * p.roads.length + 3, us[i]? = ts[i]? := fun i hi => by
    rw [← List.getElem?_take_of_lt hi, hsame, List.getElem?_take_of_lt hi]
  constructor
  · exact ⟨by rw [hword 0 (by omega)]; exact h.header.regions,
      by rw [hword 1 (by omega)]; exact h.header.roadCount,
      by rw [hword 2 (by omega)]; exact h.header.fallback⟩
  · intro k road hroad
    have hk := (List.getElem?_eq_some_iff.mp hroad).1
    obtain ⟨hleft, hright, hcost⟩ := h.roads k road hroad
    exact ⟨by rw [hword _ (by omega)]; exact hleft, by rw [hword _ (by omega)]; exact hright,
      by rw [hword _ (by omega)]; exact hcost⟩

end ProbeForest.Network
