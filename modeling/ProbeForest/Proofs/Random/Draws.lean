import Mathlib
import ProbeForest.Random.Uniform

/-!
# Draws stay in their range

A draw of an index takes the first word of the generator that is accepted for
the size of the range.  The index is the high half of a product of a word and
the size, so it is below the size, whatever the word was.  To add it to the
lower end of a range and wrap around does no harm then: the sum is in the
range, and the range fits the width.

A draw gives up after as many words as the generator has states.  By then the
states repeat, so it gives up only if it would reject words for ever.  This is
the only way in which a draw has no result: `Yields` says of a draw that its
result is good, or that the generator stalls.

## Main results

* `run_indexWithin_cases` — an index is drawn by the first word that is accepted.
* `not_accepts_of_run_indexWithin` — a draw that gives up would never end.
* `Yields.bind`, `Yields.many` — draws one after another.
* `yields_wordBetween`, `yields_pick`, `yields_signedBetween` — draws from a range.
* `run_many_take` — fewer draws give the first of the results.
-/

namespace ProbeForest.Random

variable {α β : Type} {w : Width} {g : Generator} {size fuel : Nat}

/-! ## The words of a generator -/

/-- The generator after `n` words. -/
def Generator.skip (g : Generator) (n : Nat) : Generator := (fun g => g.next.2)^[n] g

/-- The word that follows after `n` words. -/
def Width.word (w : Width) (g : Generator) (n : Nat) : Nat := (w.next (g.skip n)).1

theorem skip_skip (g : Generator) (m n : Nat) : (g.skip m).skip n = g.skip (m + n) := by
  rw [Nat.add_comm]
  exact (Function.iterate_add_apply _ n m g).symm

theorem word_skip (w : Width) (g : Generator) (m n : Nat) :
    w.word (g.skip m) n = w.word g (m + n) := by
  rw [Width.word, skip_skip, Width.word]

/-- Draws of either width take one word from the generator. -/
theorem next_eq (w : Width) (g : Generator) : w.next g = (w.word g 0, g.skip 1) := by
  cases w <;> rfl

theorem word_lt (w : Width) (g : Generator) (n : Nat) : w.word g n < w.modulus := by
  cases w with
  | full => exact UInt64.toNat_lt _
  | half =>
      have hlt := UInt64.toNat_lt (g.skip n).next.1
      show (g.skip n).next.1.toNat / 2 ^ 32 < 2 ^ 32
      omega

/-! ## States repeat -/

/-- The four words of the state. -/
def Generator.code (g : Generator) :
    Fin UInt64.size × Fin UInt64.size × Fin UInt64.size × Fin UInt64.size :=
  (g.s0.toFin, g.s1.toFin, g.s2.toFin, g.s3.toFin)

theorem code_injective : Function.Injective Generator.code := by
  intro g g' h
  simp only [Generator.code, Prod.mk.injEq, UInt64.toFin_inj] at h
  obtain ⟨h0, h1, h2, h3⟩ := h
  cases g
  cases g'
  simp_all

/-- Among more states than a generator can have, two are the same. -/
theorem exists_skip_eq (g : Generator) :
    ∃ first later, first < later ∧ later ≤ patience ∧ g.skip first = g.skip later := by
  have hcard :
      Fintype.card (Fin UInt64.size × Fin UInt64.size × Fin UInt64.size × Fin UInt64.size) <
        Fintype.card (Fin (patience + 1)) := by
    simp only [Fintype.card_prod, Fintype.card_fin]
    decide
  obtain ⟨i, j, hne, hcode⟩ := Fintype.exists_ne_map_eq_of_card_lt
    (fun n : Fin (patience + 1) => (g.skip n).code) hcard
  have hskip : g.skip i = g.skip j := code_injective hcode
  rcases lt_or_gt_of_ne hne with hlt | hlt
  · exact ⟨i, j, hlt, Nat.le_of_lt_succ j.isLt, hskip⟩
  · exact ⟨j, i, hlt, Nat.le_of_lt_succ i.isLt, hskip.symm⟩

/-- Every state that a generator comes to is one of the first. -/
theorem exists_skip_lt_patience (g : Generator) (n : Nat) :
    ∃ m < patience, g.skip m = g.skip n := by
  induction n using Nat.strong_induction_on with
  | _ n ih =>
      by_cases hn : n < patience
      · exact ⟨n, hn, rfl⟩
      · obtain ⟨first, later, hlt, hle, heq⟩ := exists_skip_eq g
        obtain ⟨k, rfl⟩ : ∃ k, n = later + k := Nat.exists_eq_add_of_le (by omega)
        obtain ⟨m, hm, hskip⟩ := ih (first + k) (by omega)
        exact ⟨m, hm, by rw [hskip, ← skip_skip, heq, skip_skip]⟩

/-! ## Indices -/

/-- A word is accepted for a range of `size` values. -/
def Width.Accepts (w : Width) (size word : Nat) : Prop := word * size % w.modulus ≤ w.zone size

instance (w : Width) (size word : Nat) : Decidable (w.Accepts size word) :=
  inferInstanceAs (Decidable (_ ≤ _))

theorem run_indexWithin_succ (w : Width) (size fuel : Nat) (g : Generator) :
    (indexWithin w size (fuel + 1)).run g =
      if w.Accepts size (w.word g 0) then some (w.word g 0 * size / w.modulus, g.skip 1)
      else (indexWithin w size fuel).run (g.skip 1) := by
  have hnext : (modifyGet w.next : Draw Nat).run g = some (w.word g 0, g.skip 1) :=
    congrArg some (next_eq w g)
  rw [indexWithin, StateT.run_bind, hnext]
  show (if w.Accepts size (w.word g 0) then _ else _ : Draw Nat).run (g.skip 1) = _
  split
  · rfl
  · rfl

/-- An index is drawn by the first word that is accepted, if there is one among those that are
looked at. -/
theorem run_indexWithin_cases (w : Width) (size fuel : Nat) (g : Generator) :
    (∃ n < fuel, (∀ m < n, ¬ w.Accepts size (w.word g m)) ∧ w.Accepts size (w.word g n) ∧
      (indexWithin w size fuel).run g =
        some (w.word g n * size / w.modulus, g.skip (n + 1))) ∨
    ((∀ n < fuel, ¬ w.Accepts size (w.word g n)) ∧ (indexWithin w size fuel).run g = none) := by
  induction fuel generalizing g with
  | zero => exact Or.inr ⟨fun n hn => absurd hn (Nat.not_lt_zero n), rfl⟩
  | succ fuel ih =>
      rw [run_indexWithin_succ]
      by_cases hfirst : w.Accepts size (w.word g 0)
      · rw [if_pos hfirst]
        exact Or.inl ⟨0, Nat.succ_pos fuel, fun m hm => absurd hm (Nat.not_lt_zero m), hfirst, rfl⟩
      · -- What is true of the words behind the first one is true of all of them.
        have hbehind : ∀ n, (∀ m < n, ¬ w.Accepts size (w.word (g.skip 1) m)) →
            ∀ m < n + 1, ¬ w.Accepts size (w.word g m) := by
          intro n hn m hm
          cases m with
          | zero => exact hfirst
          | succ m =>
              have hrejected := hn m (by omega)
              rwa [word_skip, Nat.add_comm] at hrejected
        rw [if_neg hfirst]
        rcases ih (g.skip 1) with ⟨n, hn, hbefore, haccepted, hrun⟩ | ⟨hnone, hrun⟩
        · rw [word_skip, Nat.add_comm] at haccepted
          refine Or.inl ⟨n + 1, Nat.succ_lt_succ hn, hbehind n hbefore, haccepted, ?_⟩
          rw [hrun, word_skip, skip_skip, Nat.add_comm 1, Nat.add_comm 1]
        · exact Or.inr ⟨hbehind fuel hnone, hrun⟩

/-- A draw that gives up would go on to reject words for ever. -/
theorem not_accepts_of_run_indexWithin (h : (indexWithin w size patience).run g = none) (n : Nat) :
    ¬ w.Accepts size (w.word g n) := by
  rcases run_indexWithin_cases w size patience g with ⟨_, _, _, _, hrun⟩ | ⟨hnone, _⟩
  · rw [hrun] at h
    cases h
  · obtain ⟨m, hm, hskip⟩ := exists_skip_lt_patience g n
    have hword : w.word g m = w.word g n := by
      rw [Width.word, hskip, Width.word]
    rw [← hword]
    exact hnone m hm

/-- The high half of a product with the size is below the size. -/
theorem index_lt (w : Width) (g : Generator) (n : Nat) (hsize : 0 < size) :
    w.word g n * size / w.modulus < size := by
  have hword := word_lt w g n
  apply Nat.div_lt_of_lt_mul
  exact Nat.mul_lt_mul_of_pos_right hword hsize

/-! ## What draws yield -/

/-- From some point on, the generator gives only words that are rejected for some range. -/
def Generator.Stalls (g : Generator) : Prop :=
  ∃ (w : Width) (size start : Nat), 0 < size ∧ size < w.modulus ∧
    ∀ n, start ≤ n → ¬ w.Accepts size (w.word g n)

theorem Generator.Stalls.of_skip {n : Nat} (h : (g.skip n).Stalls) : g.Stalls := by
  obtain ⟨w, size, start, hpos, hlt, hrejected⟩ := h
  refine ⟨w, size, n + start, hpos, hlt, fun m hm => ?_⟩
  obtain ⟨k, rfl⟩ := Nat.exists_eq_add_of_le hm
  have hbehind := hrejected (start + k) (Nat.le_add_right _ _)
  rwa [word_skip, ← Nat.add_assoc] at hbehind

/-- A draw whose results are good, and which ends unless the generator stalls. -/
def Yields (draw : Draw α) (good : α → Prop) : Prop :=
  ∀ g : Generator, (∃ a n, draw.run g = some (a, g.skip n) ∧ good a) ∨
    (draw.run g = none ∧ g.Stalls)

namespace Yields

variable {draw : Draw α} {next : α → Draw β} {good good' : α → Prop} {good'' : β → Prop} {a : α}

theorem pure (h : good a) : Yields (pure a : Draw α) good := by
  intro g
  exact Or.inl ⟨a, 0, rfl, h⟩

theorem imp (h : Yields draw good) (himp : ∀ a, good a → good' a) : Yields draw good' := by
  intro g
  rcases h g with ⟨a, n, hrun, ha⟩ | hnone
  · exact Or.inl ⟨a, n, hrun, himp a ha⟩
  · exact Or.inr hnone

theorem bind (h : Yields draw good) (hnext : ∀ a, good a → Yields (next a) good'') :
    Yields (draw >>= next) good'' := by
  intro g
  rw [StateT.run_bind]
  rcases h g with ⟨a, n, hrun, ha⟩ | ⟨hrun, hstalls⟩
  · rw [hrun]
    rcases hnext a ha (g.skip n) with ⟨b, m, hrun', hb⟩ | ⟨hrun', hstalls⟩
    · rw [skip_skip] at hrun'
      exact Or.inl ⟨b, n + m, hrun', hb⟩
    · exact Or.inr ⟨hrun', hstalls.of_skip⟩
  · rw [hrun]
    exact Or.inr ⟨rfl, hstalls⟩

/-- Many draws of one kind yield as many good results. -/
theorem many (h : Yields draw good) (n : Nat) :
    Yields ((List.replicate n ()).mapM fun _ => draw) fun results =>
      results.length = n ∧ ∀ a ∈ results, good a := by
  induction n with
  | zero => exact pure ⟨rfl, by simp⟩
  | succ n ih =>
      rw [List.replicate_succ, List.mapM_cons]
      apply h.bind
      intro first hfirst
      apply ih.bind
      intro rest hrest
      obtain ⟨hlength, hgood⟩ := hrest
      apply pure
      constructor
      · rw [List.length_cons, hlength]
      · simpa using ⟨hfirst, hgood⟩

end Yields

/-- The first of many draws of one kind, and the others behind it. -/
theorem run_many_succ_iff {draw : Draw α} {results : List α} {g' : Generator} {n : Nat} :
    ((List.replicate (n + 1) ()).mapM fun _ => draw).run g = some (results, g') ↔
      ∃ first between rest, draw.run g = some (first, between) ∧
        ((List.replicate n ()).mapM fun _ => draw).run between = some (rest, g') ∧
        results = first :: rest := by
  rw [List.replicate_succ, List.mapM_cons]
  simp only [StateT.run_bind, StateT.run_pure, Option.bind_eq_bind, Option.bind_eq_some_iff,
    Option.pure_def, Option.some_inj, Prod.exists, Prod.mk.injEq]
  constructor
  · rintro ⟨first, between, hfirst, rest, _, hrest, rfl, rfl⟩
    exact ⟨first, between, rest, hfirst, hrest, rfl⟩
  · rintro ⟨first, between, rest, hfirst, hrest, rfl⟩
    exact ⟨first, between, hfirst, rest, g', hrest, rfl, rfl⟩

/-- Fewer draws of one kind give the first of the results. -/
theorem run_many_take {draw : Draw α} {results : List α} {g' : Generator} {n k : Nat}
    (h : ((List.replicate n ()).mapM fun _ => draw).run g = some (results, g')) (hle : k ≤ n) :
    ∃ g'', ((List.replicate k ()).mapM fun _ => draw).run g = some (results.take k, g'') := by
  induction n generalizing g results k with
  | zero =>
      obtain rfl : k = 0 := by omega
      exact ⟨g, rfl⟩
  | succ n ih =>
      cases k with
      | zero => exact ⟨g, rfl⟩
      | succ k =>
          obtain ⟨first, between, rest, hfirst, hrest, rfl⟩ := run_many_succ_iff.mp h
          obtain ⟨g'', htake⟩ := ih hrest (Nat.le_of_succ_le_succ hle)
          exact ⟨g'', run_many_succ_iff.mpr ⟨first, between, rest.take k, hfirst, htake, rfl⟩⟩

/-! ## Ranges -/

theorem modulus_pos (w : Width) : 0 < w.modulus := Nat.pos_of_ne_zero (by cases w <;> decide)

theorem yields_next (w : Width) : Yields (modifyGet w.next) fun word => word < w.modulus := by
  intro g
  exact Or.inl ⟨w.word g 0, 1, congrArg some (next_eq w g), word_lt w g 0⟩

/-- An index is below the size of its range. -/
theorem yields_indexWithin (hpos : 0 < size) (hlt : size < w.modulus) :
    Yields (indexWithin w size patience) fun index => index < size := by
  intro g
  rcases run_indexWithin_cases w size patience g with ⟨n, _, _, _, hrun⟩ | ⟨_, hrun⟩
  · exact Or.inl ⟨_, n + 1, hrun, index_lt w g n hpos⟩
  · refine Or.inr ⟨hrun, w, size, 0, hpos, hlt, ?_⟩
    intro n _
    exact not_accepts_of_run_indexWithin hrun n

/-- A draw from a range gives a word as it is, if the size wraps to zero, or else a wrapped sum. -/
theorem yields_wordBetween_of {low high : Nat} {good : Nat → Prop}
    (hall : (high + 1 - low) % w.modulus = 0 → ∀ word < w.modulus, good word)
    (hpart : ∀ index < (high + 1 - low) % w.modulus, good ((low + index) % w.modulus)) :
    Yields (wordBetween w low high) good := by
  unfold wordBetween
  dsimp only
  split
  · next hzero => exact (yields_next w).imp (hall hzero)
  · next hsize =>
      apply (yields_indexWithin (Nat.pos_of_ne_zero hsize) (Nat.mod_lt _ (modulus_pos w))).bind
      intro index hindex
      exact .pure (hpart index hindex)

/-- A word that is drawn from a range is in the range. -/
theorem yields_wordBetween {low high : Nat} (hle : low ≤ high) (hhigh : high < w.modulus) :
    Yields (wordBetween w low high) fun word => low ≤ word ∧ word ≤ high := by
  apply yields_wordBetween_of
  · intro hzero word hword
    have hmultiple := Nat.dvd_of_mod_eq_zero hzero
    have hall : w.modulus ≤ high + 1 - low := Nat.le_of_dvd (by omega) hmultiple
    omega
  · intro index hindex
    have hpart := Nat.mod_le (high + 1 - low) w.modulus
    rw [Nat.mod_eq_of_lt (by omega)]
    omega

/-- An index that is picked is below the size, whatever the width and even if the size does not
fit it. -/
theorem yields_pick (hpos : 0 < size) : Yields (pick size) fun index => index < size := by
  have hsize : size - 1 + 1 - 0 = size := by omega
  apply yields_wordBetween_of
  · rw [hsize]
    intro hzero word hword
    have hall := Nat.le_of_dvd hpos (Nat.dvd_of_mod_eq_zero hzero)
    omega
  · rw [hsize]
    intro index hindex
    have hpart := Nat.mod_le size (indexWidth size).modulus
    have hwrap := Nat.mod_le (0 + index) (indexWidth size).modulus
    omega

/-- A signed number that is drawn from a range is in the range, for all ends of 64 bits. -/
theorem yields_signedBetween {low high : Int} (hlow : -2 ^ 63 ≤ low) (hle : low ≤ high)
    (hhigh : high < 2 ^ 63) :
    Yields (signedBetween low high) fun x => low ≤ x ∧ x ≤ high := by
  have hmodulus : Width.full.modulus = 2 ^ 64 := rfl
  unfold signedBetween
  dsimp only
  split
  · next hzero =>
      -- The range has all numbers of 64 bits.
      apply (yields_next .full).bind
      intro word _
      apply Yields.pure
      have hlo := Int.le_bmod (x := word) (m := Width.full.modulus) (by decide)
      have hhi := Int.bmod_lt (x := word) (m := Width.full.modulus) (by decide)
      rw [hmodulus] at hzero hlo hhi ⊢
      omega
  · next hsize =>
      apply (yields_indexWithin (Nat.pos_of_ne_zero hsize) (by rw [hmodulus]; omega)).bind
      intro index hindex
      apply Yields.pure
      rw [hmodulus] at hindex
      have hsum : Int.bmod (low + index) Width.full.modulus = low + index := by
        apply Int.bmod_eq_of_le
        · rw [hmodulus]
          omega
        · rw [hmodulus]
          omega
      rw [hsum]
      omega

end ProbeForest.Random
