import Mathlib
import ProbeForest.Proofs.Network.Grammar
import ProbeForest.Proofs.Text.Words
import ProbeForest.Proofs.Text.Lines

/-!
# Reading connection problems

`Covers` says of a reader that starts at some position what a run can come to:
it takes the words up to a later position, none of which has a fault, or it
reports the first fault there is, at a position that is demanded.  Readers put
together from readers that do so do it again, so the reader of problems does.
Since words either write a problem or have a first fault, and never both,
nothing more is needed to know what is read from which words.

The loop over the roads runs as often as the second word says only while there
are words for it.

## Main results

* `ofWords_eq_ok_iff`, `ofWords_eq_error_iff` — what is read, and what is blamed.
* `roadsBegun_le`, `run_roads_roadsBegun` — how many roads the loop begins.
* `ofStream_exact` — both, for a stream and the words of its text.
-/

namespace ProbeForest.Network

open Text (CountLiteral SignedLiteral)

variable {α β : Type} {ts : List String} {p : Problem} {e : InputError} {i m : Nat}
variable {x : WordReader α} {P Q : Nat → α → Prop}

/-! ## Readers that cover positions -/

/-- What a reader can come to if it starts at position `i`. -/
inductive Covers (ts : List String) (i : Nat) (x : WordReader α) (post : Nat → α → Prop) :
    Prop where
  /-- It reads a value from the words up to position `j`. -/
  | reads (a : α) (j : Nat) (hrun : x.run (ts.drop i) = .ok (a, ts.drop j)) (hle : i ≤ j)
      (hsound : ∀ l, i ≤ l → l < j → Sound ts l) (hpost : post j a)
  /-- It blames position `j`. -/
  | blames (e : InputError) (j : Nat) (hrun : x.run (ts.drop i) = .error e) (hle : i ≤ j)
      (hsound : ∀ l, i ≤ l → l < j → Sound ts l) (hdemanded : Demanded ts j)
      (hfault : (slot j).Fault ts[j]? e)

namespace Covers

theorem pure {a : α} (h : P i a) : Covers ts i (Pure.pure a) P :=
  .reads a i rfl le_rfl (fun _ hle hlt => absurd hlt (Nat.not_lt.mpr hle)) h

theorem imp (h : Covers ts i x P) (himp : ∀ j a, P j a → Q j a) : Covers ts i x Q := by
  cases h with
  | reads a j hrun hle hsound hpost => exact .reads a j hrun hle hsound (himp j a hpost)
  | blames e j hrun hle hsound hdemanded hfault =>
      exact .blames e j hrun hle hsound hdemanded hfault

/-- The second reader goes on where the first one stopped. -/
theorem bind {g : α → WordReader β} {R : Nat → β → Prop} (hx : Covers ts i x P)
    (hg : ∀ a j, P j a → Covers ts j (g a) R) : Covers ts i (x >>= g) R := by
  cases hx with
  | blames e j hrun hle hsound hdemanded hfault =>
      refine .blames e j ?_ hle hsound hdemanded hfault
      rw [StateT.run_bind, hrun]
      rfl
  | reads a j hrun hle hsound hpost =>
      have hthen : (x >>= g).run (ts.drop i) = (g a).run (ts.drop j) := by
        rw [StateT.run_bind, hrun]
        rfl
      -- up to `j` the first reader has found no fault, from there on the second one
      have hboth : ∀ {k}, (∀ l, j ≤ l → l < k → Sound ts l) → ∀ l, i ≤ l → l < k → Sound ts l :=
        fun hnext l hil hlk => (Nat.lt_or_ge l j).elim (hsound l hil) fun hjl => hnext l hjl hlk
      cases hg a j hpost with
      | reads b k hrun' hle' hsound' hpost' =>
          exact .reads b k (hthen.trans hrun') (hle.trans hle') (hboth hsound') hpost'
      | blames e k hrun' hle' hsound' hdemanded hfault =>
          exact .blames e k (hthen.trans hrun') (hle.trans hle') (hboth hsound') hdemanded hfault

end Covers

/-! ## One word -/

/-- The reader takes one word, which means what it reads, or reports what is wrong with it. -/
structure ReadsOne (x : WordReader α) (s : Slot) (Means : String → α → Prop) : Prop where
  nil : x.run [] = .error (.missing s.name)
  cons : ∀ token rest,
    (∃ a, x.run (token :: rest) = .ok (a, rest) ∧ Means token a ∧
      ∀ e, ¬ s.Fault (some token) e) ∨
    ∃ e, x.run (token :: rest) = .error e ∧ s.Fault (some token) e

theorem ReadsOne.covers {s : Slot} {Means : String → α → Prop} (h : ReadsOne x s Means)
    (hslot : slot i = s) (hi : Demanded ts i) :
    Covers ts i x fun j a => j = i + 1 ∧ ∃ token ∈ ts[i]?, Means token a := by
  subst hslot
  have hempty : ∀ l, i ≤ l → l < i → Sound ts l := fun _ hle hlt =>
    absurd hlt (Nat.not_lt.mpr hle)
  cases hword : ts[i]? with
  | none =>
      have hdrop : ts.drop i = [] := List.drop_eq_nil_of_le (List.getElem?_eq_none_iff.mp hword)
      refine .blames (.missing (slot i).name) i ?_ le_rfl hempty hi ?_
      · rw [hdrop]
        exact h.nil
      · rw [hword]
        exact .missing
  | some token =>
      obtain ⟨hlt, rfl⟩ := List.getElem?_eq_some_iff.mp hword
      have hdrop : ts.drop i = ts[i] :: ts.drop (i + 1) := List.drop_eq_getElem_cons hlt
      obtain ⟨a, hrun, hmeans, hsound⟩ | ⟨e, hrun, hfault⟩ := h.cons ts[i] (ts.drop (i + 1))
      · refine .reads a (i + 1) (by rw [hdrop, hrun]) (Nat.le_succ i) ?_ ⟨rfl, ts[i], rfl, hmeans⟩
        intro l hle hlt'
        obtain rfl : l = i := by omega
        rw [Sound, hword]
        exact hsound
      · exact .blames e i (by rw [hdrop, hrun]) le_rfl hempty hi (by rwa [hword])

section Kinds

variable {read : String → Option α} {name token : String} {rest : List String}

theorem run_next_of_some {a : α} (h : read token = some a) :
    (WordReader.next read name).run (token :: rest) = .ok (a, rest) := by
  simp only [WordReader.next, StateT.run_bind, StateT.run_get, pure_bind, StateT.run_set, h]
  rfl

theorem run_next_of_none (h : read token = none) :
    (WordReader.next read name).run (token :: rest) = .error (.invalidInteger token name) := by
  simp only [WordReader.next, StateT.run_bind, StateT.run_get, pure_bind, StateT.run_set, h]
  rfl

/-- A kind that is read by reading its literals, and not judged further. -/
theorem readsOne_next {kind : Kind} (hkind : kind ≠ .total) {Means : String → α → Prop}
    (hread : ∀ token a, read token = some a ↔ Means token a)
    (hadmits : ∀ token, kind.Admits token ↔ ∃ a, Means token a) (name : String) :
    ReadsOne (WordReader.next read name) ⟨kind, name⟩ Means where
  nil := rfl
  cons token rest := by
    cases h : read token with
    | none =>
        refine .inr ⟨_, run_next_of_none h, .invalid fun hadmitted => ?_⟩
        obtain ⟨a, ha⟩ := (hadmits token).mp hadmitted
        cases h.symm.trans ((hread token a).mpr ha)
    | some a =>
        have ha := (hread token a).mp h
        exact .inl ⟨a, run_next_of_some h, ha, fun _ =>
          Slot.not_fault_of_admits hkind ((hadmits token).mpr ⟨a, ha⟩)⟩

theorem readsOne_region (name : String) :
    ReadsOne (WordReader.next Text.readCount name) ⟨.region, name⟩
      fun token n => CountLiteral token.toList n :=
  readsOne_next (by decide) (fun _ _ => Text.readCount_eq_some_iff) (fun _ => Iff.rfl) name

theorem readsOne_cost (name : String) :
    ReadsOne (WordReader.next Text.readSigned name) ⟨.cost, name⟩
      fun token v => SignedLiteral token.toList v :=
  readsOne_next (by decide) (fun _ _ => Text.readSigned_eq_some_iff) (fun _ => Iff.rfl) name

theorem run_count_of_literal {n : Nat} (h : SignedLiteral token.toList n) :
    (WordReader.count name).run (token :: rest) = .ok (n, rest) := by
  rw [WordReader.count, StateT.run_bind, run_next_of_some (Text.readSigned_eq_some_iff.mpr h)]
  rfl

/-- A total is read as a signed number and judged then. -/
theorem readsOne_total (name : String) :
    ReadsOne (WordReader.count name) ⟨.total, name⟩
      fun token n => SignedLiteral token.toList n where
  nil := rfl
  cons token rest := by
    cases h : Text.readSigned token with
    | none =>
        refine .inr ⟨.invalidInteger token name, ?_, .invalid fun hadmitted => ?_⟩
        · rw [WordReader.count, StateT.run_bind, run_next_of_none h]
          rfl
        · obtain ⟨v, hv⟩ := hadmitted
          cases h.symm.trans (Text.readSigned_eq_some_iff.mpr hv)
    | some v =>
        have hv := Text.readSigned_eq_some_iff.mp h
        cases v with
        | ofNat n =>
            exact .inl ⟨n, run_count_of_literal hv, hv, fun _ => Slot.not_fault_of_total rfl hv⟩
        | negSucc n =>
            refine .inr ⟨.negativeCount name (.negSucc n), ?_,
              .negative rfl hv (Int.negSucc_lt_zero n)⟩
            rw [WordReader.count, StateT.run_bind, run_next_of_some h]
            rfl

end Kinds

/-! ## Roads, and the whole problem -/

theorem covers_road (k : Nat) (hdemanded : ∀ i < 3 * k + 6, Demanded ts i) :
    Covers ts (3 * k + 3) (WordReader.road (k + 1)) fun j road =>
      j = 3 * k + 6 ∧ RoadAt ts k road := by
  refine ((readsOne_region _).covers (slot_left k) (hdemanded _ (by omega))).bind ?_
  rintro left _ ⟨rfl, hleft⟩
  refine ((readsOne_region _).covers (slot_right k) (hdemanded _ (by omega))).bind ?_
  rintro right _ ⟨rfl, hright⟩
  refine ((readsOne_cost _).covers (slot_cost k) (hdemanded _ (by omega))).bind ?_
  rintro cost _ ⟨rfl, hcost⟩
  exact .pure ⟨rfl, hleft, hright, hcost⟩

/-- Induction on the roads that remain; those read before are kept in front. -/
theorem covers_roads (remaining k : Nat) (acc : List Road)
    (hdemanded : ∀ i < 3 * (k + remaining) + 3, Demanded ts i) :
    Covers ts (3 * k + 3) (WordReader.roads remaining (k + 1) acc) fun _ all =>
      ∃ more, all = acc.reverse ++ more ∧ more.length = remaining ∧
        ∀ l road, more[l]? = some road → RoadAt ts (k + l) road := by
  induction remaining generalizing k acc with
  | zero => exact .pure ⟨[], (List.append_nil _).symm, rfl, nofun⟩
  | succ remaining ih =>
      refine (covers_road k fun i hi => hdemanded i (by omega)).bind ?_
      rintro road _ ⟨rfl, hroad⟩
      refine (ih (k + 1) (road :: acc) fun i hi => hdemanded i (by omega)).imp ?_
      rintro _ all ⟨more, rfl, rfl, hmore⟩
      refine ⟨road :: more, ?_, rfl, fun l road' hl => ?_⟩
      · rw [List.reverse_cons, List.append_assoc, List.singleton_append]
      · cases l with
        | zero =>
            obtain rfl := Option.some.inj hl
            exact hroad
        | succ l =>
            have hnext := hmore l road' hl
            rwa [Nat.add_assoc, Nat.add_comm 1 l] at hnext

theorem covers_problem (ts : List String) :
    Covers ts 0 WordReader.problem fun _ p => Spells ts p := by
  refine ((readsOne_total _).covers rfl (.inl (by omega))).bind ?_
  rintro n _ ⟨rfl, hregions⟩
  refine ((readsOne_total _).covers rfl (.inl (by omega))).bind ?_
  rintro m _ ⟨rfl, hcount⟩
  refine ((readsOne_cost _).covers rfl (.inl (by omega))).bind ?_
  rintro a _ ⟨rfl, hfallback⟩
  -- the roads are demanded by the number that has just been read
  have hdemanded : ∀ i < 3 * (0 + m) + 3, Demanded ts i := fun i hi =>
    .inr ⟨m, hcount, by omega⟩
  refine (covers_roads m 0 [] hdemanded).bind ?_
  rintro _ _ ⟨roads, rfl, rfl, hroads⟩
  refine .pure ⟨⟨hregions, hcount, hfallback⟩, fun k road hk => ?_⟩
  have hroad := hroads k road hk
  rwa [Nat.zero_add] at hroad

/-- Words either write the problem that is read, or are blamed for their first fault. -/
theorem ofWords_cases (ts : List String) :
    (∃ p, Problem.ofWords ts = .ok p ∧ Spells ts p) ∨
      ∃ e, Problem.ofWords ts = .error e ∧ FirstFault ts e := by
  cases covers_problem ts with
  | reads p j hrun _ _ hspells =>
      refine .inl ⟨p, ?_, hspells⟩
      rw [Problem.ofWords, ← List.drop_zero (l := ts), hrun]
      rfl
  | blames e j hrun _ hsound hdemanded hfault =>
      refine .inr ⟨e, ?_, j, hdemanded, fun l hl => hsound l (Nat.zero_le l) hl, hfault⟩
      rw [Problem.ofWords, ← List.drop_zero (l := ts), hrun]
      rfl

theorem ofWords_eq_ok_iff : Problem.ofWords ts = .ok p ↔ Spells ts p := by
  constructor
  · intro h
    obtain ⟨q, hq, hspells⟩ | ⟨e, he, _⟩ := ofWords_cases ts
    · cases h.symm.trans hq
      exact hspells
    · cases h.symm.trans he
  · intro h
    obtain ⟨q, hq, hspells⟩ | ⟨e, _, hfault⟩ := ofWords_cases ts
    · rw [hq, h.unique hspells]
    · exact absurd hfault h.not_firstFault

theorem ofWords_eq_error_iff : Problem.ofWords ts = .error e ↔ FirstFault ts e := by
  constructor
  · intro h
    obtain ⟨q, hq, _⟩ | ⟨f, hf, hfault⟩ := ofWords_cases ts
    · cases h.symm.trans hq
    · cases h.symm.trans hf
      exact hfault
  · intro h
    obtain ⟨q, _, hspells⟩ | ⟨f, hf, hfault⟩ := ofWords_cases ts
    · exact absurd h hspells.not_firstFault
    · rw [hf, h.unique hfault]

/-! ## How far the loop goes -/

theorem exists_run_of_run_bind {g : α → WordReader β} {b : β} {tokens rest : List String}
    (h : (x >>= g).run tokens = .ok (b, rest)) :
    ∃ a mid, x.run tokens = .ok (a, mid) ∧ (g a).run mid = .ok (b, rest) := by
  rw [StateT.run_bind] at h
  cases hx : x.run tokens with
  | error e =>
      rw [hx] at h
      cases h
  | ok first =>
      rw [hx] at h
      exact ⟨first.1, first.2, rfl, h⟩

theorem ReadsOne.length_eq {s : Slot} {Means : String → α → Prop} (h : ReadsOne x s Means) {a : α}
    {tokens rest : List String} (hrun : x.run tokens = .ok (a, rest)) :
    tokens.length = rest.length + 1 := by
  cases tokens with
  | nil => cases h.nil.symm.trans hrun
  | cons token tokens =>
      obtain ⟨b, hok, _⟩ | ⟨e, herror, _⟩ := h.cons token tokens
      · cases hok.symm.trans hrun
        rfl
      · cases herror.symm.trans hrun

theorem length_eq_of_run_road {number : Nat} {road : Road} {tokens rest : List String}
    (h : (WordReader.road number).run tokens = .ok (road, rest)) :
    tokens.length = rest.length + 3 := by
  obtain ⟨left, afterLeft, hleft, h⟩ := exists_run_of_run_bind h
  obtain ⟨right, afterRight, hright, h⟩ := exists_run_of_run_bind h
  obtain ⟨cost, afterCost, hcost, h⟩ := exists_run_of_run_bind h
  cases h
  have hone := (readsOne_region _).length_eq hleft
  have htwo := (readsOne_region _).length_eq hright
  have hthree := (readsOne_cost _).length_eq hcost
  omega

/-- How many roads the loop begins to read, the one with a fault included. -/
def roadsBegun : (remaining number : Nat) → List String → Nat
  | 0, _, _ => 0
  | remaining + 1, number, tokens =>
    match (WordReader.road number).run tokens with
    | .ok (_, rest) => roadsBegun remaining (number + 1) rest + 1
    | .error _ => 1

/-- Every road but the last one that is begun takes three words. -/
theorem roadsBegun_le (remaining number : Nat) (tokens : List String) :
    roadsBegun remaining number tokens ≤ tokens.length / 3 + 1 := by
  induction remaining generalizing number tokens with
  | zero => exact Nat.zero_le _
  | succ remaining ih =>
      rw [roadsBegun]
      cases hroad : (WordReader.road number).run tokens with
      | error e => exact Nat.succ_le_succ (Nat.zero_le _)
      | ok first =>
          have hlength := length_eq_of_run_road hroad
          have hrest := ih (number + 1) first.2
          change roadsBegun remaining (number + 1) first.2 + 1 ≤ _
          omega

/-- The loop needs no more rounds than it begins. -/
theorem run_roads_roadsBegun (remaining number : Nat) (acc : List Road) (tokens : List String) :
    (WordReader.roads (roadsBegun remaining number tokens) number acc).run tokens =
      (WordReader.roads remaining number acc).run tokens := by
  induction remaining generalizing number acc tokens with
  | zero => rfl
  | succ remaining ih =>
      rw [roadsBegun]
      cases hroad : (WordReader.road number).run tokens with
      | error e =>
          simp only [WordReader.roads, StateT.run_bind, hroad]
          rfl
      | ok first =>
          simp only [WordReader.roads, StateT.run_bind, hroad]
          exact ih (number + 1) (first.1 :: acc) first.2

/-- With a header in front, the loop decides. -/
theorem Header.ofWords_eq {n : Nat} {a : Int} (h : Header ts n m a) :
    Problem.ofWords ts =
      ((WordReader.roads m 1 []).run (ts.drop 3)).map fun loop => ⟨n, a, loop.1⟩ := by
  obtain ⟨⟨first, hfirst, hn⟩, ⟨second, hsecond, hm⟩, ⟨third, hthird, ha⟩⟩ := h
  obtain _ | ⟨_, _ | ⟨_, _ | ⟨_, rest⟩⟩⟩ := ts
  · cases hfirst
  · cases hsecond
  · cases hthird
  · cases hfirst
    cases hsecond
    cases hthird
    have hok {γ δ : Type} (v : γ) (g : γ → Except InputError δ) : (Except.ok v >>= g) = g v := rfl
    simp only [Problem.ofWords, WordReader.problem, StateT.run_bind, run_count_of_literal hn,
      run_count_of_literal hm, run_next_of_some (Text.readSigned_eq_some_iff.mpr ha), hok]
    change _ = Except.map _ ((WordReader.roads m 1 []).run rest)
    cases (WordReader.roads m 1 []).run rest <;> rfl

/-! ## Streams -/

/-- The stream ends, and its bytes spell a text that has these words. -/
structure Presents (s : Text.Stream) (ts : List String) : Prop where
  ends : s.failure = none
  words : ∃ t, Text.encode t = s.chunks.flatten ∧ Text.Spaced t.toList (ts.map String.toList)

theorem Presents.ofStream_eq {s : Text.Stream} (h : Presents s ts) :
    Problem.ofStream s = Problem.ofWords ts := by
  obtain ⟨t, ht, hwords⟩ := h.words
  have hread : s.readText = .ok t := by
    rw [Text.Stream.readText, Text.Stream.ending, h.ends]
    exact Text.Stream.text_eq_ok_iff.mpr ht
  rw [Problem.ofStream, hread]
  change Problem.ofText t = _
  rw [Problem.ofText, Text.words_eq_iff.mpr hwords]

/-- What reading a problem gives, told by the words of the stream. -/
structure ReadsExactly (s : Text.Stream) (ts : List String) : Prop where
  /-- The problem read is the one that the words write. -/
  ok_iff : ∀ p, Problem.ofStream s = .ok p ↔ Spells ts p
  /-- Otherwise the first position with a fault is blamed. -/
  error_iff : ∀ e, Problem.ofStream s = .error e ↔ FirstFault ts e
  /-- Nothing else of the stream matters, and no word behind the last road. -/
  ok_of_take_eq : ∀ p, Problem.ofStream s = .ok p → ∀ s' ts', Presents s' ts' →
    ts'.take (3 * p.roads.length + 3) = ts.take (3 * p.roads.length + 3) →
      Problem.ofStream s' = .ok p
  /-- However many roads are asked for, the loop begins at most one for every three words and
  one more. -/
  loop : ∀ n m a, Header ts n m a → roadsBegun m 1 (ts.drop 3) ≤ ts.length / 3 + 1 ∧
    Problem.ofStream s = ((WordReader.roads (roadsBegun m 1 (ts.drop 3)) 1 []).run
      (ts.drop 3)).map fun loop => ⟨n, a, loop.1⟩

theorem ofStream_exact {s : Text.Stream} (h : Presents s ts) : ReadsExactly s ts where
  ok_iff p := by rw [h.ofStream_eq, ofWords_eq_ok_iff]
  error_iff e := by rw [h.ofStream_eq, ofWords_eq_error_iff]
  ok_of_take_eq p hp s' ts' h' hsame := by
    rw [h.ofStream_eq, ofWords_eq_ok_iff] at hp
    rw [h'.ofStream_eq, ofWords_eq_ok_iff]
    exact hp.congr hsame
  loop n m a hheader := by
    constructor
    · have hle := roadsBegun_le m 1 (ts.drop 3)
      rw [List.length_drop] at hle
      omega
    · rw [h.ofStream_eq, run_roads_roadsBegun, hheader.ofWords_eq]

/-- A stream that breaks off inside a number and inside a line end. -/
def scattered : Text.Stream :=
  ⟨[[0x32, 0x20, 0x31, 0x20, 0x2D], [0x37, 0x0D], [0x0A, 0x31, 0x20, 0x2B, 0x32, 0x0A, 0x35],
    [0x20, 0x78]], none⟩

theorem ofStream_exact_scattered :
    Presents scattered ["2", "1", "-7", "1", "+2", "5", "x"] ∧
      ReadsExactly scattered ["2", "1", "-7", "1", "+2", "5", "x"] ∧
      Spells ["2", "1", "-7", "1", "+2", "5", "x"] ⟨2, -7, [⟨1, 2, 5⟩]⟩ := by
  have hwords : Text.words "2 1 -7\r\n1 +2\n5 x" = ["2", "1", "-7", "1", "+2", "5", "x"] := by
    decide
  have hpresents : Presents scattered ["2", "1", "-7", "1", "+2", "5", "x"] :=
    ⟨rfl, "2 1 -7\r\n1 +2\n5 x", by decide, Text.words_eq_iff.mp hwords⟩
  have hread : Problem.ofStream scattered = .ok ⟨2, -7, [⟨1, 2, 5⟩]⟩ := by
    rw [hpresents.ofStream_eq]
    rfl
  exact ⟨hpresents, ofStream_exact hpresents, ((ofStream_exact hpresents).ok_iff _).mp hread⟩

end ProbeForest.Network
