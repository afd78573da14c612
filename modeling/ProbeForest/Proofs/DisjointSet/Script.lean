import ProbeForest.Proofs.DisjointSet.Union
import ProbeForest.Proofs.Traversal

/-!
# Scripts of checked calls

A script is any sequence of searches, unions and connection tests, with
indices in range or not.  A call that meets an index out of range answers with
an error, but the paths that it compressed before stay compressed; the script
goes on from there.

The equivalence that a script stands for is generated by the pairs of those
unions whose two indices are in range.  After every script the structure
answers exactly by this equivalence, and only a union that says `true` changes
more than paths.

## Main results

* `after_sound`, `after_partition` — the run lemma: after every script the
  structure is sound, and its partition is the equivalence of the script.
* `quiet_of_not_merges` — a call that merges nothing keeps roots, ranks and count.
* `script_answers_generated` — both together, said of the answers to calls.
-/

namespace ProbeForest.DisjointSet

open ProbeForest.Partition

variable {s : DisjointSet} {a b : Nat}

/-! ## Calls -/

/-- A call on the checked surface. -/
inductive Call where
  | find (node : Nat)
  | union (left right : Nat)
  | connected (left right : Nat)
deriving DecidableEq, Repr

/-- What a call in range answers. -/
inductive Answer where
  | root (node : Nat)
  | verdict (holds : Bool)
deriving DecidableEq, Repr

namespace Call

/-- The operation that a call stands for. -/
def query : Call → Query Answer
  | find node => Answer.root <$> Query.find node
  | union left right => Answer.verdict <$> Query.union left right
  | connected left right => Answer.verdict <$> Query.connected left right

/-- The indices of a call. -/
def indices : Call → List Nat
  | find node => [node]
  | union left right | connected left right => [left, right]

/-- The answer of a call. -/
def answer (call : Call) (s : DisjointSet) : Except OutOfRange Answer := (call.query.run s).1

/-- The structure that a call leaves behind, also when it fails. -/
def leaves (call : Call) (s : DisjointSet) : DisjointSet := (call.query.run s).2

/-- The pair that a call wants to be related, if it is a union in range. -/
def pair? (size : Nat) : Call → Option (Nat × Nat)
  | union left right => if left < size ∧ right < size then some (left, right) else none
  | find _ | connected _ _ => none

end Call

/-- The structure after a script of calls that starts with singletons. -/
def after (size : Nat) (script : List Call) : DisjointSet :=
  script.foldl (fun s call => call.leaves s) (singletons size)

/-- The smallest equivalence that relates the elements of every union in range. -/
def related (size : Nat) (script : List Call) : Setoid Nat :=
  generated (script.filterMap (Call.pair? size))

theorem after_snoc (size : Nat) (script : List Call) (call : Call) :
    after size (script ++ [call]) = call.leaves (after size script) := by
  simp [after]

theorem related_snoc (size : Nat) (script : List Call) (call : Call) :
    related size (script ++ [call]) =
      mergeAll (related size script) (call.pair? size).toList := by
  rw [related, related, generated_eq_mergeAll, generated_eq_mergeAll, List.filterMap_append,
    mergeAll_append]
  cases h : call.pair? size <;> simp [h]

/-! ## What single calls do -/

theorem run_find (h : a < s.size) : (Query.find a).run s = (.ok (s.root a), (s.find a).2) := by
  show (ExceptT.run (if a < s.size then _ else _) : StateM DisjointSet _) s = _
  rw [if_pos h]
  rfl

theorem run_find_of_le (h : s.size ≤ a) : (Query.find a).run s = (.error ⟨s.size, a⟩, s) := by
  show (ExceptT.run (if a < s.size then _ else _) : StateM DisjointSet _) s = _
  rw [if_neg (by omega)]
  rfl

/-- Both searches of a call, with the structure that they leave. -/
theorem run_find_find {α : Type} (hs : Sound s) (ha : a < s.size) (hb : b < s.size)
    (next : Nat → Nat → Query α) :
    (do let x ← Query.find a; let y ← Query.find b; next x y).run s =
      (next (s.root a) (s.root b)).run (s.searched a b) := by
  have hsame := find_sameSets hs.toForest a
  have hb' : b < (s.find a).2.size := by rwa [hsame.size]
  rw [run_bind_of_ok (run_find ha), run_bind_of_ok (run_find hb'), hsame.root]
  rfl

theorem run_union (hs : Sound s) (ha : a < s.size) (hb : b < s.size) :
    (Query.union a b).run s = (.ok (s.union a b).1, (s.union a b).2) := by
  rw [Query.union, run_find_find hs ha hb, union_eq_link hs]
  rfl

theorem run_connected (hs : Sound s) (ha : a < s.size) (hb : b < s.size) :
    (Query.connected a b).run s = (.ok (s.root a == s.root b), s.searched a b) := by
  rw [Query.connected, run_find_find hs ha hb]
  rfl

/-- The first index that is out of range is the error; only what comes before it is searched. -/
theorem run_find_find_of_le {α : Type} {index : Nat} (hs : Sound s)
    (h : [a, b].find? (s.size ≤ ·) = some index) (next : Nat → Nat → Query α) :
    ∃ t, (do let x ← Query.find a; let y ← Query.find b; next x y).run s =
        (.error ⟨s.size, index⟩, t) ∧ (t = s ∨ ∃ node, t = (s.find node).2) := by
  by_cases ha : s.size ≤ a
  · obtain rfl : a = index := by simpa [ha] using h
    exact ⟨s, run_bind_of_error (run_find_of_le ha), Or.inl rfl⟩
  · have hsame := find_sameSets hs.toForest a
    obtain ⟨hb, rfl⟩ : s.size ≤ b ∧ b = index := by simpa [ha] using h
    refine ⟨(s.find a).2, ?_, Or.inr ⟨a, rfl⟩⟩
    rw [← hsame.size] at hb
    rw [run_bind_of_ok (run_find (by omega)), run_bind_of_error (run_find_of_le hb), hsame.size]

theorem run_map {α β : Type} (f : α → β) (q : Query α) (s : DisjointSet) :
    (f <$> q).run s = ((q.run s).1.map f, (q.run s).2) := by
  rw [ExceptT.run_map]
  rfl

theorem answer_find (h : a < s.size) : (Call.find a).answer s = .ok (.root (s.root a)) := by
  rw [Call.answer, Call.query, run_map, run_find h]
  rfl

theorem answer_union (hs : Sound s) (ha : a < s.size) (hb : b < s.size) :
    (Call.union a b).answer s = .ok (.verdict (s.union a b).1) := by
  rw [Call.answer, Call.query, run_map, run_union hs ha hb]
  rfl

theorem answer_connected (hs : Sound s) (ha : a < s.size) (hb : b < s.size) :
    (Call.connected a b).answer s = .ok (.verdict (s.root a == s.root b)) := by
  rw [Call.answer, Call.query, run_map, run_connected hs ha hb]
  rfl

/-! ## What a call can do -/

/-- The call is a union that has joined two sets. -/
def Call.Merges (call : Call) (s : DisjointSet) : Prop :=
  ∃ left right, call = .union left right ∧ call.answer s = .ok (.verdict true)

/-- A call that joins nothing: it asks for no new relation, and may only compress paths. -/
structure Quiet (call : Call) (s : DisjointSet) : Prop where
  sound : Sound (call.leaves s)
  sameSets : SameSets s (call.leaves s)
  related : ∀ pair ∈ call.pair? s.size, s.partition pair.1 pair.2

/-- The first index of a call that is out of range, if there is one. -/
def Call.stray? (call : Call) (size : Nat) : Option Nat := call.indices.find? (size ≤ ·)

theorem pair?_of_stray {call : Call} {size index : Nat} (h : call.stray? size = some index) :
    call.pair? size = none := by
  cases call with
  | find _ => rfl
  | connected _ _ => rfl
  | union a b =>
      have hout : size ≤ index := by simpa using List.find?_some h
      have hmem : index ∈ [a, b] := List.mem_of_find?_eq_some h
      refine if_neg ?_
      simp only [List.mem_cons, List.not_mem_nil, or_false] at hmem
      omega

/-- A call with an index out of range fails at the first such index, after one search at most. -/
theorem run_of_stray (hs : Sound s) {call : Call} {index : Nat}
    (h : call.stray? s.size = some index) :
    ∃ t, call.query.run s = (.error ⟨s.size, index⟩, t) ∧
      (t = s ∨ ∃ node, t = (s.find node).2) := by
  cases call with
  | find a =>
      obtain ⟨ha, rfl⟩ : s.size ≤ a ∧ a = index := by
        simpa [Call.stray?, Call.indices] using h
      refine ⟨s, ?_, Or.inl rfl⟩
      rw [Call.query, run_map, run_find_of_le ha]
      rfl
  | union a b =>
      obtain ⟨t, hrun, ht⟩ := run_find_find_of_le hs h fun x y => modifyGet (·.link x y)
      refine ⟨t, ?_, ht⟩
      rw [Call.query, run_map, Query.union, hrun]
      rfl
  | connected a b =>
      obtain ⟨t, hrun, ht⟩ := run_find_find_of_le hs h fun x y => pure (x == y)
      refine ⟨t, ?_, ht⟩
      rw [Call.query, run_map, Query.connected, hrun]
      rfl

/-- A call with an index out of range answers with the first such index and joins nothing. -/
theorem failing_of_stray (hs : Sound s) {call : Call} {index : Nat}
    (h : call.stray? s.size = some index) :
    call.answer s = .error ⟨s.size, index⟩ ∧ Quiet call s := by
  obtain ⟨t, hrun, ht⟩ := run_of_stray hs h
  have hleaves : call.leaves s = t := congrArg Prod.snd hrun
  have hsearched : Sound t ∧ SameSets s t := by
    rcases ht with rfl | ⟨node, rfl⟩
    · exact ⟨hs, SameSets.refl _⟩
    · exact ⟨find_sound hs node, find_sameSets hs.toForest node⟩
  exact ⟨congrArg Prod.fst hrun,
    { sound := hleaves ▸ hsearched.1
      sameSets := hleaves ▸ hsearched.2
      related := by simp [pair?_of_stray h] }⟩

theorem leaves_find (ha : a < s.size) : (Call.find a).leaves s = (s.find a).2 := by
  rw [Call.leaves, Call.query, run_map, run_find ha]

theorem quiet_find (hs : Sound s) (ha : a < s.size) : Quiet (.find a) s := by
  have hleaves := leaves_find ha
  exact
    { sound := hleaves ▸ find_sound hs a
      sameSets := hleaves ▸ find_sameSets hs.toForest a
      related := by simp [Call.pair?] }

theorem leaves_connected (hs : Sound s) (ha : a < s.size) (hb : b < s.size) :
    (Call.connected a b).leaves s = s.searched a b := by
  rw [Call.leaves, Call.query, run_map, run_connected hs ha hb]

theorem quiet_connected (hs : Sound s) (ha : a < s.size) (hb : b < s.size) :
    Quiet (.connected a b) s := by
  have hleaves := leaves_connected hs ha hb
  exact
    { sound := hleaves ▸ searched_sound hs a b
      sameSets := hleaves ▸ searched_sameSets hs a b
      related := by simp [Call.pair?] }

theorem leaves_union (hs : Sound s) (ha : a < s.size) (hb : b < s.size) :
    (Call.union a b).leaves s = (s.union a b).2 := by
  rw [Call.leaves, Call.query, run_map, run_union hs ha hb]

theorem quiet_union (hs : Sound s) (ha : a < s.size) (hb : b < s.size)
    (hrel : s.partition a b) : Quiet (.union a b) s := by
  have hleaves : (Call.union a b).leaves s = s.searched a b := by
    rw [leaves_union hs ha hb, union_of_rel hs hrel]
  exact
    { sound := hleaves ▸ searched_sound hs a b
      sameSets := hleaves ▸ searched_sameSets hs a b
      related := by
        rw [Call.pair?, if_pos ⟨ha, hb⟩]
        rintro _ ⟨⟩
        exact hrel }

/-- All that a call can do: join the sets of two elements in range, or nothing. -/
theorem quiet_or_linked (hs : Sound s) (call : Call) :
    Quiet call s ∨
      ∃ a b, call = .union a b ∧ a < s.size ∧ b < s.size ∧ ¬ s.partition a b ∧
        call.answer s = .ok (.verdict true) ∧ Linked s (call.leaves s) a b := by
  cases hstray : call.stray? s.size with
  | some index => exact Or.inl (failing_of_stray hs hstray).2
  | none =>
    have hin : ∀ index ∈ call.indices, index < s.size := by
      simpa [Call.stray?] using hstray
    cases call with
    | find a => exact Or.inl (quiet_find hs (hin a (by simp [Call.indices])))
    | connected a b =>
        obtain ⟨ha, hb⟩ : a < s.size ∧ b < s.size := by simpa [Call.indices] using hin
        exact Or.inl (quiet_connected hs ha hb)
    | union a b =>
        obtain ⟨ha, hb⟩ : a < s.size ∧ b < s.size := by simpa [Call.indices] using hin
        by_cases hrel : s.partition a b
        · exact Or.inl (quiet_union hs ha hb hrel)
        · obtain ⟨htrue, hlinked⟩ := union_of_not_rel hs ha hb hrel
          refine Or.inr ⟨a, b, rfl, ha, hb, hrel, ?_, ?_⟩
          · rw [answer_union hs ha hb, htrue]
          · rw [leaves_union hs ha hb]
            exact hlinked

/-! ## Steps and runs -/

theorem leaves_sound (hs : Sound s) (call : Call) : Sound (call.leaves s) := by
  rcases quiet_or_linked hs call with h | ⟨_, _, _, _, _, _, _, h⟩
  · exact h.sound
  · exact h.sound

theorem size_leaves (hs : Sound s) (call : Call) : (call.leaves s).size = s.size := by
  rcases quiet_or_linked hs call with h | ⟨_, _, _, _, _, _, _, h⟩
  · exact h.sameSets.size
  · exact h.size

/-- A call merges the classes of the pair that it wants related. -/
theorem partition_leaves (hs : Sound s) (call : Call) :
    (call.leaves s).partition = mergeAll s.partition (call.pair? s.size).toList := by
  rcases quiet_or_linked hs call with h | ⟨a, b, rfl, ha, hb, _, _, h⟩
  · rw [h.sameSets.partition, mergeAll_of_rel]
    simpa using h.related
  · rw [h.partition, Call.pair?, if_pos ⟨ha, hb⟩]
    rfl

/-- A call that merges nothing keeps all roots and ranks and the number of sets. -/
theorem quiet_of_not_merges (hs : Sound s) {call : Call} (h : ¬ call.Merges s) :
    Quiet call s := by
  rcases quiet_or_linked hs call with hq | ⟨a, b, rfl, _, _, _, htrue, _⟩
  · exact hq
  · exact absurd ⟨a, b, rfl, htrue⟩ h

section Invariant

variable {P : DisjointSet → Prop} (hsound : ∀ s, P s → Sound s)
  (hfind : ∀ s node, P s → P (s.find node).2)
  (hunion : ∀ s a b, P s → a < s.size → b < s.size → P (s.union a b).2)

include hsound hfind hunion

/-- What searches keep, and unions of elements in range, is kept by every call. -/
theorem invariant_leaves (call : Call) (h : P s) : P (call.leaves s) := by
  have hs := hsound s h
  cases hstray : call.stray? s.size with
  | some index =>
    obtain ⟨t, hrun, ht⟩ := run_of_stray hs hstray
    rw [Call.leaves, hrun]
    rcases ht with rfl | ⟨node, rfl⟩
    · exact h
    · exact hfind s node h
  | none =>
    have hin : ∀ index ∈ call.indices, index < s.size := by
      simpa [Call.stray?] using hstray
    cases call with
    | find a =>
        rw [leaves_find (hin a (by simp [Call.indices]))]
        exact hfind s a h
    | connected a b =>
        obtain ⟨ha, hb⟩ : a < s.size ∧ b < s.size := by simpa [Call.indices] using hin
        rw [leaves_connected hs ha hb]
        exact hfind _ b (hfind s a h)
    | union a b =>
        obtain ⟨ha, hb⟩ : a < s.size ∧ b < s.size := by simpa [Call.indices] using hin
        rw [leaves_union hs ha hb]
        exact hunion s a b h ha hb

theorem invariant_after (size : Nat) (h : P (singletons size)) (script : List Call) :
    P (after size script) := by
  induction script using List.reverseRecOn with
  | nil => exact h
  | append_singleton script call ih =>
      rw [after_snoc]
      exact invariant_leaves hsound hfind hunion call ih

end Invariant

theorem after_sound (size : Nat) (script : List Call) :
    Sound (after size script) ∧ (after size script).size = size := by
  induction script using List.reverseRecOn with
  | nil => exact ⟨sound_singletons size, size_singletons size⟩
  | append_singleton script call ih =>
      rw [after_snoc]
      exact ⟨leaves_sound ih.1 call, (size_leaves ih.1 call).trans ih.2⟩

/-- After a script, the sets are the classes of the equivalence of the script. -/
theorem after_partition (size : Nat) (script : List Call) :
    (after size script).partition = related size script := by
  induction script using List.reverseRecOn with
  | nil =>
      rw [related, generated_eq_mergeAll]
      exact partition_singletons size
  | append_singleton script call ih =>
      obtain ⟨hs, hsize⟩ := after_sound size script
      rw [after_snoc, related_snoc, partition_leaves hs, ih, hsize]

/-! ## Answers by an equivalence -/

open Classical in
/-- Disjoint sets of `size` elements that answer every call by the equivalence `r`. -/
structure AnswersBy (size : Nat) (r : Setoid Nat) (s : DisjointSet) : Prop where
  /-- The count is the number of classes. -/
  count : s.components = classCount r (Finset.range size)
  /-- A search finds a member of the class, which is found again from itself. -/
  find : ∀ a, a < size → ∃ root, (Call.find a).answer s = .ok (.root root) ∧ root < size ∧
    r a root ∧ (Call.find root).answer ((Call.find a).leaves s) = .ok (.root root)
  /-- Two searches find the same element exactly within one class. -/
  find_eq : ∀ a b, a < size → b < size →
    ((Call.find a).answer s = (Call.find b).answer ((Call.find a).leaves s) ↔ r a b)
  /-- A union says whether its elements were unrelated. -/
  union : ∀ a b, a < size → b < size →
    (Call.union a b).answer s = .ok (.verdict (decide ¬ r a b))
  /-- A union of unrelated elements takes one from the count. -/
  union_count : ∀ a b, a < size → b < size → ¬ r a b →
    ((Call.union a b).leaves s).components + 1 = s.components
  /-- A connection test says whether its elements are related. -/
  connected : ∀ a b, a < size → b < size →
    (Call.connected a b).answer s = .ok (.verdict (decide (r a b)))
  /-- A call with an index out of range fails at the first such index. -/
  stray : ∀ call index, Call.stray? call size = some index →
    call.answer s = .error ⟨size, index⟩

/-- A sound structure answers by its own partition. -/
theorem Sound.answersBy (hs : Sound s) : AnswersBy s.size s.partition s where
  count := hs.components_eq
  find a ha := by
    have hroot := hs.root_lt ha
    have hsame := (quiet_find hs ha).sameSets
    refine ⟨s.root a, answer_find ha, hroot, (hs.root_root a).symm, ?_⟩
    rw [answer_find (by rwa [hsame.size]), hsame.root, hs.root_root]
  find_eq a b ha hb := by
    have hsame := (quiet_find hs ha).sameSets
    rw [answer_find ha, answer_find (by rwa [hsame.size]), hsame.root, partition_rel]
    simp
  union a b ha hb := by
    rw [answer_union hs ha hb, union_fst hs ha hb]
  union_count a b ha hb hrel := by
    rw [leaves_union hs ha hb]
    exact (union_of_not_rel hs ha hb hrel).2.components
  connected a b ha hb := by
    rw [answer_connected hs ha hb]
    simp only [partition_rel, beq_eq_decide]
  stray call index h := (failing_of_stray hs h).1

/-- After any script of calls, in range or not, the structure answers every next call by the
smallest equivalence that relates the elements of all unions in range.  A next call that is no
union of unrelated elements, one that fails included, leaves the equivalence, all roots and
ranks and the count as they are. -/
theorem script_answers_generated (size : Nat) (script : List Call) :
    AnswersBy size (related size script) (after size script) ∧
      ∀ call, ¬ Call.Merges call (after size script) →
        related size (script ++ [call]) = related size script ∧
          SameSets (after size script) (after size (script ++ [call])) := by
  obtain ⟨hs, hsize⟩ := after_sound size script
  have hpartition := after_partition size script
  constructor
  · have hanswers := hs.answersBy
    rwa [hsize, hpartition] at hanswers
  · intro call hcall
    have hquiet := quiet_of_not_merges hs hcall
    rw [after_snoc]
    refine ⟨?_, hquiet.sameSets⟩
    rw [← after_partition, after_snoc, hquiet.sameSets.partition, hpartition]

/-- A union with one index out of range fails, and no set changes. -/
theorem script_answers_generated_stray :
    ¬ Call.Merges (.union 1 7) (after 3 [.union 0 1]) ∧
      related 3 ([.union 0 1] ++ [.union 1 7]) = related 3 [.union 0 1] ∧
      SameSets (after 3 [.union 0 1]) (after 3 ([.union 0 1] ++ [.union 1 7])) := by
  have hquiet : ¬ Call.Merges (.union 1 7) (after 3 [.union 0 1]) := by
    rintro ⟨_, _, _, htrue⟩
    exact absurd htrue (by decide)
  exact ⟨hquiet, (script_answers_generated 3 [.union 0 1]).2 (.union 1 7) hquiet⟩

end ProbeForest.DisjointSet
