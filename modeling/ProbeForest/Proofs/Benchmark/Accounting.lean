import ProbeForest.Proofs.Benchmark.Batches
import ProbeForest.Proofs.Table.Series

/-!
# What a benchmark accounts for

The insertions of a benchmark fill its table with the leading words, as many
as it has slots, and how they are cut into batches does not show in the table.
A deletion finds its word if a copy of it is left.  So all counts of a report
can be told from the settings and the words alone, and the statistics are
those of probe counts below the number of slots.

## Main results

* `Config.check_eq_ok_iff`, `Config.Fits.slices` — settings pass the check
  exactly if they fit, and then every range that is read lies in the words.
* `Config.keys_filled` — the table before the deletions.
* `ProbeStats.summarizes_of_ofCounts?` — least and largest counts.
* `report_accountable` — the account.
-/

namespace ProbeForest.Benchmark

open Table (Probe TableError insertAll eraseAll removals ofCapacity)

variable {c : Config} {words : List String}

/-! ## Settings that fit -/

/-- The settings fit a list of `available` words. -/
structure Config.Fits (c : Config) (available : Nat) : Prop where
  batchSize_pos : 0 < c.batchSize
  enough : c.wordCount ≤ available
  ordered : c.deleteStart ≤ c.deleteEnd
  inside : c.deleteEnd < c.wordCount

theorem Config.check_eq_ok_iff {available : Nat} :
    c.check available = .ok () ↔ c.Fits available := by
  unfold check
  constructor
  · intro h
    split_ifs at h with hsize henough hrange
    exact ⟨by omega, by omega, by omega, by omega⟩
  · rintro ⟨hsize, henough, hordered, hinside⟩
    rw [if_neg (by omega), if_neg (by omega), if_neg (by omega)]

/-- The items of a range that goes up to `stop` and leaves `stop` out; there are none unless the
ends are in order and the list is long enough. -/
def slice? {α : Type} (items : List α) (start stop : Nat) : Option (List α) :=
  if start ≤ stop ∧ stop ≤ items.length then some ((items.take stop).drop start) else none

/-- The ranges that a run reads lie in the words. -/
structure Slices (c : Config) (words : List String) : Prop where
  /-- The words to insert are a range, which is cut by a size that is not zero. -/
  inserted : slice? words 0 c.wordCount = some (words.take c.wordCount)
  size_ne_zero : c.batchSize ≠ 0
  /-- The words to delete are a range, and its last index can be counted up. -/
  deleted : slice? words c.deleteStart (c.deleteEnd + 1) = some (c.deleted words)
  length_deleted : (c.deleted words).length = c.deleteEnd - c.deleteStart + 1

theorem Config.Fits.slices (h : c.Fits words.length) : Slices c words := by
  obtain ⟨hsize, henough, hordered, hinside⟩ := h
  refine ⟨?_, Nat.ne_of_gt hsize, ?_, ?_⟩
  · rw [slice?, if_pos ⟨Nat.zero_le _, henough⟩, List.drop_zero]
  · rw [slice?, if_pos ⟨by omega, by omega⟩, deleted]
  · rw [deleted, List.length_drop, List.length_take]
    omega

/-! ## Counting answers -/

theorem length_successes (answers : List (Except TableError Probe)) :
    (successes answers).length = answers.countP Except.isOk := by
  rw [successes, List.length_filterMap_eq_countP]
  refine List.countP_congr fun answer _ => ?_
  cases answer <;> rfl

theorem mem_successes {answers : List (Except TableError Probe)} {probe : Probe} :
    probe ∈ successes answers ↔ .ok probe ∈ answers := by
  rw [successes, List.mem_filterMap]
  constructor
  · rintro ⟨answer, hmem, heq⟩
    cases answer with
    | ok found =>
        obtain rfl := Option.some.inj heq
        exact hmem
    | error e => cases heq
  · intro hmem
    exact ⟨.ok probe, hmem, rfl⟩

/-- Every operation of a list has succeeded or was refused. -/
theorem length_successes_add_refusals (answers : List (Except TableError Probe)) :
    (successes answers).length + Run.refusals answers = answers.length := by
  have hle : (successes answers).length ≤ answers.length := List.length_filterMap_le _ _
  rw [Run.refusals]
  omega

theorem refusals_eq_countP (answers : List (Except TableError Probe)) :
    Run.refusals answers = answers.countP fun answer => !answer.isOk := by
  have hsplit := List.length_eq_countP_add_countP (l := answers) Except.isOk
  have hsum := length_successes_add_refusals answers
  rw [length_successes] at hsum
  simp only [Bool.not_eq_true, Bool.decide_eq_false] at hsplit
  omega

/-- Refusals may be counted part by part. -/
theorem sum_refusals (parts : List (List (Except TableError Probe))) :
    (parts.map Run.refusals).foldl (· + ·) 0 = Run.refusals parts.flatten := by
  rw [refusals_eq_countP, List.countP_flatten, ← List.sum_eq_foldl]
  congr 1
  exact List.map_congr_left fun part _ => refusals_eq_countP part

/-! ## The run -/

/-- The table that the insertions leave. -/
def Config.filled (c : Config) (words : List String) : Table :=
  ((insertAll (words.take c.wordCount)).run (ofCapacity c.capacity)).2

/-- How the words are cut into batches does not show in the answers, and not in the table. -/
theorem Config.execute_eq (hsize : 0 < c.batchSize) (words : List String) :
    (c.execute words).batches.flatten =
        ((insertAll (words.take c.wordCount)).run (ofCapacity c.capacity)).1 ∧
      (c.execute words).deletions = ((eraseAll (c.deleted words)).run (c.filled words)).1 := by
  have hrun := run_mapM_mapM (fun key (t : Table) => t.insert key) (c.batches words)
    (ofCapacity c.capacity)
  rw [batches, flatten_batchesOf hsize] at hrun
  have hanswers := congrArg Prod.fst hrun
  have htable := congrArg Prod.snd hrun
  refine ⟨hanswers, ?_⟩
  exact congrArg (fun t => ((eraseAll (c.deleted words)).run t).1) htable

theorem Config.map_length_execute (c : Config) (words : List String) :
    (c.execute words).batches.map List.length = (c.batches words).map List.length :=
  map_length_run_mapM_mapM (fun key (t : Table) => t.insert key) (c.batches words)
    (ofCapacity c.capacity)

theorem Config.length_deletions (hsize : 0 < c.batchSize) (words : List String) :
    (c.execute words).deletions.length = (c.deleted words).length := by
  rw [(c.execute_eq hsize words).2]
  exact length_run_mapM _ _ _

section Table

variable (c : Config) (words : List String)

theorem Config.room_ofCapacity : (ofCapacity c.capacity).room = c.capacity.slots := by
  rw [Table.room, Table.capacity_ofCapacity]
  rfl

theorem Config.wellFormed_filled :
    (c.filled words).WellFormed ∧ (c.filled words).capacity = c.capacity.slots := by
  have hfilled := Table.wellFormed_insertAll (Table.wellFormed_ofCapacity c.capacity)
    (words.take c.wordCount)
  rwa [Table.capacity_ofCapacity] at hfilled

/-- The table is filled with the leading words, as long as it has room. -/
theorem Config.keys_filled :
    (c.filled words).keys.Perm (words.take (min c.wordCount c.capacity.slots)) := by
  have hkeys := (Table.wellFormed_ofCapacity c.capacity).keys_insertAll_take
    (words.take c.wordCount)
  rwa [room_ofCapacity, List.take_take, Nat.min_comm, Table.keys_ofCapacity,
    List.append_nil] at hkeys

end Table

/-- How many deletions of a word succeed. -/
def Config.deletionsOf (c : Config) (words : List String) (word : String) : Nat :=
  removals word (c.deleted words) (c.execute words).deletions

/-- A word is deleted as often as it is to be deleted, or as often as it is stored. -/
theorem Config.deletionsOf_eq (hsize : 0 < c.batchSize) (words : List String) (word : String) :
    c.deletionsOf words word =
      min ((words.take (min c.wordCount c.capacity.slots)).count word)
        ((c.deleted words).count word) := by
  rw [deletionsOf, (c.execute_eq hsize words).2,
    (c.wellFormed_filled words).1.removals_eraseAll, (c.keys_filled words).count_eq, Nat.min_comm]

/-- With a slot for every word, all words that are to be deleted are found. -/
theorem Config.refusals_deletions_eq_zero (h : c.Fits words.length)
    (hroom : c.wordCount ≤ c.capacity.slots) : Run.refusals (c.execute words).deletions = 0 := by
  rw [refusals_eq_countP, List.countP_eq_zero, (c.execute_eq h.batchSize_pos words).2]
  intro answer hmem
  have henough : ∀ word, (c.deleted words).count word ≤ (c.filled words).keys.count word := by
    intro word
    rw [(c.keys_filled words).count_eq, Nat.min_eq_left hroom]
    have hsublist : (c.deleted words).Sublist (words.take c.wordCount) :=
      (List.drop_sublist _ _).trans (List.take_prefix_take_left h.inside).sublist
    exact hsublist.count_le word
  rw [(c.wellFormed_filled words).1.isOk_of_mem_eraseAll henough hmem]
  decide

/-- The probe counts of the deletions that succeeded. -/
def Run.probeCounts (r : Run) : List Nat := (successes r.deletions).map (·.probes)

theorem Config.lt_of_mem_probeCounts (hsize : 0 < c.batchSize) {count : Nat}
    (hmem : count ∈ (c.execute words).probeCounts) : count < c.capacity.slots := by
  obtain ⟨probe, hprobe, rfl⟩ := List.mem_map.mp hmem
  obtain ⟨hwell, hcapacity⟩ := c.wellFormed_filled words
  rw [mem_successes, (c.execute_eq hsize words).2] at hprobe
  rw [← hcapacity]
  exact hwell.probes_lt_of_mem_eraseAll hprobe

/-! ## Statistics -/

/-- The least and the largest of a list of counts, and how many they are. -/
structure Summarizes (counts : List Nat) (s : ProbeStats) : Prop where
  deletions_eq : s.deletions = counts.length
  least_mem : s.least ∈ counts
  least_le : ∀ count ∈ counts, s.least ≤ count
  most_mem : s.most ∈ counts
  le_most : ∀ count ∈ counts, count ≤ s.most

theorem ProbeStats.ofCounts?_eq_none_iff {counts : List Nat} :
    ofCounts? counts = none ↔ counts = [] := by
  cases counts with
  | nil => exact ⟨fun _ => rfl, fun _ => rfl⟩
  | cons first others => exact ⟨(nomatch ·), (nomatch ·)⟩

theorem ProbeStats.elim_ofCounts? (counts : List Nat) :
    (ofCounts? counts).elim 0 (·.deletions) = counts.length := by
  cases counts <;> rfl

theorem ProbeStats.summarizes_of_ofCounts? {counts : List Nat} {s : ProbeStats}
    (h : ofCounts? counts = some s) : Summarizes counts s := by
  cases counts with
  | nil => cases h
  | cons first others =>
      obtain rfl := Option.some.inj h
      have hleast : (first :: others).min? = some (others.foldl min first) := List.min?_cons'
      have hmost : (first :: others).max? = some ((first :: others).foldl max 0) := by
        rw [List.max?_cons', List.foldl_cons, Nat.zero_max]
      obtain ⟨hleast_mem, hleast_le⟩ := List.min?_eq_some_iff.mp hleast
      obtain ⟨hmost_mem, hle_most⟩ := List.max?_eq_some_iff.mp hmost
      exact ⟨rfl, hleast_mem, hleast_le, hmost_mem, hle_most⟩

namespace Summarizes

variable {counts : List Nat} {s : ProbeStats} (h : Summarizes counts s)

include h

theorem least_le_most : s.least ≤ s.most := h.le_most _ h.least_mem

theorem mul_least_le_sum : s.deletions * s.least ≤ counts.sum := by
  rw [h.deletions_eq]
  exact List.card_nsmul_le_sum counts s.least h.least_le

theorem sum_le_mul_most : counts.sum ≤ s.deletions * s.most := by
  rw [h.deletions_eq]
  exact List.sum_le_card_nsmul counts s.most h.le_most

end Summarizes

/-! ## The account -/

variable {elapsed : Nat → Duration} {r : Report}

theorem report_eq_ok_iff : report c words elapsed = .ok r ↔
    c.Fits words.length ∧ (c.execute words).report elapsed = r := by
  rw [← Config.check_eq_ok_iff]
  unfold report
  cases hcheck : c.check words.length with
  | ok => exact ⟨fun h => ⟨rfl, Except.ok.inj h⟩, fun h => congrArg Except.ok h.2⟩
  | error e => exact ⟨(nomatch ·), fun h => nomatch h.1⟩

/-- The insertions that are refused are those beyond the number of slots. -/
theorem Config.rejected_report (hsize : 0 < c.batchSize) (words : List String)
    (elapsed : Nat → Duration) : ((c.execute words).report elapsed).rejected =
      (words.take c.wordCount).length - c.capacity.slots := by
  have hwell := Table.wellFormed_ofCapacity c.capacity
  have hfull : ∀ answer ∈ ((insertAll (words.take c.wordCount)).run (ofCapacity c.capacity)).1,
      (!answer.isOk) = true ↔ Table.failedFull answer = true := fun answer hmem => by
    rw [hwell.failedFull_of_mem_insertAll hmem]
  rw [Run.report, sum_refusals, (c.execute_eq hsize words).1, refusals_eq_countP,
    List.countP_congr hfull, ← c.room_ofCapacity]
  exact hwell.fullCount_insertAll _

/-- What a report says beside its batches. -/
def Report.counts (r : Report) : Nat × Option ProbeStats × Nat := (r.rejected, r.stats, r.missed)

theorem Config.counts_report (hsize : 0 < c.batchSize) (words : List String)
    (elapsed : Nat → Duration) : ((c.execute words).report elapsed).counts =
      (Run.refusals ((insertAll (words.take c.wordCount)).run (ofCapacity c.capacity)).1,
        ProbeStats.ofCounts?
          ((successes ((eraseAll (c.deleted words)).run (c.filled words)).1).map (·.probes)),
        Run.refusals ((eraseAll (c.deleted words)).run (c.filled words)).1) := by
  obtain ⟨hbatches, hdeletions⟩ := c.execute_eq hsize words
  rw [Report.counts, Run.report, sum_refusals, hbatches, hdeletions]

theorem Config.map_counts_report (hsize : 0 < c.batchSize) {size : Nat} (hsize' : 0 < size)
    (words : List String) (elapsed elapsed' : Nat → Duration) :
    (Benchmark.report { c with batchSize := size } words elapsed').map Report.counts =
      (Benchmark.report c words elapsed).map Report.counts := by
  have hcheck : ({ c with batchSize := size } : Config).check words.length =
      c.check words.length := by
    unfold check
    rw [if_neg (Nat.ne_of_gt hsize), if_neg (Nat.ne_of_gt hsize')]
  unfold Benchmark.report
  rw [hcheck]
  cases c.check words.length with
  | ok =>
      have hcounts := c.counts_report hsize words elapsed
      have hcounts' := Config.counts_report (c := { c with batchSize := size }) hsize' words
        elapsed'
      exact congrArg Except.ok (hcounts'.trans hcounts.symm)
  | error e => rfl

section Timings

variable (r : Run) (elapsed : Nat → Duration)

theorem Run.map_batch_timings :
    (r.timings elapsed).map (·.batch) = List.range' 1 (r.timings elapsed).length := by
  have hnumbers : (r.timings elapsed).map (·.batch) =
      (r.batches.zipIdx.map Prod.snd).map (1 + ·) := by
    rw [timings, List.map_map, List.map_map]
    exact List.map_congr_left fun _ _ => Nat.add_comm _ 1
  rw [hnumbers, List.zipIdx_map_snd, List.map_add_range', timings, List.length_map,
    List.length_zipIdx]

theorem Run.map_keys_timings : (r.timings elapsed).map (·.keys) = r.batches.map List.length := by
  have hkeys : (r.timings elapsed).map (·.keys) =
      (r.batches.zipIdx.map Prod.fst).map List.length := by
    rw [timings, List.map_map, List.map_map]
    rfl
  rw [hkeys, List.zipIdx_map_fst]

end Timings

/-- The timings tell the sizes of the batches of words. -/
theorem Config.map_keys_timings (c : Config) (words : List String) (elapsed : Nat → Duration) :
    ((c.execute words).timings elapsed).map (·.keys) = (c.batches words).map List.length := by
  rw [Run.map_keys_timings, c.map_length_execute]

theorem exists_mem_of_map_eq_map {α β γ : Type} {f : α → γ} {g : β → γ} {xs : List α} {ys : List β}
    (h : xs.map f = ys.map g) {x : α} (hx : x ∈ xs) : ∃ y ∈ ys, g y = f x := by
  have hmem := List.mem_map_of_mem (f := f) hx
  rw [h] at hmem
  exact List.mem_map.mp hmem

section Batches

variable (h : c.Fits words.length) (elapsed : Nat → Duration)

include h

theorem Config.Fits.length_inserted : (words.take c.wordCount).length = c.wordCount := by
  rw [List.length_take, Nat.min_eq_left h.enough]

theorem Config.Fits.length_timings :
    ((c.execute words).timings elapsed).length = c.wordCount ⌈/⌉ c.batchSize := by
  have hlength := congrArg List.length (c.map_keys_timings words elapsed)
  rw [List.length_map, List.length_map, batches, length_batchesOf h.batchSize_pos,
    h.length_inserted] at hlength
  exact hlength

/-- All batches but the last one have the full size. -/
theorem Config.Fits.keys_of_mem_dropLast {timing : BatchTiming}
    (hmem : timing ∈ ((c.execute words).timings elapsed).dropLast) :
    timing.keys = c.batchSize := by
  have hkeys : ((c.execute words).timings elapsed).dropLast.map (·.keys) =
      (c.batches words).dropLast.map List.length := by
    rw [List.map_dropLast, c.map_keys_timings, List.map_dropLast]
  obtain ⟨batch, hbatch, heq⟩ := exists_mem_of_map_eq_map hkeys hmem
  rw [← heq]
  exact length_of_mem_dropLast_batchesOf h.batchSize_pos _ batch hbatch

/-- No batch is empty or larger than the full size. -/
theorem Config.Fits.keys_of_mem {timing : BatchTiming}
    (hmem : timing ∈ (c.execute words).timings elapsed) :
    1 ≤ timing.keys ∧ timing.keys ≤ c.batchSize := by
  obtain ⟨batch, hbatch, heq⟩ := exists_mem_of_map_eq_map (c.map_keys_timings words elapsed) hmem
  rw [← heq]
  exact length_of_mem_batchesOf h.batchSize_pos _ batch hbatch

theorem Config.Fits.sum_keys :
    (((c.execute words).timings elapsed).map (·.keys)).sum = c.wordCount := by
  have hflatten :=
    congrArg List.length (flatten_batchesOf h.batchSize_pos (words.take c.wordCount))
  rw [List.length_flatten, h.length_inserted] at hflatten
  exact (congrArg List.sum (c.map_keys_timings words elapsed)).trans hflatten

end Batches

/-- What the settings and the words say of a report. -/
structure Accounts (c : Config) (words : List String) (r : Report) : Prop where
  /-- The batches are numbered from one. -/
  numbers : r.batches.map (·.batch) = List.range' 1 r.batches.length
  /-- Their number is that of the words, divided by the size of a batch and rounded up. -/
  count : r.batches.length = c.wordCount ⌈/⌉ c.batchSize
  /-- All batches but the last one have the full size. -/
  full : ∀ timing ∈ r.batches.dropLast, timing.keys = c.batchSize
  /-- The last one has at least one key, and not more than the others. -/
  last : ∀ timing ∈ r.batches.getLast?, 1 ≤ timing.keys ∧ timing.keys ≤ c.batchSize
  /-- Every word belongs to a batch. -/
  sum_keys : (r.batches.map (·.keys)).sum = c.wordCount
  /-- The insertions beyond the number of slots are refused. -/
  rejected : r.rejected = c.wordCount - min c.wordCount c.capacity.slots
  /-- A word is deleted as often as it is to be deleted, or as often as it is stored. -/
  deleted : ∀ word, c.deletionsOf words word =
    min ((words.take (min c.wordCount c.capacity.slots)).count word) ((c.deleted words).count word)
  /-- Every deletion has succeeded or missed its word. -/
  deletions_add_missed :
    (r.stats.elim 0 (·.deletions)) + r.missed = c.deleteEnd - c.deleteStart + 1
  /-- With a slot for every word no deletion misses. -/
  missed_eq_zero : c.wordCount ≤ c.capacity.slots → r.missed = 0
  /-- There are statistics unless no deletion succeeded. -/
  stats_eq_none : r.stats = none ↔ ∀ answer ∈ (c.execute words).deletions, answer.isOk = false
  /-- They are about the deletions that succeeded. -/
  stats_deletions : ∀ s ∈ r.stats,
    s.deletions = (c.execute words).deletions.countP Except.isOk
  /-- The probe counts lie in order, and below the number of slots. -/
  stats_order : ∀ s ∈ r.stats, s.least ≤ s.most ∧ s.most < c.capacity.slots
  /-- The sum of the probe counts lies between the multiples of the least and the largest. -/
  stats_sum : ∀ s ∈ r.stats, s.deletions * s.least ≤ (c.execute words).probeCounts.sum ∧
    (c.execute words).probeCounts.sum ≤ s.deletions * s.most

theorem Config.Fits.accounts (h : c.Fits words.length) (elapsed : Nat → Duration) :
    Accounts c words ((c.execute words).report elapsed) := by
  have hsize := h.batchSize_pos
  have hanswers := length_successes_add_refusals (c.execute words).deletions
  rw [c.length_deletions hsize, h.slices.length_deleted] at hanswers
  have hstats : ∀ s ∈ ((c.execute words).report elapsed).stats,
      Summarizes (c.execute words).probeCounts s := fun s hs =>
    ProbeStats.summarizes_of_ofCounts? hs
  exact
    { numbers := Run.map_batch_timings _ _
      count := h.length_timings elapsed
      full := fun timing hmem => h.keys_of_mem_dropLast elapsed hmem
      last := fun timing hmem => h.keys_of_mem elapsed (List.mem_of_getLast? hmem)
      sum_keys := h.sum_keys elapsed
      rejected := by
        rw [c.rejected_report hsize, h.length_inserted]
        omega
      deleted := c.deletionsOf_eq hsize words
      deletions_add_missed := by
        rw [← hanswers]
        exact congrArg (· + Run.refusals (c.execute words).deletions)
          ((ProbeStats.elim_ofCounts? _).trans (List.length_map _))
      missed_eq_zero := c.refusals_deletions_eq_zero h
      stats_eq_none := by
        refine ProbeStats.ofCounts?_eq_none_iff.trans ?_
        rw [List.map_eq_nil_iff, ← List.length_eq_zero_iff, length_successes,
          List.countP_eq_zero]
        simp
      stats_deletions := fun s hs => by
        rw [(hstats s hs).deletions_eq, Run.probeCounts, List.length_map, length_successes]
      stats_order := fun s hs =>
        ⟨(hstats s hs).least_le_most, c.lt_of_mem_probeCounts hsize (hstats s hs).most_mem⟩
      stats_sum := fun s hs => ⟨(hstats s hs).mul_least_le_sum, (hstats s hs).sum_le_mul_most⟩ }

/-- When a benchmark reports, and what it does. -/
structure Accountable (c : Config) (words : List String) : Prop where
  /-- There is a report exactly if the settings fit the words. -/
  ok_iff : ∀ elapsed, (∃ r, report c words elapsed = .ok r) ↔ c.Fits words.length
  /-- Then every range that is read lies in the words. -/
  slices : c.Fits words.length → Slices c words
  /-- The report can be told from the settings and the words. -/
  accounts : ∀ elapsed r, report c words elapsed = .ok r → Accounts c words r
  /-- The size of the batches shows nowhere but in the batches. -/
  counts : ∀ size elapsed elapsed', 0 < c.batchSize → 0 < size →
    (report { c with batchSize := size } words elapsed').map Report.counts =
      (report c words elapsed).map Report.counts

/-- Whatever the words and the settings, a benchmark can be accounted for. -/
theorem report_accountable (c : Config) (words : List String) : Accountable c words where
  ok_iff elapsed := by
    simp only [report_eq_ok_iff, exists_and_left, exists_eq', and_true]
  slices h := h.slices
  accounts elapsed r h := by
    obtain ⟨hfits, rfl⟩ := report_eq_ok_iff.mp h
    exact hfits.accounts elapsed
  counts _ elapsed elapsed' hsize hsize' :=
    c.map_counts_report hsize hsize' words elapsed elapsed'

/-- Two slots take two of four words; of three copies to delete one was stored. -/
example : (report ⟨⟨2, by decide⟩, 4, 3, 0, 3⟩ ["eel", "cod", "eel", "eel"] fun _ => .zero).map
    (fun r => (r.batches.map (·.keys), r.rejected, r.missed)) = .ok ([3, 1], 2, 2) := by
  decide +kernel

end ProbeForest.Benchmark
