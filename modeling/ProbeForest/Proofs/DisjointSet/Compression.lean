import ProbeForest.Proofs.DisjointSet.Script

/-!
# A search compresses exactly one path

A search walks up from a node twice.  The first walk only looks for the root;
`Climbs` follows it.  The second one, followed by `Repoints`, points every
node that it leaves at the root.  It does not end at the root but as soon as
the next parent is the root, and it reads the parents that it is about to
overwrite.  Since no path comes back to a node that it has left, the part of
the path that is still ahead is never overwritten, and the nodes at which the
walk ends early point at the root already.

## Main results

* `Climbs.exists_repoints` — the second walk comes to an end, and what it does
  to every parent.
* `find_compressed` — a search repoints the nodes on one path, and no other.
* `find_find` — a second search changes nothing.
* `after_compressed` — all of it after any script of calls.
-/

namespace ProbeForest.DisjointSet

variable {s t : DisjointSet} {node x y r root steps turns fuel : Nat}

/-! ## Paths -/

/-- The node `x` is on the path that leads from `node` along the parents. -/
def OnPath (s : DisjointSet) (node x : Nat) : Prop := ∃ k, s.parentOf^[k] node = x

theorem onPath_self (s : DisjointSet) (node : Nat) : OnPath s node node := ⟨0, rfl⟩

/-- A path begins with its node and goes on from the parent. -/
theorem onPath_iff : OnPath s node x ↔ x = node ∨ OnPath s (s.parentOf node) x := by
  constructor
  · rintro ⟨k, rfl⟩
    cases k with
    | zero => exact Or.inl rfl
    | succ k => exact Or.inr ⟨k, rfl⟩
  · rintro (rfl | ⟨k, rfl⟩)
    · exact onPath_self s x
    · exact ⟨k + 1, rfl⟩

/-- A path does not leave a root. -/
theorem onPath_root_iff (hr : s.parentOf r = r) : OnPath s r x ↔ x = r := by
  constructor
  · rintro ⟨k, rfl⟩
    exact Function.iterate_fixed hr k
  · rintro rfl
    exact onPath_self s x

theorem Climbs.parent (h : Climbs s steps x r) :
    ∃ fewer ≤ steps, Climbs s fewer (s.parentOf x) r := by
  cases h with
  | stay hr => exact ⟨0, le_refl 0, by rw [hr]; exact Climbs.stay hr⟩
  | up _ rest => exact ⟨_, Nat.le_succ _, rest⟩

/-- From any node of a path the climb to the root is no longer than from its beginning. -/
theorem Climbs.of_onPath (h : Climbs s steps node r) (hx : OnPath s node x) :
    ∃ fewer ≤ steps, Climbs s fewer x r := by
  obtain ⟨k, rfl⟩ := hx
  induction k with
  | zero => exact ⟨steps, le_refl steps, h⟩
  | succ k ih =>
      obtain ⟨fewer, hle, hclimb⟩ := ih
      obtain ⟨fewest, hle', hclimb'⟩ := hclimb.parent
      rw [Function.iterate_succ_apply']
      exact ⟨fewest, hle'.trans hle, hclimb'⟩

/-- A path ends at the root. -/
theorem Climbs.onPath (h : Climbs s steps node r) : OnPath s node r := by
  induction h with
  | stay _ => exact onPath_self s _
  | up _ _ ih => exact onPath_iff.mpr (Or.inr ih)

/-- A path that has left a node does not come back to it. -/
theorem not_onPath_parentOf (h : Climbs s steps node r) (hnode : s.parentOf node ≠ node) :
    ¬ OnPath s (s.parentOf node) node := by
  intro hback
  cases h with
  | stay hr => exact hnode hr
  | up hne rest =>
      obtain ⟨fewer, hle, hclimb⟩ := rest.of_onPath hback
      have hsteps := (hclimb.unique (Climbs.up hne rest)).1
      omega

section Agree

variable (hagree : ∀ y, OnPath s x y → t.parentOf y = s.parentOf y)

include hagree

/-- A path depends on the parents of its own nodes only. -/
theorem onPath_congr : OnPath t x y ↔ OnPath s x y := by
  have hiterate : ∀ k, t.parentOf^[k] x = s.parentOf^[k] x := by
    intro k
    induction k with
    | zero => rfl
    | succ k ih =>
        rw [Function.iterate_succ_apply', Function.iterate_succ_apply', ih]
        exact hagree _ ⟨k, rfl⟩
  simp only [OnPath, hiterate]

theorem Climbs.congr (h : Climbs s steps x r) : Climbs t steps x r := by
  induction h with
  | stay hr =>
      have hr' := hagree _ (onPath_self s _)
      exact Climbs.stay (hr'.trans hr)
  | @up _ x _ hne _ ih =>
      have hx : t.parentOf x = s.parentOf x := hagree x (onPath_self s x)
      refine Climbs.up (by rwa [hx]) ?_
      rw [hx]
      exact ih fun y hy => hagree y (onPath_iff.mpr (Or.inr hy))

end Agree

/-- Pointing a node elsewhere leaves the path from its parent as it is. -/
theorem parentOf_repoint_of_onPath (h : Climbs s steps node r) (hne : s.parentOf node ≠ node)
    (up : Nat) (hy : OnPath s (s.parentOf node) y) :
    (s.repoint node up).parentOf y = s.parentOf y := by
  rw [parentOf_repoint s up y (lt_size_of_parentOf_ne hne), if_neg]
  rintro rfl
  exact not_onPath_parentOf h hne hy

/-! ## The second walk -/

/-- From `node` on, the walk that points nodes at `root` ends after `turns` turns, and has made
`t` of `s`. -/
inductive Repoints (root : Nat) : (turns node : Nat) → (s t : DisjointSet) → Prop
  | stop {node : Nat} {s : DisjointSet} (h : s.parentOf node = root) : Repoints root 0 node s s
  | turn {turns node : Nat} {s t : DisjointSet} (h : s.parentOf node ≠ root)
      (rest : Repoints root turns (s.parentOf node) (s.repoint node root) t) :
      Repoints root (turns + 1) node s t

/-- With fuel for every turn, compressing is the second walk. -/
theorem Repoints.compressWithin_eq (h : Repoints root turns node s t) (hfuel : turns ≤ fuel) :
    compressWithin root fuel node s = t := by
  induction h generalizing fuel with
  | stop h =>
      cases fuel with
      | zero => rfl
      | succ fuel => rw [compressWithin, if_pos h]
  | turn h _ ih =>
      cases fuel with
      | zero => omega
      | succ fuel =>
          rw [compressWithin, if_neg h]
          exact ih (by omega)

/-- Wherever the root can be reached, the second walk comes to an end within as many turns.  It
has pointed the nodes of the path at the root, and left all others alone. -/
theorem Climbs.exists_repoints (h : Climbs s steps node r) :
    ∃ turns ≤ steps, ∃ t, Repoints r turns node s t ∧
      (∀ x, OnPath s node x → t.parentOf x = r) ∧
      ∀ x, ¬ OnPath s node x → t.parentOf x = s.parentOf x := by
  induction steps generalizing s node with
  | zero =>
      cases h with
      | stay hr =>
          refine ⟨0, le_refl 0, s, Repoints.stop hr, ?_, fun _ _ => rfl⟩
          intro x hx
          rw [(onPath_root_iff hr).mp hx, hr]
  | succ steps ih =>
      cases h with
      | up hne rest =>
          have hr := rest.parentOf_eq
          by_cases hup : s.parentOf node = r
          · -- Here the walk ends early: the path is `node` and its root, which both point there.
            refine ⟨0, Nat.zero_le _, s, Repoints.stop hup, ?_, fun _ _ => rfl⟩
            intro x hx
            rw [onPath_iff, hup, onPath_root_iff hr] at hx
            rcases hx with rfl | rfl
            · exact hup
            · exact hr
          · have hparent := fun x => parentOf_repoint s r x (lt_size_of_parentOf_ne hne)
            have hagree := fun y => parentOf_repoint_of_onPath (y := y) (Climbs.up hne rest) hne r
            obtain ⟨turns, hle, t, hwalk, hon, hoff⟩ := ih (rest.congr hagree)
            simp only [onPath_congr hagree] at hon hoff
            refine ⟨turns + 1, Nat.succ_le_succ hle, t, Repoints.turn hup hwalk, ?_, ?_⟩
            · intro x hx
              by_cases hahead : OnPath s (s.parentOf node) x
              · exact hon x hahead
              · obtain rfl : x = node := (onPath_iff.mp hx).resolve_right hahead
                rw [hoff x hahead, hparent, if_pos rfl]
            · intro x hx
              obtain ⟨hxnode, hahead⟩ := not_or.mp (mt onPath_iff.mpr hx)
              rw [hoff x hahead, hparent, if_neg hxnode]

/-! ## Searches -/

/-- What a search leaves is what the second walk has made. -/
theorem Repoints.find_eq (h : Repoints (s.root node) turns node s t) (hturns : turns ≤ s.size) :
    s.find node = (s.root node, t) :=
  Prod.ext rfl (h.compressWithin_eq hturns)

/-- The second walk of a search is no longer than the first. -/
theorem Climbs.repoints_find (hs : Forest s) (h : Climbs s steps node r) :
    ∃ turns ≤ steps, Repoints r turns node s (s.find node).2 := by
  obtain ⟨turns, hle, t, hwalk, _⟩ := h.exists_repoints
  obtain rfl := h.root_eq hs
  refine ⟨turns, hle, ?_⟩
  rwa [hwalk.find_eq (hle.trans (h.steps_le hs))]

/-- The structure `t` is `s` with the path from `node` to `root` compressed. -/
structure Compressed (s : DisjointSet) (node root : Nat) (t : DisjointSet) : Prop where
  /-- The path ends at the root. -/
  onPath_root : OnPath s node root
  fixed : s.parentOf root = root
  /-- All of the path has the root as its parent. -/
  onPath : ∀ x, OnPath s node x → t.parentOf x = root
  /-- No other parent has changed. -/
  offPath : ∀ x, ¬ OnPath s node x → t.parentOf x = s.parentOf x
  /-- The number of elements, all roots, the ranks and the number of sets are the same. -/
  sameSets : SameSets s t

theorem find_compressed (hs : Forest s) (node : Nat) :
    Compressed s node (s.root node) (s.find node).2 := by
  obtain ⟨steps, hclimb⟩ := hs.climbs_root node
  obtain ⟨turns, hle, t, hwalk, hon, hoff⟩ := hclimb.exists_repoints
  have hfind := hwalk.find_eq (hle.trans (hclimb.steps_le hs))
  have hsame := find_sameSets hs node
  rw [hfind] at hsame ⊢
  exact
    { onPath_root := hclimb.onPath
      fixed := hclimb.parentOf_eq
      onPath := hon
      offPath := hoff
      sameSets := hsame }

/-- A search that finds its node below the root changes nothing. -/
theorem find_of_parentOf_eq_root (h : s.parentOf node = s.root node) :
    s.find node = (s.root node, s) :=
  (Repoints.stop h).find_eq (Nat.zero_le _)

/-- A second search changes nothing. -/
theorem find_find (hs : Forest s) (node : Nat) :
    (s.find node).2.find node = (s.root node, (s.find node).2) := by
  have hcompressed := find_compressed hs node
  have hroot := hcompressed.sameSets.root node
  have hparent := hcompressed.onPath node (onPath_self s node)
  rw [find_of_parentOf_eq_root (hparent.trans hroot.symm), hroot]

/-! ## Searches in scripts -/

/-- After any script of calls, a search for a node in range answers with the end of the path from
it, and compresses this path and nothing else.  The same search once more gives the same answer
and leaves the structure exactly as it is. -/
theorem after_compressed (size : Nat) (script : List Call) (node : Nat) (hnode : node < size) :
    ∃ root, (Call.find node).answer (after size script) = .ok (.root root) ∧
      Compressed (after size script) node root (after size (script ++ [Call.find node])) ∧
      (Call.find node).answer (after size (script ++ [Call.find node])) = .ok (.root root) ∧
      after size (script ++ [Call.find node] ++ [Call.find node]) =
        after size (script ++ [Call.find node]) := by
  obtain ⟨hs, hsize⟩ := after_sound size script
  have hin : node < (after size script).size := by rwa [hsize]
  have hcompressed := find_compressed hs.toForest node
  have hin' : node < ((after size script).find node).2.size := by rwa [hcompressed.sameSets.size]
  have honce : after size (script ++ [Call.find node]) = ((after size script).find node).2 := by
    rw [after_snoc, leaves_find hin]
  refine ⟨(after size script).root node, answer_find hin, ?_, ?_, ?_⟩
  · rwa [honce]
  · rw [honce, answer_find hin', hcompressed.sameSets.root]
  · rw [after_snoc, honce, leaves_find hin', find_find hs.toForest]

/-- Unions after which node 7 is three steps below its root. -/
def stacked : List Call :=
  [.union 0 1, .union 2 3, .union 0 2, .union 4 5, .union 6 7, .union 4 6, .union 0 4]

/-- A search from the deepest node, whose path has four nodes. -/
theorem after_compressed_stacked :
    7 < 8 ∧ ∃ root, (Call.find 7).answer (after 8 stacked) = .ok (.root root) ∧
      Compressed (after 8 stacked) 7 root (after 8 (stacked ++ [Call.find 7])) ∧
      (Call.find 7).answer (after 8 (stacked ++ [Call.find 7])) = .ok (.root root) ∧
      after 8 (stacked ++ [Call.find 7] ++ [Call.find 7]) = after 8 (stacked ++ [Call.find 7]) :=
  ⟨by decide, after_compressed 8 stacked 7 (by decide)⟩

example :
    (after 8 stacked).parent = #[0, 0, 0, 2, 0, 4, 4, 6] ∧
      (after 8 (stacked ++ [Call.find 7])).parent = #[0, 0, 0, 2, 0, 4, 0, 0] := by
  decide

end ProbeForest.DisjointSet
