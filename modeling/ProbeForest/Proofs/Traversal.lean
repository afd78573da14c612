/-!
# A state carried along a list

An operation that reads and changes a state is performed for one item after
another, and its results are listed.  What follows holds for any operation:
lists that are joined are traversed one after the other, an invariant of the
operation is an invariant of the traversal, and every result is one of the
operation in some state that the traversal has come through.

An operation may also fail, and keeps its state when it does.  A traversal
then ends with the first failure, in the state that this failure left.

## Main results

* `run_mapM_mapM` — a list that is cut into parts is traversed part by part.
* `invariant_run_mapM`, `exists_of_mem_run_mapM` — invariants and results.
* `exists_of_run_forM_eq_error` — where a traversal that fails has ended.
-/

namespace ProbeForest

variable {σ α β : Type} {op : α → StateM σ β}

theorem run_mapM_cons (op : α → StateM σ β) (item : α) (items : List α) (s : σ) :
    ((item :: items).mapM op).run s =
      (((op item).run s).1 :: ((items.mapM op).run ((op item).run s).2).1,
        ((items.mapM op).run ((op item).run s).2).2) := by
  rw [List.mapM_cons]
  rfl

theorem run_mapM_append (op : α → StateM σ β) (items others : List α) (s : σ) :
    ((items ++ others).mapM op).run s =
      (((items.mapM op).run s).1 ++ ((others.mapM op).run ((items.mapM op).run s).2).1,
        ((others.mapM op).run ((items.mapM op).run s).2).2) := by
  rw [List.mapM_append]
  rfl

theorem length_run_mapM (op : α → StateM σ β) (items : List α) (s : σ) :
    ((items.mapM op).run s).1.length = items.length := by
  induction items generalizing s with
  | nil => rfl
  | cons item items ih => rw [run_mapM_cons, List.length_cons, List.length_cons, ih]

/-- A list that is cut into parts is traversed part by part. -/
theorem run_mapM_mapM (op : α → StateM σ β) (parts : List (List α)) (s : σ) :
    (((parts.mapM (List.mapM op)).run s).1.flatten,
      ((parts.mapM (List.mapM op)).run s).2) = (parts.flatten.mapM op).run s := by
  induction parts generalizing s with
  | nil => rfl
  | cons part parts ih =>
      rw [run_mapM_cons, List.flatten_cons, List.flatten_cons, run_mapM_append, ← ih]

/-- Every part has as many results as items. -/
theorem map_length_run_mapM_mapM (op : α → StateM σ β) (parts : List (List α)) (s : σ) :
    ((parts.mapM (List.mapM op)).run s).1.map List.length = parts.map List.length := by
  induction parts generalizing s with
  | nil => rfl
  | cons part parts ih => rw [run_mapM_cons, List.map_cons, List.map_cons, ih, length_run_mapM]

section Invariant

variable {P : σ → Prop} (hop : ∀ item s, P s → P ((op item).run s).2)

include hop

theorem invariant_run_mapM (items : List α) {s : σ} (h : P s) : P ((items.mapM op).run s).2 := by
  induction items generalizing s with
  | nil => exact h
  | cons item items ih =>
      rw [run_mapM_cons]
      exact ih (hop item s h)

/-- A result is one of the operation in a state that the traversal has come through. -/
theorem exists_of_mem_run_mapM {items : List α} {s : σ} (h : P s) {result : β}
    (hmem : result ∈ ((items.mapM op).run s).1) :
    ∃ item ∈ items, ∃ s', P s' ∧ result = ((op item).run s').1 := by
  induction items generalizing s with
  | nil => cases hmem
  | cons item items ih =>
      rw [run_mapM_cons, List.mem_cons] at hmem
      rcases hmem with rfl | hmem
      · exact ⟨item, List.mem_cons_self, s, h, rfl⟩
      · obtain ⟨other, hother, s', hs', heq⟩ := ih (hop item s h) hmem
        exact ⟨other, List.mem_cons_of_mem _ hother, s', hs', heq⟩

end Invariant

/-! ## Operations that may fail -/

section Fallible

variable {ε : Type} {s t : σ} {e : ε}

theorem run_bind_of_ok {q : ExceptT ε (StateM σ) α} {next : α → ExceptT ε (StateM σ) β} {x : α}
    (h : q.run s = (.ok x, t)) : (q >>= next).run s = (next x).run t := by
  show (ExceptT.bindCont next (q.run s).1).run (q.run s).2 = _
  rw [h]
  rfl

theorem run_bind_of_error {q : ExceptT ε (StateM σ) α} {next : α → ExceptT ε (StateM σ) β}
    (h : q.run s = (.error e, t)) : (q >>= next).run s = (.error e, t) := by
  show (ExceptT.bindCont next (q.run s).1).run (q.run s).2 = _
  rw [h]
  rfl

variable {action : α → ExceptT ε (StateM σ) PUnit}

theorem run_forM_nil (action : α → ExceptT ε (StateM σ) PUnit) (s : σ) :
    (forM [] action).run s = (.ok ⟨⟩, s) := rfl

/-- A traversal that fails has performed the items before some item, fails at this item, and
does not come to the items behind it. -/
theorem exists_of_run_forM_eq_error {items : List α}
    (h : (forM items action).run s = (.error e, t)) :
    ∃ before item behind reached, items = before ++ item :: behind ∧
      (forM before action).run s = (.ok ⟨⟩, reached) ∧
      (action item).run reached = (.error e, t) := by
  induction items generalizing s with
  | nil =>
      rw [run_forM_nil] at h
      cases h
  | cons item items ih =>
      rw [List.forM_cons] at h
      cases hitem : (action item).run s with
      | mk outcome next =>
          cases outcome with
          | error cause =>
              rw [run_bind_of_error hitem] at h
              exact ⟨[], item, items, s, rfl, run_forM_nil action s, hitem.trans h⟩
          | ok _ =>
              rw [run_bind_of_ok hitem] at h
              obtain ⟨before, failing, behind, reached, rfl, hbefore, hfailing⟩ := ih h
              refine ⟨item :: before, failing, behind, reached, rfl, ?_, hfailing⟩
              rw [List.forM_cons, run_bind_of_ok hitem, hbefore]

end Fallible

end ProbeForest
