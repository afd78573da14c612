import Mathlib
import ProbeForest.Proofs.Traversal
import ProbeForest.Text.Sink

/-!
# What a sink takes

A sink does not show where one text ends and the next one begins: two texts
are taken like the bytes of both at once, wherever the room ends.  Any number
of texts is therefore one write of all their bytes, and a sink with limited
room holds a leading part of them.  That writing stops at the first text for
which there is no room is a fact about the texts, and is told apart.

## Main results

* `take_append_of_ok`, `take_append_of_error` — two writes are one.
* `run_putAll` — so are any number of texts.
* `exists_of_run_putAll_eq_error` — writing stops at the first failure.
-/

namespace ProbeForest.Text.Sink

variable {sink final : Sink} {bytes more : List UInt8} {texts others : List String}
  {limit room : Nat} {e : SinkFull}

/-! ## Bytes -/

theorem append_append (written : Array UInt8) (bytes more : List UInt8) :
    written ++ (bytes ++ more) = written ++ bytes ++ more := by
  apply Array.ext'
  simp

theorem take_of_unlimited (written : Array UInt8) (bytes : List UInt8) :
    take ⟨written, none⟩ bytes = (.ok (), ⟨written ++ bytes, none⟩) := rfl

theorem take_of_le (written : Array UInt8) (h : bytes.length ≤ room) :
    take ⟨written, some room⟩ bytes =
      (.ok (), ⟨written ++ bytes, some (room - bytes.length)⟩) := if_pos h

theorem take_of_lt (written : Array UInt8) (h : room < bytes.length) :
    take ⟨written, some room⟩ bytes = (.error ⟨⟩, ⟨written ++ bytes.take room, some 0⟩) :=
  if_neg (Nat.not_le.mpr h)

@[simp] theorem take_nil (sink : Sink) : sink.take [] = (.ok (), sink) := by
  obtain ⟨written, _ | room⟩ := sink
  · simp [take_of_unlimited]
  · simp [take_of_le]

section Append

variable {next : Sink}

/-- Bytes that are taken one after the other are taken as if they came at once. -/
theorem take_append_of_ok (more : List UInt8) (h : sink.take bytes = (.ok (), next)) :
    sink.take (bytes ++ more) = next.take more := by
  obtain ⟨written, _ | room⟩ := sink
  · rw [take_of_unlimited] at h
    obtain rfl := (Prod.mk.inj h).2
    rw [take_of_unlimited, take_of_unlimited, append_append]
  · by_cases hfirst : bytes.length ≤ room
    · rw [take_of_le written hfirst] at h
      obtain rfl := (Prod.mk.inj h).2
      by_cases hboth : more.length ≤ room - bytes.length
      · have hall : (bytes ++ more).length ≤ room := by
          rw [List.length_append]
          omega
        rw [take_of_le _ hboth, take_of_le written hall, List.length_append, Nat.sub_add_eq,
          append_append]
      · have hall : room < (bytes ++ more).length := by
          rw [List.length_append]
          omega
        rw [take_of_lt _ (Nat.lt_of_not_le hboth), take_of_lt written hall, List.take_append,
          List.take_of_length_le hfirst, append_append]
    · rw [take_of_lt written (Nat.lt_of_not_le hfirst)] at h
      cases h

/-- What comes after bytes for which there was no room makes no difference. -/
theorem take_append_of_error (more : List UInt8) (h : sink.take bytes = (.error e, next)) :
    sink.take (bytes ++ more) = (.error e, next) := by
  obtain ⟨written, _ | room⟩ := sink
  · rw [take_of_unlimited] at h
    cases h
  · by_cases hfirst : bytes.length ≤ room
    · rw [take_of_le written hfirst] at h
      cases h
    · have hfirst := Nat.lt_of_not_le hfirst
      have hall : room < (bytes ++ more).length := by
        rw [List.length_append]
        omega
      rw [take_of_lt written hfirst] at h
      rw [take_of_lt written hall, List.take_append_of_le_length hfirst.le, h]

end Append

/-! ## Texts -/

/-- Writes texts one after another. -/
def putAll (texts : List String) : Writing Unit := forM texts put

theorem putAll_append (texts others : List String) :
    putAll (texts ++ others) = (do putAll texts; putAll others) := by
  rw [putAll, List.forM_append]
  rfl

/-- The texts of many items, each item after the one before. -/
theorem putAll_flatMap {α : Type} (f : α → List String) (items : List α) :
    putAll (items.flatMap f) = items.forM fun item => putAll (f item) := by
  induction items with
  | nil => rfl
  | cons item items ih =>
      rw [List.flatMap_cons, putAll_append, ih]
      rfl

/-- Texts that are written one after another are one write of all their bytes. -/
theorem run_putAll (texts : List String) (sink : Sink) :
    (putAll texts).run sink = sink.take (texts.flatMap encode) := by
  induction texts generalizing sink with
  | nil => exact (take_nil sink).symm
  | cons text texts ih =>
      rw [putAll, List.forM_cons, List.flatMap_cons]
      cases htext : (put text).run sink with
      | mk outcome next =>
          cases outcome with
          | error _ => rw [run_bind_of_error htext, take_append_of_error _ htext]
          | ok _ =>
              rw [run_bind_of_ok htext, take_append_of_ok _ htext]
              exact ih next

/-- Writing that fails has written all texts before the one that failed, and stops there. -/
theorem exists_of_run_putAll_eq_error (h : (putAll texts).run sink = (.error e, final)) :
    ∃ before text behind reached, texts = before ++ text :: behind ∧
      (putAll before).run sink = (.ok (), reached) ∧ (put text).run reached = (.error e, final) :=
  exists_of_run_forM_eq_error h

/-! ## Empty sinks -/

theorem written_take_of_unlimited (bytes : List UInt8) :
    ((ofRoom none).take bytes).2.written.toList = bytes := by
  simp [ofRoom, take_of_unlimited]

/-- A sink that was empty holds the leading bytes for which it has room, and fails exactly if
these are not all. -/
theorem take_ofRoom (limit : Nat) (bytes : List UInt8) :
    ((ofRoom (some limit)).take bytes).2.written.toList = bytes.take limit ∧
      (((ofRoom (some limit)).take bytes).1 = .error ⟨⟩ ↔ limit < bytes.length) := by
  by_cases h : bytes.length ≤ limit
  · rw [ofRoom, take_of_le _ h, List.take_of_length_le h]
    simp [h]
  · have h := Nat.lt_of_not_le h
    rw [ofRoom, take_of_lt _ h]
    simp [h]

end ProbeForest.Text.Sink
