import Mathlib
import ProbeForest.Text.Integer

/-!
# What integer literals denote

`Decimal` says what a run of digits writes, by place value, and the two kinds
of literals are an optional sign in front of such a run, with the values that
64 bits hold.  The readers accept exactly these.  A sign is no digit, so a
literal can be read in one way only.

## Main results

* `readCount_eq_some_iff` — counts: `+` or nothing in front, below `2 ^ 64`.
* `readSigned_eq_some_iff` — signed numbers: either sign, in two's complement range.
-/

namespace ProbeForest.Text

variable {cs : List Char} {n : Nat} {v : Int}

/-! ## Digits -/

/-- One or more ASCII digits that write `n`, the most significant first. -/
structure Decimal (digits : List Char) (n : Nat) : Prop where
  ne_nil : digits ≠ []
  isDigit : ∀ c ∈ digits, c.isDigit = true
  value : Nat.ofDigits 10 (digits.reverse.map digitValue) = n

theorem digitsValue_eq_ofDigits (digits : List Char) :
    digitsValue digits = Nat.ofDigits 10 (digits.reverse.map digitValue) := by
  rw [Nat.ofDigits_eq_foldr, List.foldr_map, List.foldr_reverse, digitsValue]
  exact congrArg (fun step => digits.foldl step 0) (funext₂ fun _ _ => Nat.add_comm _ _)

theorem readDigits_eq_some_iff : readDigits cs = some n ↔ Decimal cs n := by
  rw [readDigits, Option.ite_none_right_eq_some, Option.some_inj, digitsValue_eq_ofDigits,
    List.all_eq_true]
  exact ⟨fun ⟨⟨hne, hdigit⟩, hvalue⟩ => ⟨hne, hdigit, hvalue⟩,
    fun h => ⟨⟨h.ne_nil, h.isDigit⟩, h.value⟩⟩

theorem Decimal.head_isDigit {c : Char} (h : Decimal (c :: cs) n) : c.isDigit = true :=
  h.isDigit c List.mem_cons_self

/-! ## Counts -/

/-- A count as it is written. -/
inductive CountLiteral : List Char → Nat → Prop where
  | plain {digits : List Char} {n : Nat} (h : Decimal digits n) (hlimit : n < 2 ^ 64) :
      CountLiteral digits n
  | plus {digits : List Char} {n : Nat} (h : Decimal digits n) (hlimit : n < 2 ^ 64) :
      CountLiteral ('+' :: digits) n

theorem CountLiteral.plus_iff : CountLiteral ('+' :: cs) n ↔ Decimal cs n ∧ n < 2 ^ 64 := by
  refine ⟨fun h => ?_, fun ⟨h, hlimit⟩ => .plus h hlimit⟩
  cases h with
  | plain h hlimit => exact absurd h.head_isDigit (by decide)
  | plus h hlimit => exact ⟨h, hlimit⟩

theorem CountLiteral.plain_iff (hplus : ∀ digits, cs ≠ '+' :: digits) :
    CountLiteral cs n ↔ Decimal cs n ∧ n < 2 ^ 64 := by
  refine ⟨fun h => ?_, fun ⟨h, hlimit⟩ => .plain h hlimit⟩
  cases h with
  | plain h hlimit => exact ⟨h, hlimit⟩
  | plus h hlimit => exact absurd rfl (hplus _)

theorem readNatural_eq_some_iff : readNatural countLimit cs = some n ↔ CountLiteral cs n := by
  have hlimit : countLimit = 2 ^ 64 := rfl
  simp only [readNatural, Option.filter_eq_some_iff, readDigits_eq_some_iff, decide_eq_true_eq,
    hlimit]
  split
  · exact CountLiteral.plus_iff.symm
  · next hplus => exact (CountLiteral.plain_iff hplus).symm

theorem readCount_eq_some_iff {token : String} :
    readCount token = some n ↔ CountLiteral token.toList n :=
  readNatural_eq_some_iff

theorem CountLiteral.unique {m : Nat} (hn : CountLiteral cs n) (hm : CountLiteral cs m) :
    n = m :=
  Option.some.inj ((readNatural_eq_some_iff.mpr hn).symm.trans (readNatural_eq_some_iff.mpr hm))

/-! ## Signed numbers -/

/-- A signed number as it is written. -/
inductive SignedLiteral : List Char → Int → Prop where
  | plain {digits : List Char} {n : Nat} (h : Decimal digits n) (hlimit : n < 2 ^ 63) :
      SignedLiteral digits n
  | plus {digits : List Char} {n : Nat} (h : Decimal digits n) (hlimit : n < 2 ^ 63) :
      SignedLiteral ('+' :: digits) n
  | minus {digits : List Char} {n : Nat} (h : Decimal digits n) (hlimit : n ≤ 2 ^ 63) :
      SignedLiteral ('-' :: digits) (-n)

theorem SignedLiteral.plus_iff :
    SignedLiteral ('+' :: cs) v ↔ ∃ n : Nat, Decimal cs n ∧ n < 2 ^ 63 ∧ v = n := by
  refine ⟨fun h => ?_, fun ⟨n, h, hlimit, hv⟩ => hv ▸ .plus h hlimit⟩
  cases h with
  | plain h hlimit => exact absurd h.head_isDigit (by decide)
  | plus h hlimit => exact ⟨_, h, hlimit, rfl⟩

theorem SignedLiteral.minus_iff :
    SignedLiteral ('-' :: cs) v ↔ ∃ n : Nat, Decimal cs n ∧ n ≤ 2 ^ 63 ∧ v = -n := by
  refine ⟨fun h => ?_, fun ⟨n, h, hlimit, hv⟩ => hv ▸ .minus h hlimit⟩
  cases h with
  | plain h hlimit => exact absurd h.head_isDigit (by decide)
  | minus h hlimit => exact ⟨_, h, hlimit, rfl⟩

theorem SignedLiteral.plain_iff (hplus : ∀ digits, cs ≠ '+' :: digits)
    (hminus : ∀ digits, cs ≠ '-' :: digits) :
    SignedLiteral cs v ↔ ∃ n : Nat, Decimal cs n ∧ n < 2 ^ 63 ∧ v = n := by
  refine ⟨fun h => ?_, fun ⟨n, h, hlimit, hv⟩ => hv ▸ .plain h hlimit⟩
  cases h with
  | plain h hlimit => exact ⟨_, h, hlimit, rfl⟩
  | plus h hlimit => exact absurd rfl (hplus _)
  | minus h hlimit => exact absurd rfl (hminus _)

/-- Digits without a minus sign are in range below the largest signed number. -/
theorem map_ofNat_readDigits_iff :
    ((readDigits cs).map Int.ofNat = some v ∧
        -((2 ^ 63 : Nat) : Int) ≤ v ∧ v ≤ ((2 ^ 63 - 1 : Nat) : Int)) ↔
      ∃ n : Nat, Decimal cs n ∧ n < 2 ^ 63 ∧ v = n := by
  simp only [Option.map_eq_some_iff, readDigits_eq_some_iff]
  constructor
  · rintro ⟨⟨n, h, rfl⟩, _, hhigh⟩
    exact ⟨n, h, by rw [Int.ofNat_eq_natCast] at hhigh; omega, rfl⟩
  · rintro ⟨n, h, hlimit, rfl⟩
    exact ⟨⟨n, h, rfl⟩, by omega, by omega⟩

/-- Behind a minus sign the smallest signed number is in range as well. -/
theorem map_neg_readDigits_iff :
    ((readDigits cs).map (fun n => -(n : Int)) = some v ∧
        -((2 ^ 63 : Nat) : Int) ≤ v ∧ v ≤ ((2 ^ 63 - 1 : Nat) : Int)) ↔
      ∃ n : Nat, Decimal cs n ∧ n ≤ 2 ^ 63 ∧ v = -n := by
  simp only [Option.map_eq_some_iff, Option.bind_eq_bind, Option.pure_def,
    Option.bind_eq_some_iff, Option.some_inj, readDigits_eq_some_iff]
  constructor
  · rintro ⟨⟨_, ⟨n, h, rfl⟩, rfl⟩, hlow, _⟩
    exact ⟨n, h, by omega, rfl⟩
  · rintro ⟨n, h, hlimit, rfl⟩
    exact ⟨⟨n, ⟨n, h, rfl⟩, rfl⟩, by omega, by omega⟩

theorem readSigned_eq_some_iff {token : String} :
    readSigned token = some v ↔ SignedLiteral token.toList v := by
  have hbound : Nat.pow 2 63 = 2 ^ 63 := rfl
  simp only [readSigned, readInteger, Option.filter_eq_some_iff, Bool.and_eq_true,
    decide_eq_true_eq, hbound]
  generalize token.toList = cs
  split
  · exact map_ofNat_readDigits_iff.trans SignedLiteral.plus_iff.symm
  · exact map_neg_readDigits_iff.trans SignedLiteral.minus_iff.symm
  · next hplus hminus =>
      exact map_ofNat_readDigits_iff.trans (SignedLiteral.plain_iff hplus hminus).symm

theorem SignedLiteral.unique {token : String} {w : Int} (hv : SignedLiteral token.toList v)
    (hw : SignedLiteral token.toList w) : v = w :=
  Option.some.inj ((readSigned_eq_some_iff.mpr hv).symm.trans (readSigned_eq_some_iff.mpr hw))

end ProbeForest.Text
