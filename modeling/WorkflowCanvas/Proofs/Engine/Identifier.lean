import WorkflowCanvas.Engine.Run
import Mathlib.Logic.Function.Basic
import Mathlib.Tactic.Set
/-!
# Identifiers name their numbers

An identifier spells the number drawn for it in hexadecimal digits, filled
up with zeros and cut into groups by dashes. Reading the digits back gives
the number (`numberOf_identifier`), so numbers drawn apart are named apart.
-/


namespace WorkflowCanvas

namespace Identifier

/-- The value of a hexadecimal digit. -/
def digitValue (c : Char) : Nat := if c.toNat < 58 then c.toNat - 48 else c.toNat - 87

/-- The number that digits spell, after one already read. -/
def valueFrom (v : Nat) (cs : List Char) : Nat := cs.foldl (fun v c => 16 * v + digitValue c) v

/-- The number that an identifier spells; dashes do not count. -/
def numberOf (id : String) : Nat := valueFrom 0 (id.toList.filter (· != '-'))

/-- A digit has its value. -/
theorem digitValue_digitChar {d : Nat} (h : d < 16) : digitValue d.digitChar = d := by
  have key : ∀ d < 16, digitValue (Nat.digitChar d) = d := by decide
  exact key d h

/-- No digit is a dash. -/
theorem digitChar_ne_dash {d : Nat} (h : d < 16) : d.digitChar ≠ '-' := by
  have key : ∀ d < 16, Nat.digitChar d ≠ '-' := by decide
  exact key d h

/-- **The digits of a number spell it.** -/
theorem valueFrom_toDigits (n : Nat) : valueFrom 0 (Nat.toDigits 16 n) = n := by
  induction n using Nat.strongRecOn with
  | _ n ih =>
    rcases Nat.lt_or_ge n 16 with h | h
    · rw [Nat.toDigits_of_lt_base h]
      simp [valueFrom, digitValue_digitChar h]
    · have hmod : n % 16 < 16 := Nat.mod_lt n (by omega)
      rw [Nat.toDigits_of_base_le (by omega) h, valueFrom, List.foldl_append]
      show 16 * valueFrom 0 (Nat.toDigits 16 (n / 16)) + digitValue (n % 16).digitChar = n
      rw [ih (n / 16) (by omega), digitValue_digitChar hmod]
      omega

/-- Digits are no dashes. -/
theorem ne_dash_of_mem_toDigits {n : Nat} {c : Char} (h : c ∈ Nat.toDigits 16 n) : c ≠ '-' := by
  induction n using Nat.strongRecOn with
  | _ n ih =>
    rcases Nat.lt_or_ge n 16 with hn | hn
    · rw [Nat.toDigits_of_lt_base hn, List.mem_singleton] at h
      exact h ▸ digitChar_ne_dash hn
    · rw [Nat.toDigits_of_base_le (by omega) hn, List.mem_append, List.mem_singleton] at h
      rcases h with h | rfl
      · exact ih (n / 16) (by omega) h
      · exact digitChar_ne_dash (Nat.mod_lt n (by omega))

/-- Zeros in front do not count. -/
theorem valueFrom_replicate_append (k : Nat) (cs : List Char) :
    valueFrom 0 (List.replicate k '0' ++ cs) = valueFrom 0 cs := by
  induction k with
  | zero => rfl
  | succ k ih => exact ih

/-- The groups of a text put together are the text. -/
theorem groups_append (cs : List Char) :
    cs.take 8 ++ ((cs.drop 8).take 4 ++ ((cs.drop 12).take 4 ++ ((cs.drop 16).take 4
      ++ cs.drop 20))) = cs := by
  have hgroup : ∀ m n, (cs.drop m).take n ++ cs.drop (m + n) = cs.drop m := by
    intro m n
    rw [← List.drop_drop, List.take_append_drop]
  rw [hgroup 16 4, hgroup 12 4, hgroup 8 4, List.take_append_drop]

/-- **An identifier spells its number.** -/
theorem numberOf_identifier (n : Nat) : numberOf (identifier n) = n := by
  set digits := Nat.toDigits 16 n with hdigits
  set padded := List.replicate (32 - digits.length) '0' ++ digits with hpadded
  have hdash : ∀ c ∈ padded, (c != '-') = true := by
    intro c hc
    rw [hpadded, List.mem_append, List.mem_replicate] at hc
    rcases hc with ⟨-, rfl⟩ | hc
    · rfl
    · simpa using ne_dash_of_mem_toDigits hc
  have hgroups : (identifier n).toList.filter (· != '-') = padded.filter (· != '-') := by
    rw [← groups_append padded]
    simp [identifier, ← hdigits, ← hpadded, List.filter_append]
  rw [numberOf, hgroups, List.filter_eq_self.2 hdash, hpadded, valueFrom_replicate_append,
    valueFrom_toDigits]

end Identifier

/-- **Numbers drawn apart are named apart.** -/
theorem identifier_injective : Function.Injective identifier :=
  Function.LeftInverse.injective Identifier.numberOf_identifier

end WorkflowCanvas
