import Mathlib.Data.Nat.Digits.Defs
import Mathlib.Data.Set.Finite.Basic
import Mathlib.Tactic.IntervalCases

/-!
Contract: decimal text and 64-bit signed integers.

Owns: the wrap-around of 64-bit arithmetic, the parser of a signed decimal with
its value on failure, and a printer it inverts.
Does not own: other bases, separators or bit sizes.
-/

namespace Kraftsman.Data.Strconv

def maxInt64 : Int := 2 ^ 63 - 1

def minInt64 : Int := -2 ^ 63

/-- The result of arithmetic on 64-bit signed integers. -/
def wrapInt64 (value : Int) : Int := Int.bmod value (2 ^ 64)

variable {value : Int}

theorem wrapInt64_of_mem (low : minInt64 ≤ value) (high : value ≤ maxInt64) :
    wrapInt64 value = value := by
  unfold wrapInt64 minInt64 maxInt64 at *
  apply Int.bmod_eq_of_le <;> norm_num at * <;> omega

inductive NumError where
  | errSyntax
  | errRange
  deriving DecidableEq, Repr

def digitValue (char : Char) : Option Nat :=
  if '0' ≤ char ∧ char ≤ '9' then some (char.toNat - 48) else none

/-- Accumulate decimal digits, most significant first. -/
def foldDigits : Nat → List Char → Option Nat
  | value, [] => some value
  | value, char :: rest =>
    match digitValue char with
    | none => none
    | some digit => foldDigits (10 * value + digit) rest

/-- The unsigned part of a number: digits, and at least one. -/
def parseDigits : List Char → Option Nat
  | [] => none
  | digits => foldDigits 0 digits

/-- The nearest value in range. -/
def clampInt64 (value : Int) : Int × Option NumError :=
  if maxInt64 < value then (maxInt64, some .errRange)
  else if value < minInt64 then (minInt64, some .errRange)
  else (value, none)

/-- Parse a signed decimal. On failure the value is zero for malformed text and
the nearest bound otherwise. -/
def atoi (text : String) : Int × Option NumError :=
  match text.toList with
  | '-' :: digits =>
    match parseDigits digits with
    | none => (0, some .errSyntax)
    | some magnitude => clampInt64 (-(magnitude : Int))
  | '+' :: digits =>
    match parseDigits digits with
    | none => (0, some .errSyntax)
    | some magnitude => clampInt64 magnitude
  | digits =>
    match parseDigits digits with
    | none => (0, some .errSyntax)
    | some magnitude => clampInt64 magnitude

theorem clampInt64_mem (value : Int) :
    minInt64 ≤ (clampInt64 value).1 ∧ (clampInt64 value).1 ≤ maxInt64 := by
  unfold clampInt64
  split_ifs <;> simp only [minInt64, maxInt64] at * <;> omega

theorem atoi_mem (text : String) : minInt64 ≤ (atoi text).1 ∧ (atoi text).1 ≤ maxInt64 := by
  have zero : minInt64 ≤ (0 : Int) ∧ (0 : Int) ≤ maxInt64 := by decide
  unfold atoi
  split <;> split <;> first | exact zero | exact clampInt64_mem _

/-- The integer a text denotes, if it denotes a 64-bit one. -/
def parseInt64 (text : String) : Option Int :=
  match atoi text with
  | (value, none) => some value
  | (_, some _) => none

theorem parseInt64_eq_some {text : String} :
    parseInt64 text = some value ↔ atoi text = (value, none) := by
  unfold parseInt64
  rcases result : atoi text with ⟨parsed, _ | error⟩ <;> simp

theorem parseInt64_mem {text : String} (parsed : parseInt64 text = some value) :
    minInt64 ≤ value ∧ value ≤ maxInt64 := by
  have range := atoi_mem text
  rwa [parseInt64_eq_some.mp parsed] at range

def digitChar (digit : Nat) : Char := Char.ofNat (48 + digit)

def formatDigits (value : Nat) : List Char :=
  if value = 0 then ['0'] else (Nat.digits 10 value).reverse.map digitChar

/-- Print an integer with an explicit sign and leading zeros. -/
def padded (zeros : Nat) (value : Int) : String :=
  String.ofList ((if value < 0 then '-' else '+') ::
    (List.replicate zeros '0' ++ formatDigits value.natAbs))

def formatInt (value : Int) : String :=
  String.ofList ((if value < 0 then ['-'] else []) ++ formatDigits value.natAbs)

theorem digitValue_digitChar {digit : Nat} (small : digit < 10) :
    digitValue (digitChar digit) = some digit := by
  interval_cases digit <;> decide

private theorem foldDigits_append (value : Nat) (front back : List Char) :
    foldDigits value (front ++ back) =
      (foldDigits value front).bind fun middle => foldDigits middle back := by
  induction front generalizing value with
  | nil => rfl
  | cons char rest ih =>
    simp only [List.cons_append, foldDigits]
    cases digitValue char with
    | none => rfl
    | some digit => exact ih _

private theorem foldDigits_reverse (digits : List Nat) (small : ∀ digit ∈ digits, digit < 10) :
    foldDigits 0 (digits.reverse.map digitChar) = some (Nat.ofDigits 10 digits) := by
  induction digits with
  | nil => rfl
  | cons digit rest ih =>
    have restSmall : ∀ other ∈ rest, other < 10 := fun other member => small other (by simp [member])
    have head : digitValue (digitChar digit) = some digit := digitValue_digitChar (small digit (by simp))
    rw [List.reverse_cons, List.map_append, foldDigits_append, ih restSmall]
    simp only [Option.bind_some, List.map_cons, List.map_nil, foldDigits, head, Nat.ofDigits_cons]
    rw [add_comm]

private theorem formatDigits_ne_nil (value : Nat) : formatDigits value ≠ [] := by
  unfold formatDigits
  split
  · simp
  · rename_i nonzero
    simpa using Nat.digits_ne_nil_iff_ne_zero.mpr nonzero

private theorem foldDigits_zeros (zeros : Nat) (digits : List Char) :
    foldDigits 0 (List.replicate zeros '0' ++ digits) = foldDigits 0 digits := by
  induction zeros with
  | zero => rfl
  | succ zeros ih =>
    exact ih

theorem parseDigits_padded (zeros value : Nat) :
    parseDigits (List.replicate zeros '0' ++ formatDigits value) = some value := by
  have fold : foldDigits 0 (List.replicate zeros '0' ++ formatDigits value) = some value := by
    rw [foldDigits_zeros]
    unfold formatDigits
    split
    · rename_i zero
      subst zero
      decide
    · rw [foldDigits_reverse _ fun digit member => Nat.digits_lt_base (by norm_num) member,
        Nat.ofDigits_digits]
  cases printed : List.replicate zeros '0' ++ formatDigits value with
  | nil => exact absurd (List.append_eq_nil_iff.mp printed).2 (formatDigits_ne_nil value)
  | cons char rest =>
    rw [printed] at fold
    exact fold

private theorem clampInt64_of_mem (low : minInt64 ≤ value) (high : value ≤ maxInt64) :
    clampInt64 value = (value, none) := by
  unfold clampInt64
  rw [if_neg (by omega), if_neg (by omega)]

/-- A printed integer, padded with any number of zeros, is parsed back. -/
theorem parseInt64_padded (zeros : Nat) (low : minInt64 ≤ value) (high : value ≤ maxInt64) :
    parseInt64 (padded zeros value) = some value := by
  apply parseInt64_eq_some.mpr
  unfold padded atoi
  by_cases negative : value < 0
  · rw [if_pos negative, String.toList_ofList]
    have magnitude : -(value.natAbs : Int) = value := by omega
    simp only [parseDigits_padded, magnitude]
    exact clampInt64_of_mem low high
  · rw [if_neg negative, String.toList_ofList]
    have magnitude : (value.natAbs : Int) = value := by omega
    simp only [parseDigits_padded, magnitude]
    exact clampInt64_of_mem low high

private theorem formatDigits_cons (value : Nat) :
    ∃ digit rest, formatDigits value = digit :: rest ∧ digit ≠ '-' ∧ digit ≠ '+' := by
  cases printed : formatDigits value with
  | nil => exact absurd printed (formatDigits_ne_nil value)
  | cons digit rest =>
    have parsed := parseDigits_padded 0 value
    rw [List.replicate_zero, List.nil_append, printed] at parsed
    refine ⟨digit, rest, rfl, ?_, ?_⟩ <;>
    · rintro rfl
      simp [parseDigits, foldDigits, digitValue] at parsed

theorem atoi_formatInt (low : minInt64 ≤ value) (high : value ≤ maxInt64) :
    atoi (formatInt value) = (value, none) := by
  have parsed := parseDigits_padded 0 value.natAbs
  rw [List.replicate_zero, List.nil_append] at parsed
  unfold formatInt atoi
  rw [String.toList_ofList]
  by_cases negative : value < 0
  · have magnitude : -(value.natAbs : Int) = value := by omega
    rw [if_pos negative]
    simp only [List.singleton_append, parsed, magnitude]
    exact clampInt64_of_mem low high
  · have magnitude : (value.natAbs : Int) = value := by omega
    rw [if_neg negative, List.nil_append]
    obtain ⟨digit, rest, printed, notMinus, notPlus⟩ := formatDigits_cons value.natAbs
    rw [printed] at parsed ⊢
    split
    · exact absurd (List.cons.inj ‹_›).1 notMinus
    · exact absurd (List.cons.inj ‹_›).1 notPlus
    · simp only [parsed, magnitude]
      exact clampInt64_of_mem low high

theorem exists_text_notMem (texts : Finset String) (low : minInt64 ≤ value)
    (high : value ≤ maxInt64) : ∃ text ∉ texts, parseInt64 text = some value := by
  have injective : Function.Injective fun zeros => padded zeros value := by
    intro left right equal
    have sameLength := congrArg (fun text => text.toList.length) equal
    simpa [padded] using sameLength
  obtain ⟨zeros, fresh⟩ := (Set.infinite_range_of_injective injective).exists_notMem_finset texts
  obtain ⟨⟨count, rfl⟩, notMem⟩ := fresh
  exact ⟨padded count value, notMem, parseInt64_padded count low high⟩

end Kraftsman.Data.Strconv
