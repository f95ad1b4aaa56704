import Mathlib
import BookHandlers.Strconv

set_option autoImplicit false

/- What Atoi accepts: an optional '+' or '-' and then a nonempty run of decimal digits
   whose value fits in int64. The fast path and the ParseInt path give the same result on
   every string the fast path takes, so the fast path is an optimisation only. -/
namespace BookHandlers.Strconv

def IsDigit (c : UInt8) : Prop := 48 ≤ c.toNat ∧ c.toNat ≤ 57

instance : DecidablePred IsDigit := fun c => inferInstanceAs (Decidable (48 ≤ c.toNat ∧ c.toNat ≤ 57))

def digitsFrom (n : Nat) (s : Bytes) : Nat := s.foldl (fun n c => n * 10 + (c.toNat - 48)) n

def unsignedSpec (s : Bytes) : Option Nat :=
  if s ≠ [] ∧ ∀ c ∈ s, IsDigit c then some (digitsFrom 0 s) else none

def decimalSpec : Bytes → Option Int
  | 43 :: rest => (unsignedSpec rest).map fun (n : Nat) => (n : Int)
  | 45 :: rest => (unsignedSpec rest).map fun (n : Nat) => -(n : Int)
  | s => (unsignedSpec s).map fun (n : Nat) => (n : Int)

@[simp] theorem digits_from_nil (n : Nat) : digitsFrom n [] = n := rfl

@[simp] theorem digits_from_cons (n : Nat) (c : UInt8) (s : Bytes) :
    digitsFrom n (c :: s) = digitsFrom (n * 10 + (c.toNat - 48)) s := rfl

theorem le_digits_from (n : Nat) (s : Bytes) : n ≤ digitsFrom n s := by
  induction s generalizing n with
  | nil => exact le_rfl
  | cons c rest ih =>
      have := ih (n * 10 + (c.toNat - 48))
      rw [digits_from_cons]
      omega

theorem digits_from_lt (n : Nat) (s : Bytes) (digits : ∀ c ∈ s, IsDigit c) :
    digitsFrom n s < (n + 1) * 10 ^ s.length := by
  induction s generalizing n with
  | nil => simp
  | cons c rest ih =>
      have digit := (digits c (List.mem_cons_self _ _)).2
      calc digitsFrom n (c :: rest) < (n * 10 + (c.toNat - 48) + 1) * 10 ^ rest.length :=
            ih _ fun x member => digits x (List.mem_cons_of_mem _ member)
        _ ≤ ((n + 1) * 10) * 10 ^ rest.length := by gcongr; omega
        _ = (n + 1) * 10 ^ (c :: rest).length := by rw [List.length_cons, pow_succ]; ring

theorem sub_zero_gt_nine (c : UInt8) : c - 48 > 9 ↔ ¬ IsDigit c := by
  simp only [IsDigit, gt_iff_lt, UInt8.lt_def, UInt8.sub_def, UInt8.toNat, BitVec.lt_def,
    BitVec.toNat_sub]
  have := c.toBitVec.isLt
  simp
  omega

theorem sub_zero_to_nat (c : UInt8) (digit : IsDigit c) : (c - 48).toNat = c.toNat - 48 := by
  simp only [IsDigit, UInt8.sub_def, UInt8.toNat, BitVec.toNat_sub] at digit ⊢
  have := c.toBitVec.isLt
  simp
  omega

theorem digit_of_digit (c : UInt8) (digit : IsDigit c) : digitOf c = some (c - 48) := by
  have : 48 ≤ c ∧ c ≤ 57 := by
    simp only [IsDigit, UInt8.le_def, UInt8.toNat, BitVec.le_def] at digit ⊢
    simpa using digit
  simp [digitOf, this]

theorem digit_of_small (c d : UInt8) (found : digitOf c = some d) (small : ¬ d ≥ 10) :
    IsDigit c ∧ d = c - 48 := by
  unfold digitOf at found
  split_ifs at found with range letter
  · cases found
    simp only [IsDigit, UInt8.le_def, UInt8.toNat, BitVec.le_def] at range ⊢
    simpa using range
  · cases found
    simp only [ge_iff_le, UInt8.le_def, UInt8.sub_def, UInt8.add_def, UInt8.toNat, BitVec.le_def,
      BitVec.toNat_sub, BitVec.toNat_add] at small letter
    have := (lower c).toBitVec.isLt
    simp at small letter
    omega

theorem atoi_digits_eq (s0 s : Bytes) (n : Nat) :
    atoiDigits s0 s n = if ∀ c ∈ s, IsDigit c then ((digitsFrom n s : Int), none)
      else (0, some (syntaxError "Atoi" s0)) := by
  induction s generalizing n with
  | nil => simp [atoiDigits]
  | cons c rest ih =>
      by_cases digit : IsDigit c
      · have step := ih (n * 10 + (c.toNat - 48))
        push_cast [Nat.cast_sub digit.1] at step
        simp [atoiDigits, sub_zero_gt_nine, digit, sub_zero_to_nat, Nat.cast_sub digit.1, step]
      · simp [atoiDigits, (sub_zero_gt_nine c).mpr digit, digit]

theorem max_uint64_eq : maxUint64 = 18446744073709551615 := rfl

theorem digit_value (c : UInt8) (digit : IsDigit c) :
    ¬ c - 48 ≥ 10 ∧ (c - 48).toNat = c.toNat - 48 := by
  have value := sub_zero_to_nat c digit
  refine ⟨?_, value⟩
  simp only [ge_iff_le, UInt8.le_def, BitVec.le_def]
  change ¬ 10 ≤ (c - 48).toNat
  have := digit.2
  omega

theorem parse_uint_loop_digit (s0 rest : Bytes) (c : UInt8) (n : Nat) (digit : IsDigit c)
    (fits : n * 10 + (c.toNat - 48) ≤ maxUint64) :
    parseUintLoop s0 (c :: rest) n = parseUintLoop s0 rest (n * 10 + (c.toNat - 48)) := by
  obtain ⟨small, value⟩ := digit_value c digit
  rw [max_uint64_eq] at fits
  simp only [parseUintLoop, digit_of_digit c digit, small, if_false, value, max_uint64_eq,
    Nat.reducePow, Nat.reduceDiv, Nat.reduceAdd]
  have below : ¬ n ≥ 1844674407370955162 := by omega
  have noWrap : n * 10 + (c.toNat - 48) < 18446744073709551616 := by omega
  have noCheck : ¬ (n * 10 + (c.toNat - 48) < n * 10 ∨
      n * 10 + (c.toNat - 48) > 18446744073709551615) := by omega
  rw [if_neg below, Nat.mod_eq_of_lt noWrap, if_neg noCheck]

theorem parse_uint_loop_overflow (s0 rest : Bytes) (c : UInt8) (n : Nat) (digit : IsDigit c)
    (over : maxUint64 < n * 10 + (c.toNat - 48)) :
    parseUintLoop s0 (c :: rest) n = (maxUint64, some (rangeError "ParseUint" s0)) := by
  obtain ⟨small, value⟩ := digit_value c digit
  have nine := digit.2
  rw [max_uint64_eq] at over
  simp only [parseUintLoop, digit_of_digit c digit, small, if_false, value, max_uint64_eq,
    Nat.reducePow, Nat.reduceDiv, Nat.reduceAdd]
  split_ifs <;> first | rfl | omega

theorem parse_uint_loop_not_digit (s0 rest : Bytes) (c : UInt8) (n : Nat) (digit : ¬ IsDigit c) :
    parseUintLoop s0 (c :: rest) n = (0, some (syntaxError "ParseUint" s0)) := by
  unfold parseUintLoop
  split
  · rfl
  · rename_i d found
    have large : d ≥ 10 := by
      by_contra small
      exact digit (digit_of_small c d found small).1
    rw [if_pos large]

theorem parse_uint_loop_digits (s0 s : Bytes) (n : Nat) (bounded : n ≤ maxUint64)
    (digits : ∀ c ∈ s, IsDigit c) :
    parseUintLoop s0 s n = if digitsFrom n s ≤ maxUint64 then (digitsFrom n s, none)
      else (maxUint64, some (rangeError "ParseUint" s0)) := by
  induction s generalizing n with
  | nil => simp [parseUintLoop, bounded]
  | cons c rest ih =>
      have digit := digits c (List.mem_cons_self _ _)
      have grows := le_digits_from (n * 10 + (c.toNat - 48)) rest
      rw [digits_from_cons]
      by_cases fits : n * 10 + (c.toNat - 48) ≤ maxUint64
      · rw [parse_uint_loop_digit s0 rest c n digit fits]
        exact ih _ fits fun x member => digits x (List.mem_cons_of_mem _ member)
      · rw [parse_uint_loop_overflow s0 rest c n digit (by omega), if_neg (by omega)]

theorem parse_uint_loop_ok_digits (s0 s : Bytes) (n : Nat) (ok : (parseUintLoop s0 s n).2 = none) :
    ∀ c ∈ s, IsDigit c := by
  induction s generalizing n with
  | nil => simp
  | cons c rest ih =>
      by_cases digit : IsDigit c
      · by_cases fits : n * 10 + (c.toNat - 48) ≤ maxUint64
        · rw [parse_uint_loop_digit s0 rest c n digit fits] at ok
          exact List.forall_mem_cons.mpr ⟨digit, ih _ ok⟩
        · rw [parse_uint_loop_overflow s0 rest c n digit (by omega)] at ok
          cases ok
      · rw [parse_uint_loop_not_digit s0 rest c n digit] at ok
        cases ok

theorem parse_uint_loop_short (s0 s : Bytes) (n : Nat) (room : (n + 1) * 10 ^ s.length ≤ 10 ^ 19) :
    parseUintLoop s0 s n = if ∀ c ∈ s, IsDigit c then (digitsFrom n s, none)
      else (0, some (syntaxError "ParseUint" s0)) := by
  induction s generalizing n with
  | nil => simp [parseUintLoop]
  | cons c rest ih =>
      by_cases digit : IsDigit c
      · have nine := digit.2
        rw [List.length_cons, pow_succ', ← mul_assoc] at room
        have scale : (n + 1) * 10 ≤ (n + 1) * 10 * 10 ^ rest.length :=
          Nat.le_mul_of_pos_right _ (Nat.pos_pow_of_pos _ (by norm_num))
        have grow : (n * 10 + (c.toNat - 48) + 1) * 10 ^ rest.length ≤ (n + 1) * 10 * 10 ^ rest.length :=
          Nat.mul_le_mul_right _ (by omega)
        have fits : n * 10 + (c.toNat - 48) ≤ maxUint64 := by
          rw [max_uint64_eq]
          norm_num at room
          omega
        rw [parse_uint_loop_digit s0 rest c n digit fits, ih _ (grow.trans room)]
        simp [digit]
      · rw [parse_uint_loop_not_digit s0 rest c n digit, if_neg (by simp [digit])]

theorem parse_uint_digits (u : Bytes) (v : Nat) (spec : unsignedSpec u = some v) :
    parseUint u = if v ≤ maxUint64 then (v, none) else (maxUint64, some (rangeError "ParseUint" u)) := by
  unfold unsignedSpec at spec
  split_ifs at spec with wellFormed
  cases spec
  rw [parseUint, if_neg wellFormed.1]
  exact parse_uint_loop_digits u u 0 (Nat.zero_le _) wellFormed.2

theorem parse_uint_rejects (u : Bytes) (malformed : unsignedSpec u = none) : (parseUint u).2 ≠ none := by
  unfold unsignedSpec at malformed
  split_ifs at malformed with wellFormed
  unfold parseUint
  split_ifs with empty
  · simp
  · exact fun ok => wellFormed ⟨empty, parse_uint_loop_ok_digits u u 0 ok⟩

theorem parse_int_range_ok (s0 : Bytes) (neg : Bool) (un : Nat) (n : Int) :
    parseIntRange s0 neg un = (n, none) ↔
      n = (if neg then -(un : Int) else un) ∧ -2 ^ 63 ≤ n ∧ n < 2 ^ 63 := by
  unfold parseIntRange
  cases neg <;> simp only [Bool.not_false, Bool.not_true, Bool.false_eq_true, true_and, false_and,
    if_true, if_false, Prod.mk.injEq, reduceCtorEq, and_false, false_iff, not_and] <;> split_ifs <;>
    simp only [Prod.mk.injEq, and_true, reduceCtorEq, and_false, false_iff, not_and] <;> omega

theorem parse_int_range_max (s0 : Bytes) (neg : Bool) : (parseIntRange s0 neg maxUint64).2 ≠ none := by
  cases neg <;> simp [parseIntRange, max_uint64_eq]

theorem decimal_spec_cons (c : UInt8) (rest : Bytes) :
    decimalSpec (c :: rest) = (unsignedSpec (if c = 43 ∨ c = 45 then rest else c :: rest)).map
      fun (v : Nat) => if c = 45 then -(v : Int) else v := by
  by_cases plus : c = 43
  · subst plus
    simp [decimalSpec]
  · by_cases minus : c = 45
    · subst minus
      simp [decimalSpec]
    · rw [decimalSpec.eq_def]
      split <;> simp_all

theorem parse_int_ok (s : Bytes) (n : Int) :
    parseInt s = (n, none) ↔ decimalSpec s = some n ∧ -2 ^ 63 ≤ n ∧ n < 2 ^ 63 := by
  cases s with
  | nil => simp [parseInt, decimalSpec, unsignedSpec]
  | cons c rest =>
      rw [decimal_spec_cons]
      simp only [parseInt]
      generalize (if c = 43 ∨ c = 45 then rest else c :: rest) = u
      cases spec : unsignedSpec u with
      | some v =>
          rw [parse_uint_digits u v spec]
          simp only [Option.map_some', Option.some.injEq]
          by_cases fits : v ≤ maxUint64
          · rw [if_pos fits]
            simp only [parse_int_range_ok, decide_eq_true_eq]
            constructor <;> rintro ⟨value, range⟩ <;> exact ⟨value.symm, range⟩
          · rw [if_neg fits]
            simp only [rangeError, ne_eq, not_true_eq_false, if_false]
            rw [max_uint64_eq] at fits
            constructor
            · intro ranged
              exact absurd (congrArg Prod.snd ranged) (parse_int_range_max _ _)
            · rintro ⟨rfl, low, high⟩
              split_ifs at low high <;> omega
      | none =>
          simp only [Option.map_none', reduceCtorEq, false_and, iff_false]
          have rejected := parse_uint_rejects u spec
          obtain invalid | ranged | ok := parse_uint_outcome u
          · rw [invalid]
            simp [syntaxError]
          · rw [ranged]
            exact fun same => parse_int_range_max _ _ (congrArg Prod.snd same)
          · exact absurd ok rejected

theorem parse_int_range_small (s0 : Bytes) (neg : Bool) (un : Nat) (small : un < 2 ^ 63) :
    parseIntRange s0 neg un = (if neg then -(un : Int) else un, none) := by
  rw [parse_int_range_ok]
  refine ⟨rfl, ?_⟩
  cases neg <;> simp only [Bool.false_eq_true, if_true, if_false] <;> omega

theorem atoi_slow_ok (s : Bytes) (n : Int) : atoiSlow s = (n, none) ↔ parseInt s = (n, none) := by
  unfold atoiSlow
  generalize parseInt s = result
  rcases result with ⟨v, _ | e⟩ <;> simp

theorem atoi_fast_agrees (c : UInt8) (rest : Bytes) (short : (c :: rest).length < 19) :
    atoiFast (c :: rest) c rest = atoiSlow (c :: rest) := by
  have swap : (c = 45 ∨ c = 43) ↔ (c = 43 ∨ c = 45) := or_comm
  unfold atoiFast atoiSlow parseInt
  simp only [swap]
  generalize unsigned : (if c = 43 ∨ c = 45 then rest else c :: rest) = u
  have fits : u.length ≤ 18 := by
    rw [← unsigned]
    split <;> simp only [List.length_cons] at short ⊢ <;> omega
  by_cases empty : u.length < 1
  · rw [if_pos empty, List.length_eq_zero.mp (show u.length = 0 by omega)]
    rfl
  · rw [if_neg empty]
    have nonempty : u ≠ [] := fun none => empty (by simp [none])
    have room : (0 + 1) * 10 ^ u.length ≤ 10 ^ 19 := by
      rw [zero_add, one_mul]
      exact Nat.pow_le_pow_right (by norm_num) (by omega)
    rw [show (0 : Int) = ((0 : Nat) : Int) from rfl, atoi_digits_eq, parseUint, if_neg nonempty,
      parse_uint_loop_short u u 0 room]
    by_cases digits : ∀ c ∈ u, IsDigit c
    · have small := digits_from_lt 0 u digits
      have scale : 10 ^ u.length ≤ 10 ^ 18 := Nat.pow_le_pow_right (by norm_num) fits
      have bound : digitsFrom 0 u < 2 ^ 63 := by
        have big : (10 : Nat) ^ 18 < 2 ^ 63 := by norm_num
        omega
      simp [if_pos digits, parse_int_range_small _ _ _ bound]
    · simp only [if_neg digits]
      rfl

theorem atoi_eq_slow (s : Bytes) : atoi s = atoiSlow s := by
  unfold atoi
  split
  · split_ifs with short
    · exact atoi_fast_agrees _ _ short
    · rfl
  · rfl

theorem atoi_outcome (s : Bytes) : IntOutcome "Atoi" s (atoi s) := by
  rw [atoi_eq_slow]
  exact atoi_slow_outcome s

theorem atoi_error_names_input (s : Bytes) (e : NumError) (failed : (atoi s).2 = some e) :
    e.Func = "Atoi" ∧ e.Num = s := by
  have outcome := atoi_outcome s
  generalize atoi s = result at outcome failed
  cases outcome <;> cases failed <;> exact ⟨rfl, rfl⟩

theorem atoi_invalid_zero (s : Bytes) (e : NumError) (failed : (atoi s).2 = some e)
    (invalid : e.Err = .errSyntax) : (atoi s).1 = 0 := by
  have outcome := atoi_outcome s
  generalize atoi s = result at outcome failed ⊢
  cases outcome <;> cases failed <;> first | rfl | cases invalid

theorem atoi_accepts (s : Bytes) (n : Int) :
    atoi s = (n, none) ↔ decimalSpec s = some n ∧ -2 ^ 63 ≤ n ∧ n < 2 ^ 63 := by
  rw [atoi_eq_slow, atoi_slow_ok, parse_int_ok]

theorem atoi_ok_iff (s : Bytes) (n : Int) :
    atoi s = atoiSlow s ∧ (atoi s = (n, none) ↔ decimalSpec s = some n ∧ -2 ^ 63 ≤ n ∧ n < 2 ^ 63) :=
  ⟨atoi_eq_slow s, atoi_accepts s n⟩

theorem parse_int_range_errors (s0 : Bytes) (neg : Bool) (un : Nat) :
    (parseIntRange s0 neg un).2 = none ∨ (parseIntRange s0 neg un).2 = some (rangeError "ParseInt" s0) := by
  unfold parseIntRange
  split_ifs <;> simp

theorem parse_int_decimal_errors (s : Bytes) (n : Int) (decimal : decimalSpec s = some n) :
    (parseInt s).2 = none ∨ (parseInt s).2 = some (rangeError "ParseInt" s) := by
  cases s with
  | nil => simp [decimalSpec, unsignedSpec] at decimal
  | cons c rest =>
      rw [decimal_spec_cons] at decimal
      obtain ⟨v, spec, -⟩ := Option.map_eq_some'.mp decimal
      simp only [parseInt]
      rw [parse_uint_digits _ v spec]
      by_cases fits : v ≤ maxUint64
      · rw [if_pos fits]
        exact parse_int_range_errors _ _ _
      · rw [if_neg fits]
        simp only [rangeError, ne_eq, not_true_eq_false, if_false]
        exact parse_int_range_errors _ _ _

theorem atoi_syntax_not_decimal (s : Bytes) (e : NumError) (failed : (atoi s).2 = some e)
    (invalid : e.Err = .errSyntax) : decimalSpec s = none := by
  by_contra decimal
  obtain ⟨n, decimal⟩ := Option.ne_none_iff_exists'.mp decimal
  rw [atoi_eq_slow, atoiSlow] at failed
  rcases parse_int_decimal_errors s n decimal with ok | ranged
  · simp [ok] at failed
  · simp only [ranged, Option.map_some', Option.some.injEq, rangeError] at failed
    rw [← failed] at invalid
    cases invalid

theorem atoi_invalid_not_decimal (s : Bytes) (e : NumError) (failed : (atoi s).2 = some e)
    (invalid : e.Err = .errSyntax) : decimalSpec s = none ∧ (atoi s).1 = 0 :=
  ⟨atoi_syntax_not_decimal s e failed invalid, atoi_invalid_zero s e failed invalid⟩

theorem atoi_invalid_not_decimal_abc :
    (atoi [97, 98, 99]).2 = some (syntaxError "Atoi" [97, 98, 99]) ∧
      (syntaxError "Atoi" [97, 98, 99]).Err = .errSyntax ∧
      decimalSpec [97, 98, 99] = none ∧ (atoi [97, 98, 99]).1 = 0 :=
  ⟨by decide, rfl, atoi_invalid_not_decimal _ (syntaxError "Atoi" [97, 98, 99]) (by decide) rfl⟩

example : decimalSpec (List.replicate 20 57 ++ [120]) = none ∧
    atoi (List.replicate 20 57 ++ [120]) =
      (2 ^ 63 - 1, some (rangeError "Atoi" (List.replicate 20 57 ++ [120]))) := by
  decide

end BookHandlers.Strconv
