import Mathlib

set_option autoImplicit false

/- Go's strconv.Atoi on a 64-bit platform (intSize = 64), which GetBook and DeleteBook
   run on their id path parameter. Strings of 1 to 18 bytes take Atoi's fast path; every
   other string goes through ParseInt(s, 10, 0) and ParseUint(s, 10, 0), modelled here at
   base 10 and bitSize 64, the only arguments Atoi passes (so ParseUint's base prefixes
   and underscores never arise). A Go string is its bytes. ParseUint's uint64 accumulator
   is a Nat reduced mod 2^64 where the code relies on the wrap (n * 10 cannot wrap below
   the cutoff, n + d can); the int accumulator of the fast path stays below 10^18 and
   never wraps. -/
namespace BookHandlers.Strconv

abbrev Bytes := List UInt8

inductive NumErr where
  | errSyntax
  | errRange
deriving DecidableEq, Repr

structure NumError where
  Func : String
  Num : Bytes
  Err : NumErr
deriving DecidableEq, Repr

def syntaxError (fn : String) (str : Bytes) : NumError := ⟨fn, str, .errSyntax⟩

def rangeError (fn : String) (str : Bytes) : NumError := ⟨fn, str, .errRange⟩

def maxUint64 : Nat := 2 ^ 64 - 1

def lower (c : UInt8) : UInt8 := c ||| 32

def digitOf (c : UInt8) : Option UInt8 :=
  if 48 ≤ c ∧ c ≤ 57 then some (c - 48)
  else if 97 ≤ lower c ∧ lower c ≤ 122 then some (lower c - 97 + 10)
  else none

def parseUintLoop (s0 : Bytes) : Bytes → Nat → Nat × Option NumError
  | [], n => (n, none)
  | c :: rest, n =>
      match digitOf c with
      | none => (0, some (syntaxError "ParseUint" s0))
      | some d =>
          if d ≥ 10 then (0, some (syntaxError "ParseUint" s0))
          else if n ≥ maxUint64 / 10 + 1 then (maxUint64, some (rangeError "ParseUint" s0))
          else
            let n1 := (n * 10 + d.toNat) % 2 ^ 64
            if n1 < n * 10 ∨ n1 > maxUint64 then (maxUint64, some (rangeError "ParseUint" s0))
            else parseUintLoop s0 rest n1

def parseUint (s : Bytes) : Nat × Option NumError :=
  if s = [] then (0, some (syntaxError "ParseUint" s)) else parseUintLoop s s 0

def parseIntRange (s0 : Bytes) (neg : Bool) (un : Nat) : Int × Option NumError :=
  if !neg ∧ un ≥ 2 ^ 63 then (2 ^ 63 - 1, some (rangeError "ParseInt" s0))
  else if neg ∧ un > 2 ^ 63 then (-2 ^ 63, some (rangeError "ParseInt" s0))
  else (if neg then -un else un, none)

def parseInt (s0 : Bytes) : Int × Option NumError :=
  match s0 with
  | [] => (0, some (syntaxError "ParseInt" s0))
  | c :: rest =>
      match parseUint (if c = 43 ∨ c = 45 then rest else s0) with
      | (un, some e) =>
          if e.Err ≠ .errRange then (0, some { e with Func := "ParseInt", Num := s0 })
          else parseIntRange s0 (c = 45) un
      | (un, none) => parseIntRange s0 (c = 45) un

def atoiDigits (s0 : Bytes) : Bytes → Int → Int × Option NumError
  | [], n => (n, none)
  | ch :: rest, n =>
      if ch - 48 > 9 then (0, some (syntaxError "Atoi" s0))
      else atoiDigits s0 rest (n * 10 + (ch - 48).toNat)

def atoiFast (s0 : Bytes) (c : UInt8) (rest : Bytes) : Int × Option NumError :=
  let s := if c = 45 ∨ c = 43 then rest else s0
  if s.length < 1 then (0, some (syntaxError "Atoi" s0))
  else
    match atoiDigits s0 s 0 with
    | (n, none) => (if c = 45 then -n else n, none)
    | failed => failed

def atoiSlow (s : Bytes) : Int × Option NumError :=
  let (i64, err) := parseInt s
  (i64, err.map fun nerr => { nerr with Func := "Atoi" })

def atoi (s : Bytes) : Int × Option NumError :=
  match s with
  | c :: rest => if s.length < 19 then atoiFast s c rest else atoiSlow s
  | [] => atoiSlow s

inductive IntOutcome (fn : String) (s : Bytes) : Int × Option NumError → Prop
  | ok (n : Int) (lower : -2 ^ 63 ≤ n) (upper : n < 2 ^ 63) : IntOutcome fn s (n, none)
  | invalid : IntOutcome fn s (0, some (syntaxError fn s))
  | tooLarge : IntOutcome fn s (2 ^ 63 - 1, some (rangeError fn s))
  | tooSmall : IntOutcome fn s (-2 ^ 63, some (rangeError fn s))

theorem parse_uint_loop_outcome (s0 : Bytes) (s : Bytes) (n : Nat) :
    parseUintLoop s0 s n = (0, some (syntaxError "ParseUint" s0)) ∨
      parseUintLoop s0 s n = (maxUint64, some (rangeError "ParseUint" s0)) ∨
      (parseUintLoop s0 s n).2 = none := by
  induction s generalizing n with
  | nil => exact .inr (.inr rfl)
  | cons c rest ih =>
      unfold parseUintLoop
      split
      · exact .inl rfl
      · dsimp only
        split_ifs
        · exact .inl rfl
        · exact .inr (.inl rfl)
        · exact .inr (.inl rfl)
        · exact ih _

theorem parse_uint_outcome (s : Bytes) :
    parseUint s = (0, some (syntaxError "ParseUint" s)) ∨
      parseUint s = (maxUint64, some (rangeError "ParseUint" s)) ∨ (parseUint s).2 = none := by
  unfold parseUint
  split
  · exact .inl rfl
  · exact parse_uint_loop_outcome s s 0

theorem parse_int_range_outcome (s0 : Bytes) (neg : Bool) (un : Nat) :
    IntOutcome "ParseInt" s0 (parseIntRange s0 neg un) := by
  unfold parseIntRange
  split_ifs with large small negative
  · exact .tooLarge
  · exact .tooSmall
  · simp only [negative, true_and, not_lt] at small
    exact .ok _ (by omega) (by omega)
  · simp only [Bool.not_eq_true] at negative
    simp only [negative, Bool.not_false, true_and, not_le] at large
    exact .ok _ (by omega) (by omega)

theorem parse_int_outcome (s : Bytes) : IntOutcome "ParseInt" s (parseInt s) := by
  unfold parseInt
  split
  · exact .invalid
  · rename_i c rest
    have outcome := parse_uint_outcome (if c = 43 ∨ c = 45 then rest else c :: rest)
    generalize parseUint (if c = 43 ∨ c = 45 then rest else c :: rest) = result at outcome ⊢
    rcases outcome with rfl | rfl | ok
    · exact .invalid
    · exact parse_int_range_outcome _ _ _
    · obtain ⟨un, _ | e⟩ := result
      · exact parse_int_range_outcome _ _ _
      · cases ok

theorem atoi_slow_outcome (s : Bytes) : IntOutcome "Atoi" s (atoiSlow s) := by
  have outcome := parse_int_outcome s
  unfold atoiSlow
  generalize parseInt s = result at outcome ⊢
  cases outcome with
  | ok n lower upper => exact .ok n lower upper
  | invalid => exact .invalid
  | tooLarge => exact .tooLarge
  | tooSmall => exact .tooSmall

end BookHandlers.Strconv
