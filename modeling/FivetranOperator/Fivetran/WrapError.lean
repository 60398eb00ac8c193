import FivetranOperator.Errors
import Mathlib.Data.Nat.Digits

/-!
# The status code of a provider failure

`WrapFivetranError` (`pkg/fivetran/errors.go`) turns every failed SDK call into an `*APIError`.
The SDK reports an unexpected HTTP status only as the text "status code: %d; expected: %d", so
the status is read back with `fmt.Sscanf` against that format, and the code and message are
taken from the `CommonResponse` that the response's JSON carries.

The scanner is modelled as `fmt` runs it on formats of literals, spaces and `%d` verbs: a run of
format spaces needs one input space other than a newline, or the end of the input, and then takes
every space up to a newline; `%d` skips spaces (a newline is an error), accepts one sign and a run
of decimal digits, and parses them with `strconv.ParseInt(tok, 10, 64)`. Input after the format
is left unread.

The main result is the round trip: for every status and expected code in the range of Go's
64-bit `int`, the SDK's text, followed by anything that does not start with a digit, scans back to
the status, and so every `*APIError` built from it carries that status.
-/

namespace FivetranOperator

namespace Fmt

/-- The ranges of runes that `fmt`'s scanner treats as spaces, in increasing order. -/
def spaceRanges : List (Nat × Nat) :=
  [(0x0009, 0x000d), (0x0020, 0x0020), (0x0085, 0x0085), (0x00a0, 0x00a0), (0x1680, 0x1680),
    (0x2000, 0x200a), (0x2028, 0x2029), (0x202f, 0x202f), (0x205f, 0x205f), (0x3000, 0x3000)]

/-- The walk of `isSpace` over the ranges: it stops at the first range not below the rune. -/
def isSpaceIn (rx : Nat) : List (Nat × Nat) → Bool
  | [] => false
  | (lo, hi) :: rest => if rx < lo then false else if rx ≤ hi then true else isSpaceIn rx rest

/-- `isSpace`. -/
def isSpace (r : Char) : Bool :=
  r.toNat < 65536 && isSpaceIn r.toNat spaceRanges

/-- `(*ss).SkipSpace` for `Sscanf`, where a newline is not a space: the input after the spaces,
or `none` at a newline. -/
def skipSpace : List Char → Option (List Char)
  | [] => some []
  | c :: rest => if c = '\n' then none else if isSpace c then skipSpace rest else some (c :: rest)

/-- What `(*ss).advance` does with a run of format spaces and no newline: the input must go on
with a space other than a newline, or end; the spaces up to the next newline are taken. -/
def advanceSpace : List Char → Option (List Char)
  | [] => some []
  | c :: rest =>
    if isSpace c && c != '\n' then some (rest.dropWhile fun d => isSpace d && d != '\n') else none

/-- `s.accept(sign)`: one optional leading sign, and whether it is a minus. -/
def acceptSign : List Char → Bool × List Char
  | [] => (false, [])
  | c :: rest =>
    if c = '+' then (false, rest) else if c = '-' then (true, rest) else (false, c :: rest)

/-- The value of a run of decimal digits. -/
def decimalValue (digits : List Char) : Nat :=
  digits.foldl (fun acc d => 10 * acc + (d.toNat - '0'.toNat)) 0

/-- `strconv.ParseInt(tok, 10, 64)` on a sign and its digits: `none` outside the 64-bit range. -/
def parseInt (negative : Bool) (digits : List Char) : Option Int :=
  let value : Int := if negative then -(decimalValue digits : Int) else decimalValue digits
  if -9223372036854775808 ≤ value ∧ value < 9223372036854775808 then some value else none

/-- `(*ss).scanInt` for `%d` into an `int`, after the `SkipSpace` of `doScanf`: skip spaces,
accept a sign, and take the decimal digits, of which there must be one at least. -/
def scanInt (input : List Char) : Option (Int × List Char) :=
  (skipSpace input).bind fun input =>
    let signed := acceptSign input
    let digits := signed.2.takeWhile Char.isDigit
    if digits = [] then none
    else (parseInt signed.1 digits).map fun value => (value, signed.2.dropWhile Char.isDigit)

/-- One step of a format as `doScanf` works through it. -/
inductive Directive where
  /-- A literal rune, which the input must repeat. -/
  | lit (c : Char)
  /-- A run of spaces with no newline. -/
  | space
  /-- The verb `%d`. -/
  | int
  deriving DecidableEq, Repr

/-- The directives of a format of literals, spaces other than newlines, and `%d` verbs. A run of
spaces is one directive, as `advance` takes it. -/
def Directive.ofFormat : List Char → List Directive
  | [] => []
  | '%' :: 'd' :: rest => .int :: ofFormat rest
  | c :: rest =>
    if isSpace c then
      match ofFormat rest with
      | .space :: ds => .space :: ds
      | ds => .space :: ds
    else .lit c :: ofFormat rest

/-- `fmt.Sscanf(str, format, ...)` with one `*int` per `%d`: the integers scanned, or `none`
where `doScanf` reports an error. Input after the format is not read. -/
def sscanf : List Directive → List Char → Option (List Int)
  | [], _ => some []
  | .space :: ds, input => (advanceSpace input).bind (sscanf ds)
  | .lit c :: ds, input =>
    match input with
    | x :: rest => if x = c then sscanf ds rest else none
    | [] => none
  | .int :: ds, input =>
    (scanInt input).bind fun (value, rest) => (sscanf ds rest).map (value :: ·)

end Fmt

/-- The format of the SDK's error for an unexpected HTTP status. -/
def statusCodeFormat : String := "status code: %d; expected: %d"

/-- The SDK's error for an unexpected HTTP status, as `fmt.Errorf` prints it. -/
def sdkStatusError (status expected : Int) : String :=
  "status code: " ++ toString status ++ "; expected: " ++ toString expected

/-- The `Code` and `Message` of the SDK's `common.CommonResponse`. -/
structure CommonResponse where
  code : String
  message : String
  deriving DecidableEq, Repr

/-- `extractCommonResponse` for a response whose JSON unmarshals into `common` (`none` for a nil
response or one that does not marshal): taken only when it carries a code or a message. -/
def extractCommonResponse (common : Option CommonResponse) : Option CommonResponse :=
  common.filter fun r => r.code != "" || r.message != ""

/-- The status code that `WrapFivetranError` scans from an error's text: the first `%d` when
the whole format scans, and 0 otherwise. -/
def scanStatusCode (text : String) : Int :=
  match Fmt.sscanf (Fmt.Directive.ofFormat statusCodeFormat.toList) text.toList with
  | some [code, _] => code
  | _ => 0

/-- `WrapFivetranError(response, err)`, where `err` is the error's text: nil without an error,
and otherwise an `*APIError` with the scanned status and the response's code and message. -/
def wrapFivetranError (response : Option CommonResponse) : Option String → Option APIError
  | none => none
  | some err =>
    let common := extractCommonResponse response
    some ⟨scanStatusCode err, (common.map (·.code)).getD "", (common.map (·.message)).getD "", err⟩

namespace Fmt

/-! ### Decimal digits -/

/-- `l` is a non-empty run of decimal digits whose value is `n`. -/
structure Decimal (l : List Char) (n : Nat) : Prop where
  digits : ∀ c ∈ l, c.isDigit = true
  ne_nil : l ≠ []
  value : decimalValue l = n

/-- A decimal digit's code is between those of 0 and 9. -/
theorem isDigit_toNat {c : Char} (h : c.isDigit = true) : 48 ≤ c.toNat ∧ c.toNat ≤ 57 := by
  simp only [Char.isDigit, Bool.and_eq_true, decide_eq_true_eq] at h
  exact ⟨h.1, h.2⟩

/-- A digit is not a space: `%d` and a format space never compete for the same rune. -/
theorem isSpace_of_isDigit {c : Char} (h : c.isDigit = true) : isSpace c = false := by
  have hc := isDigit_toNat h
  simp only [isSpace, spaceRanges, isSpaceIn, Bool.and_eq_false_iff]
  right
  rw [if_neg (by omega), if_neg (by omega), if_neg (by omega), if_neg (by omega), if_pos (by omega)]

/-- The digit of a number below ten is a decimal digit of that value. -/
theorem digitChar_decimal : ∀ d, d < 10 →
    (Nat.digitChar d).isDigit = true ∧ (Nat.digitChar d).toNat - '0'.toNat = d := by
  decide

/-- A digit appended multiplies the value by ten and adds its own. -/
theorem decimalValue_append_digit (l : List Char) (d : Char) :
    decimalValue (l ++ [d]) = 10 * decimalValue l + (d.toNat - '0'.toNat) := by
  simp [decimalValue]

/-- Digits written before an accumulator are the digits alone, then the accumulator. -/
theorem toDigitsCore_append (fuel n : Nat) (ds : List Char) :
    Nat.toDigitsCore 10 fuel n ds = Nat.toDigitsCore 10 fuel n [] ++ ds := by
  induction fuel generalizing n ds with
  | zero => rfl
  | succ fuel ih =>
    simp only [Nat.toDigitsCore]
    split
    · rfl
    · rw [ih _ (_ :: ds), ih _ [_], List.append_assoc, List.singleton_append]

/-- Lean's decimal rendering, with enough fuel, is a run of digits that reads back as `n`. -/
theorem toDigitsCore_decimal : ∀ fuel n, n < fuel → Decimal (Nat.toDigitsCore 10 fuel n []) n
  | 0, _, h => absurd h (Nat.not_lt_zero _)
  | fuel + 1, n, h => by
    have hd := digitChar_decimal (n % 10) (Nat.mod_lt _ (by decide))
    simp only [Nat.toDigitsCore]
    split
    case isTrue hq =>
      refine ⟨by simpa using hd.1, List.cons_ne_nil _ _, ?_⟩
      simp only [decimalValue, List.foldl_cons, List.foldl_nil, hd.2]
      omega
    case isFalse hq =>
      have ih := toDigitsCore_decimal fuel (n / 10) (by omega)
      rw [toDigitsCore_append]
      refine ⟨fun c hc => ?_, by simp, ?_⟩
      · rcases List.mem_append.mp hc with hc | hc
        exacts [ih.digits c hc, by simpa [List.mem_singleton.mp hc] using hd.1]
      · rw [decimalValue_append_digit, ih.value, hd.2]
        omega

/-- `Nat.toDigits 10` writes the decimal digits of its number. -/
theorem toDigits_decimal (n : Nat) : Decimal (Nat.toDigits 10 n) n :=
  toDigitsCore_decimal (n + 1) n (Nat.lt_succ_self n)

/-! ### Scanning one `%d` -/

/-- Skipping space stops at a character that is none. -/
theorem skipSpace_of_not_space {c : Char} (hc : c ≠ '\n') (hs : isSpace c = false)
    (rest : List Char) : skipSpace (c :: rest) = some (c :: rest) := by
  simp [skipSpace, hc, hs]

/-- Whatever follows a run of digits that does not start with a digit is left to the format. -/
theorem takeWhile_digits {l : List Char} {n : Nat} (hl : Decimal l n) {rest : List Char}
    (hrest : rest.head?.all (fun c => !c.isDigit) = true) :
    (l ++ rest).takeWhile Char.isDigit = l ∧ (l ++ rest).dropWhile Char.isDigit = rest := by
  have hdig : ∀ c ∈ l, Char.isDigit c = true := hl.digits
  rw [List.takeWhile_append_of_pos hdig, List.dropWhile_append_of_pos hdig]
  cases rest with
  | nil => simp
  | cons c rest => simp_all

/-- A run of digits, with a minus or without, is neither skipped as a space nor read as a plus. -/
theorem skipSpace_acceptSign {l : List Char} {n : Nat} (hl : Decimal l n) (negative : Bool)
    (rest : List Char) :
    ((skipSpace ((if negative then ['-'] else []) ++ l ++ rest)).map acceptSign) =
      some (negative, l ++ rest) := by
  obtain ⟨c, l', rfl⟩ := List.exists_cons_of_ne_nil hl.ne_nil
  have hc := hl.digits c (.head _)
  have hcnl : c ≠ '\n' := by rintro rfl; exact absurd hc (by decide)
  have hcp : c ≠ '+' := by rintro rfl; exact absurd hc (by decide)
  have hcm : c ≠ '-' := by rintro rfl; exact absurd hc (by decide)
  cases negative
  · rw [if_neg Bool.false_ne_true, List.nil_append, List.cons_append,
      skipSpace_of_not_space hcnl (isSpace_of_isDigit hc)]
    simp [acceptSign, hcp, hcm]
  · rw [if_pos rfl, List.singleton_append, List.cons_append,
      skipSpace_of_not_space (by decide) (by decide)]
    simp [acceptSign]

/-- `%d` reads back every digit run that fits the 64-bit range, with either sign. -/
theorem scanInt_decimal {l : List Char} {m : Nat} (hl : Decimal l m) (negative : Bool)
    (hrange : -9223372036854775808 ≤ (if negative then -(m : Int) else m) ∧
      (if negative then -(m : Int) else m) < 9223372036854775808)
    {rest : List Char} (hrest : rest.head?.all (fun c => !c.isDigit) = true) :
    scanInt ((if negative then ['-'] else []) ++ l ++ rest) =
      some (if negative then -(m : Int) else m, rest) := by
  obtain ⟨input, hskip, hsign⟩ := Option.map_eq_some'.mp (skipSpace_acceptSign hl negative rest)
  obtain ⟨htake, hdrop⟩ := takeWhile_digits hl hrest
  have hparse : parseInt negative l = some (if negative then -(m : Int) else m) := by
    simp only [parseInt, hl.value]
    exact if_pos hrange
  simp only [scanInt, hskip, Option.some_bind, hsign, htake, hdrop, if_neg hl.ne_nil, hparse,
    Option.map_some']

/-- `%d` reads back what Go's `%d` printed, for every integer of the 64-bit range. -/
theorem scanInt_toString (n : Int) (hn : -9223372036854775808 ≤ n ∧ n < 9223372036854775808) {rest : List Char}
    (hrest : rest.head?.all (fun c => !c.isDigit) = true) :
    (scanInt ((toString n).toList ++ rest)) = some (n, rest) := by
  cases n with
  | ofNat m => exact scanInt_decimal (toDigits_decimal m) false hn hrest
  | negSucc m =>
    have hval : -((m + 1 : Nat) : Int) = Int.negSucc m := rfl
    have h := scanInt_decimal (toDigits_decimal (m + 1)) true (by rw [if_pos rfl, hval]; exact hn) hrest
    rw [if_pos rfl, hval] at h
    exact h

/-- Go's `%d` never prints a space first. -/
theorem toString_head_not_space (n : Int) (rest : List Char) :
    ((toString n).toList ++ rest).head?.all (fun d => !isSpace d) = true := by
  cases n with
  | ofNat m =>
    have hm := toDigits_decimal m
    obtain ⟨c, l, hcl⟩ := List.exists_cons_of_ne_nil hm.ne_nil
    have hc := isSpace_of_isDigit (hm.digits c (hcl ▸ .head _))
    show (Nat.toDigits 10 m ++ rest).head?.all _ = true
    simp [hcl, hc]
  | negSucc m => rfl

/-! ### The whole format -/

/-- Literal directives consume their own characters. -/
theorem sscanf_lits (l : List Char) (ds : List Directive) (input : List Char) :
    sscanf (l.map .lit ++ ds) (l ++ input) = sscanf ds input := by
  induction l with
  | nil => rfl
  | cons c l ih => simp [sscanf, ih]

/-- A space directive consumes a run of spaces. -/
theorem sscanf_space (c : Char) (hc : (isSpace c && c != '\n') = true) (ds : List Directive)
    {input : List Char} (hin : input.head?.all (fun d => !isSpace d) = true) :
    sscanf (.space :: ds) (c :: input) = sscanf ds input := by
  cases input with
  | nil => simp [sscanf, advanceSpace, hc]
  | cons d input =>
    have hd : isSpace d = false := by simpa using hin
    simp [sscanf, advanceSpace, hc, hd]

/-- `%d` reads back an integer of 64 bits as `fmt` writes it. -/
theorem sscanf_int (n : Int) (hn : -9223372036854775808 ≤ n ∧ n < 9223372036854775808) (ds : List Directive)
    {rest : List Char} (hrest : rest.head?.all (fun c => !c.isDigit) = true) :
    sscanf (.int :: ds) ((toString n).toList ++ rest) = (sscanf ds rest).map (n :: ·) := by
  rw [sscanf, scanInt_toString n hn hrest, Option.some_bind]

end Fmt

/-- The directives of the SDK's status format. -/
theorem ofFormat_statusCodeFormat : Fmt.Directive.ofFormat statusCodeFormat.toList =
    "status".toList.map .lit ++ (.space :: ("code:".toList.map .lit ++ (.space :: .int ::
      (";".toList.map .lit ++ (.space :: ("expected:".toList.map .lit ++ [.space, .int])))))) := by
  decide

/-- The text the SDK prints, as the scanner meets it. -/
theorem sdkStatusError_toList (status expected : Int) (rest : String) :
    (sdkStatusError status expected ++ rest).toList =
      "status".toList ++ (' ' :: ("code:".toList ++ (' ' :: ((toString status).toList ++
        (";".toList ++ (' ' :: ("expected:".toList ++ (' ' :: ((toString expected).toList ++
          rest.toList))))))))) := by
  simp only [sdkStatusError, String.toList, String.data_append, List.append_assoc]
  rfl

/-- The status code reads back from the SDK's text, for every status and expected code of Go's
64-bit `int` and any text after it that does not start with a digit. -/
theorem scanStatusCode_sdkStatusError (status expected : Int) (hs : -9223372036854775808 ≤ status ∧ status < 9223372036854775808)
    (he : -9223372036854775808 ≤ expected ∧ expected < 9223372036854775808) (rest : String)
    (hrest : rest.toList.head?.all (fun c => !c.isDigit) = true) :
    scanStatusCode (sdkStatusError status expected ++ rest) = status := by
  rw [scanStatusCode, ofFormat_statusCodeFormat, sdkStatusError_toList, Fmt.sscanf_lits,
    Fmt.sscanf_space ' ' rfl _ ?_, Fmt.sscanf_lits,
    Fmt.sscanf_space ' ' rfl _ (Fmt.toString_head_not_space _ _), Fmt.sscanf_int status hs _ ?_,
    Fmt.sscanf_lits, Fmt.sscanf_space ' ' rfl _ ?_, Fmt.sscanf_lits,
    Fmt.sscanf_space ' ' rfl _ (Fmt.toString_head_not_space _ _), Fmt.sscanf_int expected he _ hrest]
  all_goals rfl

/-- The check in `extractCommonResponse` changes nothing: a response with neither a code nor a
message leaves both fields empty either way. -/
theorem extractCommonResponse_fields (response : Option CommonResponse) :
    ((extractCommonResponse response).map (·.code)).getD "" = (response.map (·.code)).getD "" ∧
      ((extractCommonResponse response).map (·.message)).getD "" =
        (response.map (·.message)).getD "" := by
  cases response with
  | none => exact ⟨rfl, rfl⟩
  | some r =>
    simp only [extractCommonResponse, Option.filter_some]
    split <;> simp_all

/-- `WrapFivetranError` on the SDK's error for an unexpected status, followed by any text that
does not start with a digit: an `*APIError` with that status, the response's code and message,
and the text itself. -/
theorem wrapFivetranError_sdkStatusError (response : Option CommonResponse) (status expected : Int)
    (hs : -9223372036854775808 ≤ status ∧ status < 9223372036854775808) (he : -9223372036854775808 ≤ expected ∧ expected < 9223372036854775808)
    (rest : String) (hrest : rest.toList.head?.all (fun c => !c.isDigit) = true) :
    wrapFivetranError response (some (sdkStatusError status expected ++ rest)) =
      some ⟨status, (response.map (·.code)).getD "", (response.map (·.message)).getD "",
        sdkStatusError status expected ++ rest⟩ := by
  obtain ⟨hcode, hmessage⟩ := extractCommonResponse_fields response
  simp only [wrapFivetranError, scanStatusCode_sdkStatusError status expected hs he rest hrest,
    hcode, hmessage]

/-- A not-found error of the SDK: the status code and the API's message, wrapped. -/
theorem wrapFivetranError_sdkStatusError_notFound :
    wrapFivetranError (some ⟨"NotFound_Connection", "Connection not found"⟩)
        (some (sdkStatusError 404 200 ++ "")) =
      some ⟨404, "NotFound_Connection", "Connection not found", sdkStatusError 404 200 ++ ""⟩ :=
  wrapFivetranError_sdkStatusError _ 404 200 (by decide) (by decide) "" rfl

end FivetranOperator
