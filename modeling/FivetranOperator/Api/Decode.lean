import FivetranOperator.Api.Marshal

/-!
# Decoding a document

What the readers of an encoded document make of it. The API server stores an object as its
decoded map encoded again, and `json.Marshal` writes a decoded map the same way: each key once,
its last occurrence winning, members sorted by key (`JsonValue.normalize`). Every document the
operator decodes was written one of these two ways, so a decoder meets its numbers in the order
of the normalized document.

`json.Unmarshal` into `map[string]any` parses every number with `strconv.ParseFloat(s, 64)` and
keeps the first failure, `cannot unmarshal number s into Go value of type float64`. On a text of
the number grammar of RFC 8259 §6 the parse fails exactly when the decimal, rounded to nearest
even, is infinite: when its magnitude is at least `2 ^ 1024 - 2 ^ 970` (`parseFloatOverflows`).
An underflow is no failure; the result is a subnormal or zero.
-/

namespace FivetranOperator

section Numbers

/-- The natural number a string of decimal digits denotes. -/
def digitsValue (digits : List Char) : Nat :=
  digits.foldl (fun n d => 10 * n + (d.toNat - '0'.toNat)) 0

/-- The exponent part `[ e [ minus / plus ] 1*DIGIT ]` that ends a number: its value, or `none`
when the text ends otherwise. -/
def exponentPart : List Char → Option Int
  | [] => some 0
  | e :: rest =>
    if e = 'e' ∨ e = 'E' then
      let (negative, digits) : Bool × List Char :=
        match rest with
        | '-' :: ds => (true, ds)
        | '+' :: ds => (false, ds)
        | ds => (false, ds)
      if digits ≠ [] ∧ digits.all Char.isDigit = true then
        some (if negative then -(digitsValue digits : Int) else digitsValue digits)
      else none
    else none

/-- A number of the grammar `int [ frac ] [ exp ]`, by its digits and a power of ten: the text
denotes `mantissa × 10 ^ exponent`. `none` off the grammar. -/
def parseUnsigned (unsigned : List Char) : Option (Nat × Int) :=
  let (intDigits, rest) := unsigned.span Char.isDigit
  if intDigits = [] ∨ (1 < intDigits.length ∧ intDigits.head? = some '0') then none
  else
    match rest with
    | '.' :: afterPoint =>
      let (fracDigits, rest) := afterPoint.span Char.isDigit
      if fracDigits = [] then none
      else (exponentPart rest).map fun exp =>
        (digitsValue (intDigits ++ fracDigits), exp - fracDigits.length)
    | rest => (exponentPart rest).map fun exp => (digitsValue intDigits, exp)

/-- A number of the grammar `[ minus ] int [ frac ] [ exp ]`: the text denotes
`± mantissa × 10 ^ exponent`. `none` off the grammar. -/
def parseNumber (text : String) : Option (Nat × Int) :=
  match text.data with
  | '-' :: cs => parseUnsigned cs
  | cs => parseUnsigned cs

/-- Half an ulp above `math.MaxFloat64`, that is `2 ^ 1024 - 2 ^ 970`: a decimal of this magnitude
or more rounds to infinity, the tie included since `math.MaxFloat64` has an odd significand. -/
def float64Overflow : Nat :=
  179769313486231580793728971405303415079934132710037826936173778980444968292764750946649017977587207096330286416692887910946555547851940402630657488671505820681908902000708383676273854845817711531764475730270069855571366959622842914819860834936475292719074168444365510704342711559699508093042880177904174497792

/-- `strconv.ParseFloat(text, 64)` fails with `ErrRange`: the text is a number whose magnitude
rounds to infinity. The decoder hands it only texts of the grammar. -/
def parseFloatOverflows (text : String) : Bool :=
  match parseNumber text with
  | none => false
  | some (mantissa, exponent) =>
    if 0 ≤ exponent then decide (float64Overflow ≤ mantissa * Nat.pow 10 exponent.toNat)
    else decide (float64Overflow * Nat.pow 10 (-exponent).toNat ≤ mantissa)

set_option exponentiation.threshold 512 in
example : parseFloatOverflows "1e400" = true := by decide

set_option exponentiation.threshold 512 in
example : parseFloatOverflows "-17976931348623157e292" = false := by decide

set_option exponentiation.threshold 512 in
example : parseFloatOverflows "0.5e-400" = false := by decide

end Numbers

section Documents

mutual
/-- The number texts of a document, in the order its encoding writes them. -/
def JsonValue.numbers : JsonValue → List String
  | .number text => [text]
  | .array items => itemNumbers items
  | .object entries => memberNumbers entries
  | _ => []
/-- The number texts of an array's items. -/
def itemNumbers : List JsonValue → List String
  | [] => []
  | v :: rest => JsonValue.numbers v ++ itemNumbers rest
/-- The number texts of an object's values. -/
def memberNumbers : List (String × JsonValue) → List String
  | [] => []
  | (_, v) :: rest => JsonValue.numbers v ++ memberNumbers rest
end

/-- Entries sorted by key, as `encoding/json` writes the keys of a map: by code point, core's
order on strings (`String.le`), named so that no other order declared on `String` is picked. -/
def sortByKey {α : Type} (entries : List (String × α)) : List (String × α) :=
  entries.insertionSort fun a b => String.le a.1 b.1

mutual
/-- A document as the API server stores it, and as `json.Marshal` writes it once decoded: every
object holds each key once, the last occurrence winning, with its members sorted by key. -/
def JsonValue.normalize : JsonValue → JsonValue
  | .array items => .array (normalizeItems items)
  | .object entries => .object (sortByKey (GoMap.empty.insertAll (normalizeMembers entries)).entries)
  | v => v
/-- The items of an array, each normalized. -/
def normalizeItems : List JsonValue → List JsonValue
  | [] => []
  | v :: rest => JsonValue.normalize v :: normalizeItems rest
/-- The members of an object, each value normalized. -/
def normalizeMembers : List (String × JsonValue) → List (String × JsonValue)
  | [] => []
  | (k, v) :: rest => (k, JsonValue.normalize v) :: normalizeMembers rest
end

/-- The number `json.Unmarshal` into `map[string]any` fails at: the first one out of `float64`
range in the encoding the document reaches the decoder as. -/
def JsonValue.outOfRangeNumber (v : JsonValue) : Option String :=
  v.normalize.numbers.find? parseFloatOverflows

/-- Every number of the document is in `float64` range, as in every object the API server
stores: it refuses a number `ParseFloat` cannot parse. -/
def JsonValue.InRange (v : JsonValue) : Prop :=
  ∀ text ∈ v.numbers, parseFloatOverflows text = false

instance (v : JsonValue) : Decidable v.InRange :=
  inferInstanceAs (Decidable (∀ text ∈ v.numbers, parseFloatOverflows text = false))

/-- A number of an object's values is a number of one of them. -/
theorem mem_memberNumbers {t : String} :
    ∀ {entries : List (String × JsonValue)}, t ∈ memberNumbers entries ↔ ∃ e ∈ entries, t ∈ e.2.numbers
  | [] => by simp [memberNumbers]
  | (k, v) :: rest => by simp [memberNumbers, mem_memberNumbers]

/-- A number of an array's items is a number of one of them. -/
theorem mem_itemNumbers {t : String} :
    ∀ {items : List JsonValue}, t ∈ itemNumbers items ↔ ∃ v ∈ items, t ∈ v.numbers
  | [] => by simp [itemNumbers]
  | v :: rest => by simp [itemNumbers, mem_itemNumbers]

mutual
/-- Normalizing keeps only numbers the document has. -/
theorem mem_numbers_normalize {t : String} : ∀ v : JsonValue, t ∈ v.normalize.numbers → t ∈ v.numbers
  | .array items, h => by
    rw [JsonValue.normalize, JsonValue.numbers] at h
    exact mem_itemNumbers_normalizeItems items h
  | .object entries, h => by
    rw [JsonValue.normalize, JsonValue.numbers, mem_memberNumbers] at h
    obtain ⟨e, he, ht⟩ := h
    rcases GoMap.mem_entries_insertAll _ _ ((List.perm_insertionSort _ _).subset he) with he | he
    · exact absurd he (List.not_mem_nil _)
    · exact mem_memberNumbers_normalizeMembers entries he ht
  | .null, h | .bool _, h | .number _, h | .string _, h => h
/-- Normalizing the items keeps only numbers they have. -/
theorem mem_itemNumbers_normalizeItems {t : String} :
    ∀ items : List JsonValue, t ∈ itemNumbers (normalizeItems items) → t ∈ itemNumbers items
  | [], h => h
  | v :: rest, h => by
    rw [normalizeItems, itemNumbers, List.mem_append] at h
    rw [itemNumbers, List.mem_append]
    exact h.imp (mem_numbers_normalize v) (mem_itemNumbers_normalizeItems rest)
/-- A normalized member holds only numbers of the members it came from. -/
theorem mem_memberNumbers_normalizeMembers {t : String} :
    ∀ (entries : List (String × JsonValue)) {e : String × JsonValue}, e ∈ normalizeMembers entries →
      t ∈ e.2.numbers → t ∈ memberNumbers entries
  | [], _, he, _ => absurd he (List.not_mem_nil _)
  | (k, v) :: rest, e, he, ht => by
    rw [normalizeMembers, List.mem_cons] at he
    rw [memberNumbers, List.mem_append]
    rcases he with rfl | he
    · exact .inl (mem_numbers_normalize v ht)
    · exact .inr (mem_memberNumbers_normalizeMembers rest he ht)
end

/-- A document whose numbers are in range decodes without a range failure. -/
theorem outOfRangeNumber_eq_none {v : JsonValue} (h : v.InRange) : v.outOfRangeNumber = none :=
  List.find?_eq_none.mpr fun t ht => by
    rw [h t (mem_numbers_normalize v ht)]
    decide

end Documents

end FivetranOperator
