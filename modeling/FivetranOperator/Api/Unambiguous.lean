import FivetranOperator.Api.Decode

/-!
# The encoding names one document

`renderJson` writes a document as `encoding/json` writes it, and the text it writes can be read
back from the left one decision at a time: the first character tells the kind of value, each
escape of a string stands for one character and a string runs to its first unescaped quotation
mark, a number runs to the first character that cannot be part of one, and the items and members
of arrays and objects are separated and closed by characters no value starts with. Two documents
whose numbers follow the grammar and whose encodings are the same text are therefore the same
document (`renderJson_injective`).
-/

namespace FivetranOperator

section Text

/-- The characters of strings appended one after another. -/
theorem foldl_append_data (acc : String) (l : List String) :
    (l.foldl (· ++ ·) acc).data = acc.data ++ (l.map String.data).flatten := by
  induction l generalizing acc with
  | nil => simp
  | cons s l ih => simp [ih]

/-- The characters of a comma-separated list after its first element. -/
theorem intercalate_go_data (acc : String) (l : List String) :
    (String.intercalate.go acc "," l).data = acc.data ++ (l.map fun s => ',' :: s.data).flatten := by
  induction l generalizing acc with
  | nil => simp [String.intercalate.go]
  | cons s l ih =>
    rw [String.intercalate.go, ih]
    simp only [String.data_append, List.map_cons, List.flatten_cons, List.append_assoc]
    rfl

/-- The characters of a string as `encoding/json` escapes them, quotation marks left out. -/
def escapedChars (cs : List Char) : List Char := (cs.map fun c => (escapeChar c).data).flatten

/-- A quoted string is its escaped characters between quotes. -/
theorem jsonString_data (s : String) : (jsonString s).data = '"' :: escapedChars s.data ++ ['"'] := by
  simp only [jsonString, String.data_append, String.join, foldl_append_data, escapedChars, List.map_map]
  rfl

/-- A member is its quoted key, a colon, and its value's text. -/
theorem jsonMember_data (k s : String) :
    (jsonMember k s).data = '"' :: escapedChars k.data ++ '"' :: ':' :: s.data := by
  simp only [jsonMember, String.data_append, jsonString_data, List.cons_append, List.append_assoc]
  rfl

/-- `renderItems` renders each item. -/
theorem renderItems_eq_map : ∀ items : List JsonValue, renderItems items = items.map renderJson
  | [] => rfl
  | v :: rest => by rw [renderItems, renderItems_eq_map rest, List.map_cons]

/-- `renderMembers` renders each member. -/
theorem renderMembers_eq_map : ∀ entries : List (String × JsonValue),
    renderMembers entries = entries.map fun e => jsonMember e.1 (renderJson e.2)
  | [] => rfl
  | (k, v) :: rest => by rw [renderMembers, renderMembers_eq_map rest, List.map_cons]

/-- The text of the items after the first, each after a comma. -/
def itemsTail (items : List JsonValue) : List Char :=
  (items.map fun v => ',' :: (renderJson v).data).flatten

/-- The text of the members after the first, each after a comma. -/
def membersTail (entries : List (String × JsonValue)) : List Char :=
  (entries.map fun e => ',' :: (jsonMember e.1 (renderJson e.2)).data).flatten

/-- The text between an array's brackets. -/
def itemsText : List JsonValue → List Char
  | [] => []
  | v :: rest => (renderJson v).data ++ itemsTail rest

/-- The text between an object's braces. -/
def membersText : List (String × JsonValue) → List Char
  | [] => []
  | (k, v) :: rest => (jsonMember k (renderJson v)).data ++ membersTail rest

/-- An array's text is its items' text between brackets. -/
theorem renderJson_array_data (items : List JsonValue) :
    (renderJson (.array items)).data = '[' :: itemsText items ++ [']'] := by
  rw [renderJson, renderItems_eq_map]
  cases items with
  | nil => rfl
  | cons v rest =>
    simp only [List.map_cons, String.intercalate, String.data_append, intercalate_go_data,
      itemsText, itemsTail, List.map_map]
    rfl

/-- An object's text is its members' text between braces. -/
theorem renderJson_object_data (entries : List (String × JsonValue)) :
    (renderJson (.object entries)).data = '{' :: membersText entries ++ ['}'] := by
  rw [renderJson, renderMembers_eq_map, jsonObject]
  cases entries with
  | nil => rfl
  | cons e rest =>
    obtain ⟨k, v⟩ := e
    simp only [List.map_cons, String.intercalate, String.data_append, intercalate_go_data,
      membersText, membersTail, List.map_map]
    rfl

end Text

section Escapes

/-- The value of a hexadecimal digit as `hex4` writes it. -/
def hexDigitValue (c : Char) : Nat := if c.toNat < 58 then c.toNat - 48 else c.toNat - 87

/-- One character read back from the front of an escaped text. -/
def readEscape : List Char → Option (Char × List Char)
  | [] => none
  | c :: rest =>
    if c ≠ '\\' then some (c, rest)
    else match rest with
      | 'u' :: a :: b :: c :: d :: rest =>
        some (Char.ofNat (4096 * hexDigitValue a + 256 * hexDigitValue b + 16 * hexDigitValue c +
          hexDigitValue d), rest)
      | 'n' :: rest => some ('\n', rest)
      | 'r' :: rest => some ('\r', rest)
      | 't' :: rest => some ('\t', rest)
      | e :: rest => some (e, rest)
      | [] => none

/-- The four digits of `hex4` read back give the code point. -/
theorem hexDigitValue_hex4 {n : Nat} (hn : n < 65536) :
    ∃ a b c d, (hex4 n).data = [a, b, c, d] ∧
      4096 * hexDigitValue a + 256 * hexDigitValue b + 16 * hexDigitValue c + hexDigitValue d = n := by
  have hdigit : ∀ d < 16,
      hexDigitValue (if d < 10 then Char.ofNat (48 + d) else Char.ofNat (87 + d)) = d := by decide
  refine ⟨_, _, _, _, rfl, ?_⟩
  rw [hdigit _ (Nat.mod_lt _ (by decide)), hdigit _ (Nat.mod_lt _ (by decide)),
    hdigit _ (Nat.mod_lt _ (by decide)), hdigit _ (Nat.mod_lt _ (by decide))]
  omega

/-- Each escape is read back as the character it stands for. -/
theorem readEscape_escapeChar (c : Char) (x : List Char) :
    readEscape ((escapeChar c).data ++ x) = some (c, x) := by
  unfold escapeChar
  split
  · rfl
  · rfl
  · rfl
  · rfl
  · rfl
  · rfl
  · rfl
  · rfl
  · rename_i hquote hback _ _ _ _ _ _
    split
    · rename_i hcode
      obtain ⟨a, b, d, e, hdigits, hvalue⟩ := hexDigitValue_hex4 (show c.toNat < 65536 by omega)
      rw [String.data_append, hdigits]
      show some (Char.ofNat _, x) = _
      rw [hvalue, Char.ofNat_toNat]
    · show (if c ≠ '\\' then some (c, x) else _) = _
      exact if_pos hback

/-- No escape starts with a quotation mark. -/
theorem quote_ne_escapeChar (c : Char) (r x : List Char) : '"' :: r ≠ (escapeChar c).data ++ x := by
  intro h
  have hread : some ('"', r) = some (c, x) := (congrArg readEscape h).trans (readEscape_escapeChar c x)
  obtain ⟨rfl, rfl⟩ := Prod.mk.inj (Option.some.inj hread)
  have hquote : (escapeChar '"').data = ['\\', '"'] := rfl
  rw [hquote] at h
  simp at h

/-- Escaped texts alike up to their closing quotation marks are escapes of the same characters,
followed by the same text. -/
theorem escapedChars_append_inj : ∀ {s₁ s₂ r₁ r₂ : List Char},
    escapedChars s₁ ++ '"' :: r₁ = escapedChars s₂ ++ '"' :: r₂ → s₁ = s₂ ∧ r₁ = r₂
  | [], [], _, _, h => ⟨rfl, (List.cons.inj h).2⟩
  | [], c :: s₂, r₁, r₂, h => by
    simp only [escapedChars, List.map_cons, List.flatten_cons, List.append_assoc] at h
    exact absurd h (quote_ne_escapeChar c _ _)
  | c :: s₁, [], r₁, r₂, h => by
    simp only [escapedChars, List.map_cons, List.flatten_cons, List.append_assoc] at h
    exact absurd h.symm (quote_ne_escapeChar c _ _)
  | c₁ :: s₁, c₂ :: s₂, r₁, r₂, h => by
    have hread := congrArg readEscape h
    simp only [escapedChars, List.map_cons, List.flatten_cons, List.append_assoc] at hread
    rw [readEscape_escapeChar, readEscape_escapeChar] at hread
    obtain ⟨rfl, hrest⟩ := Prod.mk.inj (Option.some.inj hread)
    obtain ⟨rfl, rfl⟩ := escapedChars_append_inj hrest
    exact ⟨rfl, rfl⟩

end Escapes

section Numbers

/-- A character that can stand in the text of a number. -/
def isNumberChar (c : Char) : Bool :=
  c.isDigit || c == '-' || c == '+' || c == '.' || c == 'e' || c == 'E'

/-- A number's text as the grammar spells one: not empty, of number characters only. -/
def NumberText (text : String) : Prop := text.data ≠ [] ∧ ∀ c ∈ text.data, isNumberChar c = true

/-- Of two runs of characters with a property, each followed by a text that does not start with
one, the longer cannot stop where the shorter does. -/
theorem append_eq_of_run {p : Char → Bool} : ∀ {xs ys r₁ r₂ : List Char},
    (∀ c ∈ xs, p c = true) → (∀ c ∈ ys, p c = true) → (∀ c ∈ r₁.head?, p c = false) →
    (∀ c ∈ r₂.head?, p c = false) → xs ++ r₁ = ys ++ r₂ → xs = ys ∧ r₁ = r₂
  | [], [], _, _, _, _, _, _, h => ⟨rfl, h⟩
  | [], y :: ys, _, _, _, hys, hr₁, _, h => by
    subst h
    simp [hys y (.head _)] at hr₁
  | x :: xs, [], _, _, hxs, _, _, hr₂, h => by
    subst h
    simp [hxs x (.head _)] at hr₂
  | x :: xs, y :: ys, _, _, hxs, hys, hr₁, hr₂, h => by
    obtain ⟨rfl, htail⟩ := List.cons.inj h
    obtain ⟨rfl, rfl⟩ := append_eq_of_run (fun c hc => hxs c (.tail _ hc))
      (fun c hc => hys c (.tail _ hc)) hr₁ hr₂ htail
    exact ⟨rfl, rfl⟩

/-- The exponent part of a number is made of number characters. -/
theorem exponentPart_chars : ∀ {cs : List Char}, (exponentPart cs).isSome →
    ∀ c ∈ cs, isNumberChar c = true
  | [], _ => by simp
  | e :: rest, h => by
    have he : e = 'e' ∨ e = 'E' := by
      by_contra hne
      simp [exponentPart, hne] at h
    have hsign : ∀ c ∈ rest, c = '-' ∨ c = '+' ∨ c.isDigit = true := by
      simp only [exponentPart, he, if_true] at h
      split at h
      · rename_i hcond
        have hall := List.all_eq_true.mp hcond.2
        revert hall
        split <;> intro hall c hc
        · rcases List.mem_cons.mp hc with rfl | hc
          · exact .inl rfl
          · exact .inr (.inr (hall c hc))
        · rcases List.mem_cons.mp hc with rfl | hc
          · exact .inr (.inl rfl)
          · exact .inr (.inr (hall c hc))
        · exact .inr (.inr (hall c hc))
      · simp at h
    intro c hc
    rcases List.mem_cons.mp hc with rfl | hc
    · rcases he with rfl | rfl <;> rfl
    · rcases hsign c hc with rfl | rfl | hd <;> simp [isNumberChar, *]

/-- A number without its sign is made of number characters, at least one. -/
theorem parseUnsigned_chars {u : List Char} (h : (parseUnsigned u).isSome) :
    u ≠ [] ∧ ∀ c ∈ u, isNumberChar c = true := by
  have hdigit : ∀ {ds : List Char}, ∀ c ∈ ds.takeWhile Char.isDigit, isNumberChar c = true :=
    fun c hc => by simp [isNumberChar, List.mem_takeWhile_imp hc]
  unfold parseUnsigned at h
  simp only [List.span_eq_take_drop] at h
  split at h
  · simp at h
  · rename_i hint
    refine ⟨fun hu => hint (.inl (by simp [hu])), fun c hc => ?_⟩
    rw [← List.takeWhile_append_dropWhile Char.isDigit u, List.mem_append] at hc
    rcases hc with hc | hc
    · exact hdigit c hc
    · split at h
      · rename_i afterPoint heq
        rw [heq] at hc
        split at h
        · simp at h
        · rw [Option.isSome_map'] at h
          rw [← List.takeWhile_append_dropWhile Char.isDigit afterPoint] at hc
          simp only [List.mem_cons, List.mem_append] at hc
          rcases hc with rfl | hc | hc
          · rfl
          · exact hdigit c hc
          · exact exponentPart_chars h c hc
      · rw [Option.isSome_map'] at h
        exact exponentPart_chars h c hc

/-- A text of the number grammar is spelled with number characters. -/
theorem numberText_of_parseNumber {text : String} (h : (parseNumber text).isSome) : NumberText text := by
  unfold parseNumber at h
  split at h <;> rename_i heq
  · obtain ⟨_, hchars⟩ := parseUnsigned_chars h
    refine ⟨by simp [heq], fun c hc => ?_⟩
    rw [heq, List.mem_cons] at hc
    rcases hc with rfl | hc
    · rfl
    · exact hchars c hc
  · exact parseUnsigned_chars h

end Numbers

section Documents

/-- Every number of the document is spelled as a number. -/
def JsonValue.Spelled (v : JsonValue) : Prop := ∀ t ∈ v.numbers, NumberText t

/-- What may follow a value inside a document: nothing, a comma, or a closing bracket or brace. -/
def Delimited (r : List Char) : Prop := ∀ c ∈ r.head?, c = ',' ∨ c = ']' ∨ c = '}'

/-- The kind of value a first character announces; `7` for none. -/
def leadKind (c : Char) : Nat :=
  if isNumberChar c then 3
  else if c = 'n' then 0 else if c = 'f' then 1 else if c = 't' then 2 else if c = '"' then 4
  else if c = '[' then 5 else if c = '{' then 6 else 7

/-- The kind of a value, as the first character of its encoding announces it. -/
def JsonValue.leadTag : JsonValue → Nat
  | .null => 0
  | .bool false => 1
  | .bool true => 2
  | .number _ => 3
  | .string _ => 4
  | .array _ => 5
  | .object _ => 6

/-- Every value's lead tag is one of seven. -/
theorem JsonValue.leadTag_le (v : JsonValue) : v.leadTag ≤ 6 := by
  rcases v with _ | ⟨_ | _⟩ | _ | _ | _ | _ <;> simp [JsonValue.leadTag]

/-- An encoding opens with the character that announces its kind. -/
theorem renderJson_lead {v : JsonValue} (hv : v.Spelled) :
    ∃ c body, (renderJson v).data = c :: body ∧ leadKind c = v.leadTag := by
  rcases v with _ | ⟨_ | _⟩ | t | s | items | entries
  · exact ⟨'n', ['u', 'l', 'l'], rfl, by decide⟩
  · exact ⟨'f', ['a', 'l', 's', 'e'], rfl, by decide⟩
  · exact ⟨'t', ['r', 'u', 'e'], rfl, by decide⟩
  · obtain ⟨hne, hchars⟩ := hv t (List.mem_singleton_self t)
    obtain ⟨c, body, hcs⟩ := List.exists_cons_of_ne_nil hne
    refine ⟨c, body, hcs, ?_⟩
    simp [leadKind, hchars c (by rw [hcs]; exact .head _), JsonValue.leadTag]
  · exact ⟨_, _, jsonString_data s, show leadKind '"' = 4 by decide⟩
  · exact ⟨_, _, renderJson_array_data items, show leadKind '[' = 5 by decide⟩
  · exact ⟨_, _, renderJson_object_data entries, show leadKind '{' = 6 by decide⟩

/-- Encodings alike from their first character on are of values of one kind. -/
theorem leadTag_eq_of_append {v₁ v₂ : JsonValue} {r₁ r₂ : List Char} (hs₁ : v₁.Spelled)
    (hs₂ : v₂.Spelled) (h : (renderJson v₁).data ++ r₁ = (renderJson v₂).data ++ r₂) :
    v₁.leadTag = v₂.leadTag := by
  obtain ⟨c₁, _, h₁, hk₁⟩ := renderJson_lead hs₁
  obtain ⟨c₂, _, h₂, hk₂⟩ := renderJson_lead hs₂
  rw [h₁, h₂] at h
  rw [← hk₁, ← hk₂, (List.cons.inj h).1]

/-- No value starts with a character that announces none. -/
theorem cons_ne_renderJson {v : JsonValue} (hv : v.Spelled) {c : Char} (hc : leadKind c = 7)
    (r x : List Char) : c :: r ≠ (renderJson v).data ++ x := by
  obtain ⟨c', _, hv', hk⟩ := renderJson_lead hv
  rw [hv']
  intro h
  have := v.leadTag_le
  rw [← (List.cons.inj h).1] at hk
  omega

/-- A number cannot run on into what may follow a value. -/
theorem Delimited.not_number {r : List Char} (hr : Delimited r) : ∀ c ∈ r.head?, isNumberChar c = false :=
  fun c hc => by rcases hr c hc with rfl | rfl | rfl <;> rfl

/-- The items after the first, then the closing bracket, start with a comma or the bracket. -/
theorem delimited_itemsTail (items : List JsonValue) (r : List Char) :
    Delimited (itemsTail items ++ ']' :: r) := by
  cases items <;> simp [Delimited, itemsTail]

/-- The members after the first, then the closing brace, start with a comma or the brace. -/
theorem delimited_membersTail (entries : List (String × JsonValue)) (r : List Char) :
    Delimited (membersTail entries ++ '}' :: r) := by
  cases entries <;> simp [Delimited, membersTail]

/-- The numbers of an array's items are those of its first item and of the rest. -/
theorem spelled_itemNumbers {v : JsonValue} {rest : List JsonValue}
    (h : ∀ t ∈ itemNumbers (v :: rest), NumberText t) :
    v.Spelled ∧ ∀ t ∈ itemNumbers rest, NumberText t :=
  ⟨fun t ht => h t (List.mem_append_left _ ht), fun t ht => h t (List.mem_append_right _ ht)⟩

/-- The numbers of an object's values are those of its first value and of the rest. -/
theorem spelled_memberNumbers {k : String} {v : JsonValue} {rest : List (String × JsonValue)}
    (h : ∀ t ∈ memberNumbers ((k, v) :: rest), NumberText t) :
    v.Spelled ∧ ∀ t ∈ memberNumbers rest, NumberText t :=
  ⟨fun t ht => h t (List.mem_append_left _ ht), fun t ht => h t (List.mem_append_right _ ht)⟩

mutual
/-- Two encodings alike up to what follows each, where a value may end, encode the same value
and are followed by the same text. -/
theorem renderJson_append_inj : ∀ (v₁ v₂ : JsonValue) {r₁ r₂ : List Char}, v₁.Spelled →
    v₂.Spelled → Delimited r₁ → Delimited r₂ →
    (renderJson v₁).data ++ r₁ = (renderJson v₂).data ++ r₂ → v₁ = v₂ ∧ r₁ = r₂
  | .null, v₂, _, _, hs₁, hs₂, _, _, h => by
    have htag := leadTag_eq_of_append hs₁ hs₂ h
    rcases v₂ with _ | ⟨_ | _⟩ | _ | _ | _ | _ <;> simp [JsonValue.leadTag] at htag
    exact ⟨rfl, List.append_cancel_left h⟩
  | .bool b, v₂, _, _, hs₁, hs₂, _, _, h => by
    have htag := leadTag_eq_of_append hs₁ hs₂ h
    rcases b <;> rcases v₂ with _ | ⟨_ | _⟩ | _ | _ | _ | _ <;> simp [JsonValue.leadTag] at htag <;>
      exact ⟨rfl, List.append_cancel_left h⟩
  | .number t₁, v₂, _, _, hs₁, hs₂, hr₁, hr₂, h => by
    have htag := leadTag_eq_of_append hs₁ hs₂ h
    rcases v₂ with _ | ⟨_ | _⟩ | t₂ | _ | _ | _ <;> simp [JsonValue.leadTag] at htag
    obtain ⟨htext, hr⟩ := append_eq_of_run (hs₁ t₁ (List.mem_singleton_self _)).2
      (hs₂ t₂ (List.mem_singleton_self _)).2 hr₁.not_number hr₂.not_number h
    exact ⟨congrArg _ (String.ext htext), hr⟩
  | .string s₁, v₂, _, _, hs₁, hs₂, _, _, h => by
    have htag := leadTag_eq_of_append hs₁ hs₂ h
    rcases v₂ with _ | ⟨_ | _⟩ | _ | s₂ | _ | _ <;> simp [JsonValue.leadTag] at htag
    rw [renderJson, renderJson, jsonString_data, jsonString_data] at h
    simp only [List.cons_append, List.append_assoc, List.singleton_append, List.cons.injEq,
      true_and] at h
    obtain ⟨hs, hr⟩ := escapedChars_append_inj h
    exact ⟨congrArg _ (String.ext hs), hr⟩
  | .array i₁, v₂, _, _, hs₁, hs₂, _, _, h => by
    have htag := leadTag_eq_of_append hs₁ hs₂ h
    rcases v₂ with _ | ⟨_ | _⟩ | _ | _ | i₂ | _ <;> simp [JsonValue.leadTag] at htag
    rw [renderJson_array_data, renderJson_array_data] at h
    simp only [List.cons_append, List.append_assoc, List.singleton_append, List.cons.injEq,
      true_and] at h
    rcases i₁ with _ | ⟨w₁, rest₁⟩ <;> rcases i₂ with _ | ⟨w₂, rest₂⟩
    · exact ⟨rfl, (List.cons.inj h).2⟩
    · simp only [itemsText, List.nil_append, List.append_assoc] at h
      exact absurd h (cons_ne_renderJson (spelled_itemNumbers hs₂).1 (c := ']') (by decide) _ _)
    · simp only [itemsText, List.nil_append, List.append_assoc] at h
      exact absurd h.symm (cons_ne_renderJson (spelled_itemNumbers hs₁).1 (c := ']') (by decide) _ _)
    · obtain ⟨hitems, hr⟩ := itemsTail_append_inj (w₁ :: rest₁) (w₂ :: rest₂) hs₁ hs₂
        (congrArg (',' :: ·) h)
      exact ⟨congrArg _ hitems, hr⟩
  | .object e₁, v₂, _, _, hs₁, hs₂, _, _, h => by
    have htag := leadTag_eq_of_append hs₁ hs₂ h
    rcases v₂ with _ | ⟨_ | _⟩ | _ | _ | _ | e₂ <;> simp [JsonValue.leadTag] at htag
    rw [renderJson_object_data, renderJson_object_data] at h
    simp only [List.cons_append, List.append_assoc, List.singleton_append, List.cons.injEq,
      true_and] at h
    rcases e₁ with _ | ⟨⟨k₁, w₁⟩, rest₁⟩ <;> rcases e₂ with _ | ⟨⟨k₂, w₂⟩, rest₂⟩
    · exact ⟨rfl, (List.cons.inj h).2⟩
    · simp [membersText, jsonMember_data] at h
    · simp [membersText, jsonMember_data] at h
    · obtain ⟨hentries, hr⟩ := membersTail_append_inj ((k₁, w₁) :: rest₁) ((k₂, w₂) :: rest₂) hs₁
        hs₂ (congrArg (',' :: ·) h)
      exact ⟨congrArg _ hentries, hr⟩
/-- The items after the first, alike up to the closing bracket, are the same items. -/
theorem itemsTail_append_inj : ∀ (i₁ i₂ : List JsonValue) {r₁ r₂ : List Char},
    (∀ t ∈ itemNumbers i₁, NumberText t) → (∀ t ∈ itemNumbers i₂, NumberText t) →
    itemsTail i₁ ++ ']' :: r₁ = itemsTail i₂ ++ ']' :: r₂ → i₁ = i₂ ∧ r₁ = r₂
  | [], [], _, _, _, _, h => ⟨rfl, (List.cons.inj h).2⟩
  | [], _ :: _, _, _, _, _, h => by simp [itemsTail] at h
  | _ :: _, [], _, _, _, _, h => by simp [itemsTail] at h
  | w₁ :: rest₁, w₂ :: rest₂, _, _, hs₁, hs₂, h => by
    simp only [itemsTail, List.map_cons, List.flatten_cons, List.cons_append, List.append_assoc,
      List.cons.injEq, true_and] at h
    obtain ⟨hw₁, hrest₁⟩ := spelled_itemNumbers hs₁
    obtain ⟨hw₂, hrest₂⟩ := spelled_itemNumbers hs₂
    obtain ⟨rfl, htail⟩ := renderJson_append_inj w₁ w₂ hw₁ hw₂ (delimited_itemsTail _ _)
      (delimited_itemsTail _ _) h
    obtain ⟨rfl, rfl⟩ := itemsTail_append_inj rest₁ rest₂ hrest₁ hrest₂ htail
    exact ⟨rfl, rfl⟩
/-- The members after the first, alike up to the closing brace, are the same members. -/
theorem membersTail_append_inj : ∀ (e₁ e₂ : List (String × JsonValue)) {r₁ r₂ : List Char},
    (∀ t ∈ memberNumbers e₁, NumberText t) → (∀ t ∈ memberNumbers e₂, NumberText t) →
    membersTail e₁ ++ '}' :: r₁ = membersTail e₂ ++ '}' :: r₂ → e₁ = e₂ ∧ r₁ = r₂
  | [], [], _, _, _, _, h => ⟨rfl, (List.cons.inj h).2⟩
  | [], _ :: _, _, _, _, _, h => by simp [membersTail] at h
  | _ :: _, [], _, _, _, _, h => by simp [membersTail] at h
  | (k₁, w₁) :: rest₁, (k₂, w₂) :: rest₂, _, _, hs₁, hs₂, h => by
    simp only [membersTail, List.map_cons, List.flatten_cons, List.cons_append, List.append_assoc,
      List.cons.injEq, true_and] at h
    rw [jsonMember_data, jsonMember_data] at h
    simp only [List.cons_append, List.append_assoc, List.cons.injEq, true_and] at h
    obtain ⟨hk, hvalue⟩ := escapedChars_append_inj h
    obtain ⟨hw₁, hrest₁⟩ := spelled_memberNumbers hs₁
    obtain ⟨hw₂, hrest₂⟩ := spelled_memberNumbers hs₂
    obtain ⟨rfl, htail⟩ := renderJson_append_inj w₁ w₂ hw₁ hw₂ (delimited_membersTail _ _)
      (delimited_membersTail _ _) (List.cons.inj hvalue).2
    obtain ⟨rfl, rfl⟩ := membersTail_append_inj rest₁ rest₂ hrest₁ hrest₂ htail
    exact ⟨by rw [String.ext hk], rfl⟩
end

/-- Two documents whose numbers are spelled as numbers and whose encodings are the same text are
the same document. -/
theorem renderJson_injective {v₁ v₂ : JsonValue} (hs₁ : v₁.Spelled) (hs₂ : v₂.Spelled)
    (h : renderJson v₁ = renderJson v₂) : v₁ = v₂ :=
  have hend : Delimited [] := by simp [Delimited]
  (renderJson_append_inj v₁ v₂ hs₁ hs₂ hend hend (by rw [h])).1

end Documents

end FivetranOperator
