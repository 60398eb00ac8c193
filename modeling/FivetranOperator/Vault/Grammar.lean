import FivetranOperator.Vault.Resolve
import Mathlib.Data.List.Basic

/-!
# The reference grammar

`parseVaultReference` strips one `vault:` prefix and cuts the rest at its first `#`: the path
is what stands before, the key everything after, `#` included. So the strings it accepts among
those that start with `vault:` are exactly `vault:<path>#<key>` with a non-empty path free of
`#` and a non-empty key, and parsing inverts the printer `NewKeyNotFoundError` uses for its
`VaultRef`.

The proofs work on the character lists: `splitN2` is one `List.span`, and `span_ne_append`
computes it on a list cut at the separator.
-/

namespace FivetranOperator

/-- The `VaultRef` of a `*VaultError`. -/
def GoError.vaultRef : GoError → Option String
  | .vault _ _ _ vaultRef => some vaultRef
  | _ => none

section Split

variable {c : Char}

/-- Spanning a list cut at the first `c` stops at that `c`. -/
theorem span_ne_append {a : List Char} (b : List Char) (ha : c ∉ a) :
    (a ++ c :: b).span (fun x => decide (x ≠ c)) = (a, c :: b) := by
  have hpos : ∀ x ∈ a, decide (x ≠ c) = true := fun x hx => by
    simpa using fun h : x = c => ha (h ▸ hx)
  rw [List.span_eq_take_drop, List.takeWhile_append_of_pos hpos, List.dropWhile_append_of_pos hpos]
  simp [List.takeWhile_cons, List.dropWhile_cons]

/-- What `dropWhile` stops at fails the test. -/
theorem dropWhile_eq_cons_not {p : Char → Bool} {d : Char} {rest : List Char} :
    ∀ {l : List Char}, l.dropWhile p = d :: rest → p d = false
  | [], h => nomatch h
  | x :: xs, h => by
    rw [List.dropWhile_cons] at h
    split at h
    · exact dropWhile_eq_cons_not h
    · rename_i hx
      cases h
      simpa using hx

/-- `SplitN(s, sep, 2)` has two parts exactly when `s` is the first part, `sep` and the
second, the first part free of `sep`. -/
theorem splitN2_eq_pair (s a b : String) :
    splitN2 s c = [a, b] ↔ s.data = a.data ++ c :: b.data ∧ c ∉ a.data := by
  constructor
  · intro h
    unfold splitN2 at h
    rcases hspan : s.data.span (fun x => decide (x ≠ c)) with ⟨before, _ | ⟨d, after⟩⟩ <;>
      rw [hspan] at h
    · simp at h
    · simp only [List.cons.injEq, and_true] at h
      obtain ⟨rfl, rfl⟩ := h
      rw [List.span_eq_take_drop, Prod.mk.injEq] at hspan
      have hd : d = c := by simpa using dropWhile_eq_cons_not hspan.2
      refine ⟨?_, fun hc => ?_⟩
      · rw [← List.takeWhile_append_dropWhile (fun x => decide (x ≠ c)) s.data, hspan.1, hspan.2, hd]
      · have hc' : c ∈ List.takeWhile (fun x => decide (x ≠ c)) s.data := by rw [hspan.1]; exact hc
        exact of_decide_eq_true (@List.mem_takeWhile_imp _ (fun x => decide (x ≠ c)) _ _ hc') rfl
  · rintro ⟨hs, ha⟩
    unfold splitN2
    rw [hs, span_ne_append _ ha]

end Split

/-- The text `parseVaultReference` cuts: the value without one `vault:` prefix. -/
theorem trimPrefix_vault_data {v : String} (hv : hasPrefix v "vault:" = true) :
    (trimPrefix v "vault:").data = v.data.drop 6 := by
  simp [trimPrefix, hv]
  rfl

/-- A value that starts with `vault:` is the prefix and what follows it. -/
theorem vault_prefix_data {v : String} (hv : hasPrefix v "vault:" = true) :
    v.data = "vault:".data ++ v.data.drop 6 := by
  obtain ⟨rest, hrest⟩ := List.isPrefixOf_iff_prefix.mp hv
  rw [← hrest]
  rfl

/-- The parser's two checks: exactly two parts, neither empty. -/
theorem parseVaultReference_eq_ok_iff (v p k : String) :
    parseVaultReference v = .ok (p, k) ↔
      splitN2 (trimPrefix v "vault:") '#' = [p, k] ∧ p ≠ "" ∧ k ≠ "" := by
  unfold parseVaultReference
  split
  · rename_i path key hsplit
    rw [hsplit]
    by_cases hempty : path = "" ∨ key = ""
    · simp only [hempty, if_true]
      constructor
      · intro h; cases h
      · rintro ⟨h, hp, hk⟩
        simp only [List.cons.injEq, and_true] at h
        rcases hempty with rfl | rfl
        · exact absurd h.1.symm hp
        · exact absurd h.2.symm hk
    · simp only [hempty, if_false, Except.ok.injEq, Prod.mk.injEq, List.cons.injEq, and_true]
      constructor
      · rintro ⟨rfl, rfl⟩
        exact ⟨⟨rfl, rfl⟩, by simpa [not_or] using hempty⟩
      · rintro ⟨⟨rfl, rfl⟩, -⟩
        exact ⟨rfl, rfl⟩
  · rename_i hnot
    constructor
    · intro h; cases h
    · rintro ⟨h, -⟩
      exact absurd h (hnot p k)

/-- `parseVaultReference` accepts exactly the reference grammar among the values that start with
`vault:`, and inverts the `VaultRef` printer of `NewKeyNotFoundError`. -/
theorem parseVaultReference_accepts_grammar :
    (∀ v p k : String, hasPrefix v "vault:" = true →
      (parseVaultReference v = .ok (p, k) ↔
        v = "vault:" ++ p ++ "#" ++ k ∧ p ≠ "" ∧ '#' ∉ p.data ∧ k ≠ "")) ∧
    (∀ p k keyPath : String, ∀ keys : List String, p ≠ "" → '#' ∉ p.data → k ≠ "" →
      ((newKeyNotFoundError keyPath k p keys).vaultRef.map parseVaultReference) =
        some (.ok (p, k))) := by
  have grammar : ∀ v p k : String, hasPrefix v "vault:" = true →
      (parseVaultReference v = .ok (p, k) ↔
        v = "vault:" ++ p ++ "#" ++ k ∧ p ≠ "" ∧ '#' ∉ p.data ∧ k ≠ "") := by
    intro v p k hv
    have hprinted : v = "vault:" ++ p ++ "#" ++ k ↔ v.data.drop 6 = p.data ++ '#' :: k.data := by
      rw [String.ext_iff, vault_prefix_data hv]
      simp only [String.data_append, List.append_assoc, List.append_cancel_left_eq]
      rfl
    rw [parseVaultReference_eq_ok_iff, splitN2_eq_pair, trimPrefix_vault_data hv, hprinted]
    tauto
  refine ⟨grammar, fun p k keyPath keys hp hhash hk => ?_⟩
  have hv : hasPrefix ("vault:" ++ p ++ "#" ++ k) "vault:" = true := by
    simp [hasPrefix, String.data_append, List.isPrefixOf_iff_prefix]
  simp only [newKeyNotFoundError, GoError.vaultRef, Option.map_some', Option.some.injEq]
  exact (grammar _ p k hv).mpr ⟨rfl, hp, hhash, hk⟩

/-- The first case of `TestParseVaultReference`. -/
theorem parseVaultReference_accepts_grammar_apps :
    parseVaultReference "vault:apps/secret#mykey" = .ok ("apps/secret", "mykey") :=
  (parseVaultReference_accepts_grammar.1 _ _ _ (by decide)).mpr ⟨by decide, by decide, by decide, by decide⟩

end FivetranOperator
