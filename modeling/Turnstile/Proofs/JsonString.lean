/-
# JSON strings are read back

A character of a JSON string is written as itself, by a short escape, by one
escape of four hexadecimal digits, or by two such escapes for the halves of its
surrogate pair. Reading takes the two halves of a pair together and any other
escape alone, so it must be shown that no two characters next to each other are
taken for one: a character is never written by a half that stands alone. Each
character is then read back whatever comes after it (`Json.readString_jsonChar`), and
so is a text up to its closing quote (`Json.readString_points`).

Key theorems: `Json.exists_hexDigits`, `Json.readString_unit`,
`Json.readString_pair`, `Json.readString_jsonChar`, `Json.readString_points`.
-/
import Mathlib.Tactic.Common
import Turnstile.Data.Json

namespace Turnstile.Json

/-! ### Escapes -/

theorem hexValue?_digitChar : ∀ k < 16, hexValue? (Nat.digitChar k) = some k := by decide

/-- Four hexadecimal digits are read back to the unit that they spell. -/
theorem exists_hexDigits {n : Nat} (h : n < 0x10000) :
    ∃ a b c d, Text.hexDigits 4 n = [a, b, c, d] ∧ hexUnit? a b c d = some n := by
  have hdigit : ∀ m, hexValue? (Nat.digitChar (m % 16)) = some (m % 16) := fun m =>
    hexValue?_digitChar _ (Nat.mod_lt _ (by decide))
  refine ⟨_, _, _, _, rfl, ?_⟩
  simp only [hexUnit?, hdigit, Option.bind_eq_bind, Option.bind_some, Option.pure_def,
    Option.some.injEq]
  omega

theorem readString_quote (rest : List Char) : readString ('\x22' :: rest) = some ([], rest) := by
  rw [readString.eq_def]
  simp

theorem readString_plain {c : Char} (hquote : c ≠ '\x22') (hslash : c ≠ '\\')
    (hprint : 0x20 ≤ c.toNat) (rest : List Char) :
    readString (c :: rest) = (readString rest).map fun p => (.char c :: p.1, p.2) := by
  rw [readString.eq_def]
  simp [hquote, hslash, Nat.not_lt.2 hprint]

theorem readString_short {e x : Char} (he : e ≠ 'u') (h : shortEscape? e = some x)
    (rest : List Char) :
    readString ('\\' :: e :: rest) = (readString rest).map fun p => (.char x :: p.1, p.2) := by
  rw [readString.eq_4 _ _ _ (fun _ _ _ _ _ _ _ _ _ hu => absurd hu he)
    fun _ _ _ _ _ hu => absurd hu he]
  simp [h]

theorem readString_eq_none {a b c d : Char} (h : hexUnit? a b c d = none) (rest : List Char) :
    readString ('\\' :: 'u' :: a :: b :: c :: d :: rest) = none := by
  by_cases hpair : ∃ a' b' c' d' rest', rest = '\\' :: 'u' :: a' :: b' :: c' :: d' :: rest'
  · obtain ⟨a', b', c', d', rest', rfl⟩ := hpair
    rw [readString.eq_2]
    simp [h]
  · rw [readString.eq_3 _ _ _ _ _ _ fun a' b' c' d' rest' hr =>
      hpair ⟨a', b', c', d', rest', hr⟩]
    simp [h]

/-- An escape that is no first half of a pair is read by itself, whatever comes
after it. -/
theorem readString_unit {n : Nat} (hn : n < 0x10000) (hhalf : n < 0xd800 ∨ 0xdc00 ≤ n)
    (rest : List Char) : readString (Data.unitEscape n ++ rest) =
      (readString rest).map fun p => (.ofValue n :: p.1, p.2) := by
  obtain ⟨a, b, c, d, hdigits, hunit⟩ := exists_hexDigits hn
  rw [Data.unitEscape, hdigits]
  simp only [List.cons_append, List.nil_append]
  by_cases hpair : ∃ a' b' c' d' rest', rest = '\\' :: 'u' :: a' :: b' :: c' :: d' :: rest'
  · obtain ⟨a', b', c', d', rest', rfl⟩ := hpair
    rw [readString.eq_2]
    cases hsecond : hexUnit? a' b' c' d' with
    | none => simp [hunit, readString_eq_none hsecond]
    | some lo =>
      have hfirst : ¬(0xd800 ≤ n ∧ n < 0xdc00 ∧ 0xdc00 ≤ lo ∧ lo < 0xe000) := by omega
      simp [hunit, hfirst]
  · rw [readString.eq_3 _ _ _ _ _ _ fun a' b' c' d' rest' hr =>
      hpair ⟨a', b', c', d', rest', hr⟩]
    simp [hunit]

/-- The escapes of both halves of a pair are read as one code point. -/
theorem readString_pair {hi lo : Nat} (hhi : 0xd800 ≤ hi ∧ hi < 0xdc00)
    (hlo : 0xdc00 ≤ lo ∧ lo < 0xe000) (rest : List Char) :
    readString (Data.unitEscape hi ++ Data.unitEscape lo ++ rest) = (readString rest).map fun p =>
      (.ofValue (0x10000 + (hi - 0xd800) * 0x400 + (lo - 0xdc00)) :: p.1, p.2) := by
  obtain ⟨a, b, c, d, hdigits, hunit⟩ := exists_hexDigits (by omega : hi < 0x10000)
  obtain ⟨a', b', c', d', hdigits', hunit'⟩ := exists_hexDigits (by omega : lo < 0x10000)
  have hpair : 0xd800 ≤ hi ∧ hi < 0xdc00 ∧ 0xdc00 ≤ lo ∧ lo < 0xe000 := by omega
  rw [Data.unitEscape, Data.unitEscape, hdigits, hdigits']
  simp only [List.cons_append, List.nil_append]
  rw [readString.eq_2]
  simp [hunit, hunit', hpair]

/-! ### Characters -/

theorem ofValue_toNat (c : Char) : CodePoint.ofValue c.toNat = .char c := by
  have hvalid : c.toNat < 0xd800 ∨ (0xdfff < c.toNat ∧ c.toNat < 0x110000) := c.valid
  rw [CodePoint.ofValue, dif_neg (by omega), Char.ofNat_toNat]

/-- A character is read back from what is written for it, whatever comes after
it. -/
theorem readString_jsonChar (c : Char) (rest : List Char) : readString (Data.jsonChar c ++ rest) =
    (readString rest).map fun p => (.char c :: p.1, p.2) := by
  have hvalid : c.toNat < 0xd800 ∨ (0xdfff < c.toNat ∧ c.toNat < 0x110000) := c.valid
  unfold Data.jsonChar
  simp only
  split_ifs with hquote hn hr ht hf hb hprint hplane
  · rcases hquote with rfl | rfl
    · exact readString_short (by decide) (by decide) rest
    · exact readString_short (by decide) (by decide) rest
  · subst hn
    exact readString_short (by decide) (by decide) rest
  · subst hr
    exact readString_short (by decide) (by decide) rest
  · subst ht
    exact readString_short (by decide) (by decide) rest
  · have hc : c = Char.ofNat 0x0c := by rw [← hf, Char.ofNat_toNat]
    rw [hc]
    exact readString_short (by decide) (by decide) rest
  · have hc : c = Char.ofNat 0x08 := by rw [← hb, Char.ofNat_toNat]
    rw [hc]
    exact readString_short (by decide) (by decide) rest
  · exact readString_plain (fun h => hquote (.inl h)) (fun h => hquote (.inr h)) hprint.1 rest
  · rw [readString_unit hplane (by omega), ofValue_toNat]
  · rw [readString_pair (by omega) (by omega)]
    have hvalue : 0x10000 + (0xd800 + (c.toNat - 0x10000) / 0x400 - 0xd800) * 0x400 +
        (0xdc00 + (c.toNat - 0x10000) % 0x400 - 0xdc00) = c.toNat := by omega
    rw [hvalue, ofValue_toNat]

/-- **Texts are read back from JSON strings.** -/
theorem readString_points (cs : List Char) (rest : List Char) :
    readString ((Points.ofChars cs).flatMap Data.jsonPoint ++ '\x22' :: rest) =
      some (.ofChars cs, rest) := by
  induction cs with
  | nil => exact readString_quote rest
  | cons c cs ih =>
    rw [Points.ofChars, List.map_cons, List.flatMap_cons, List.append_assoc, Data.jsonPoint,
      readString_jsonChar, ← Points.ofChars, ih]
    rfl

end Turnstile.Json
