/-
# The first offence of a text

A scan that fails has passed over a cut and met an offence behind it
(`exists_offence_of_scan`). Which one is settled by the characters up to the one that
is reported: another text with the same beginning is cut in the same place, since
only the first character behind a cut can carry on its last name
(`Cut.Passed.of_head?_eq`), and the offence is the same there
(`Offence.exists_reach`). Where the text ends too early it is the one character that
is missing that completes it.

Key theorems: `exists_offence_of_scan`, `Offence.exists_reach`,
`scan_error_first_offence`.
-/
import Turnstile.Proofs.Lexemes

namespace Turnstile

/-- A text that begins like `front ++ rest`, for `n` characters behind `front`, has `front`
at its start and then the same `n` characters. -/
theorem exists_append_of_take_eq {front rest cs : List Char} {n : Nat}
    (h : cs.take (front.length + n) = (front ++ rest).take (front.length + n)) :
    ∃ rest', cs = front ++ rest' ∧ rest'.take n = rest.take n := by
  rw [List.take_length_add_append] at h
  have hfront : cs.take front.length = front :=
    calc cs.take front.length
        = (cs.take (front.length + n)).take front.length := by
          rw [List.take_take, Nat.min_eq_left (Nat.le_add_right _ _)]
      _ = front := by rw [h, List.take_left]
  refine ⟨cs.drop front.length, ?_, ?_⟩
  · rw [← List.take_append_drop front.length cs, hfront, List.drop_left]
  · rw [List.take_drop, h, List.drop_left]

/-- Only the first character behind a cut can carry on its last name. -/
theorem Cut.Passed.of_head?_eq {k : Cut} {rest rest' : List Char} (h : k.Passed rest)
    (hhead : rest'.head? = rest.head?) : k.Passed rest' := by
  refine ⟨h.proper, fun a ha halnum => ?_⟩
  rw [hhead]
  exact h.seam a ha halnum

section Scan

variable {text : String} {e : LexError}

theorem Cut.Passed.scan_eq {k : Cut} {rest : List Char} (h : k.Passed rest)
    (htext : text.toList = k.chars ++ rest) :
    Token.scan text = (Token.scanFrom text k.chars.length rest).map (k.tokens ++ ·) := by
  rw [Token.scan, htext, h.scanFrom, Nat.zero_add]
  rfl

/-- **A scan that fails has passed over a cut and met an offence.** -/
theorem exists_offence_of_scan (h : Token.scan text = .error e) :
    ∃ (k : Cut) (rest : List Char), k.Passed rest ∧ text.toList = k.chars ++ rest ∧
      Offence text k.chars.length rest e := by
  obtain ⟨k, rest, hk, hchars, rfl | ⟨e', he'⟩⟩ := Cut.exists_passed text 0 text.toList
  · rw [hk.scan_eq hchars.symm, Token.scanFrom] at h
    cases h
  · rw [Nat.zero_add] at he'
    rw [hk.scan_eq hchars.symm, he'.scanFrom_eq] at h
    cases h
    exact ⟨k, rest, hk, hchars.symm, he'⟩

end Scan

namespace Offence

variable {text : String} {i : Nat} {cs : List Char} {e : LexError}

/-- Where the offending token starts. -/
theorem start_eq (h : Offence text i cs e) :
    (if e.expected = none then e.position else e.position - 1) = i := by
  cases h <;> rfl

theorem getElem?_eq {front : List Char} (h : Offence text front.length cs e) {c : Char}
    (hc : e.character = some c) : (front ++ cs)[e.position]? = some c := by
  cases h with
  | stray => simpa using hc
  | mismatch => simpa using hc
  | cutShort => cases hc

/-- **An offence is settled by the characters up to the one it reports.** -/
theorem exists_reach (h : Offence text i cs e) {c : Char} (hc : e.character = some c) :
    ∃ n, e.position + 1 = i + n ∧
      ∀ (text' : String) (cs' : List Char), cs'.take n = cs.take n → cs'.head? = cs.head? ∧
        ∃ e', Offence text' i cs' e' ∧ e'.character = e.character ∧ e'.position = e.position ∧
          e'.expected = e.expected := by
  cases h with
  | @stray a rest hdouble hsingle hletter hblank =>
    refine ⟨1, rfl, fun text' cs' htake => ?_⟩
    have hcs' : cs' = a :: cs'.drop 1 :=
      (List.take_append_drop 1 cs').symm.trans (by rw [htake]; rfl)
    rw [hcs']
    exact ⟨rfl, _, .stray _ hdouble hsingle hletter hblank, rfl, rfl, rfl⟩
  | @mismatch a d second connective rest hdouble hne =>
    refine ⟨2, rfl, fun text' cs' htake => ?_⟩
    have hcs' : cs' = a :: d :: cs'.drop 2 :=
      (List.take_append_drop 2 cs').symm.trans (by rw [htake]; rfl)
    rw [hcs']
    exact ⟨rfl, _, .mismatch _ hdouble hne, rfl, rfl, rfl⟩
  | cutShort => cases hc

/-- Where no character is reported the text ends in the middle of a token, of which one
character is missing. -/
theorem of_character_eq_none (h : Offence text i cs e) (hnone : e.character = none) :
    ∃ c second connective, cs = [c] ∧ Token.double? c = some (second, connective) ∧
      e.position = i + 1 ∧ e.expected = some second := by
  cases h with
  | stray => cases hnone
  | mismatch => cases hnone
  | cutShort hdouble => exact ⟨_, _, _, rfl, hdouble, rfl, rfl⟩

end Offence

/-- **A scan fails at the first offence of the text.** A character that is reported stands
at the reported offset, and every text that agrees with this one up to and including it
has the same error. What stands before the offending token is a text of tokens. Where no
character is reported the text has come to its end, and has tokens once the expected
character is added. -/
theorem scan_error_first_offence {text : String} {e : LexError}
    (h : Token.scan text = .error e) :
    (∀ c, e.character = some c →
      text.toList[e.position]? = some c ∧
      ∀ text' : String,
        text'.toList.take (e.position + 1) = text.toList.take (e.position + 1) →
        ∃ e', Token.scan text' = .error e' ∧ e'.character = e.character ∧
          e'.position = e.position ∧ e'.expected = e.expected) ∧
    (∃ ts, Token.scan (String.ofList (text.toList.take
      (if e.expected = none then e.position else e.position - 1))) = .ok ts) ∧
    (e.character = none →
      e.position = text.length ∧
      ∃ second, e.expected = some second ∧
        ∃ ts, Token.scan (text ++ second.toString) = .ok ts) := by
  obtain ⟨k, rest, hk, htext, hoffence⟩ := exists_offence_of_scan h
  refine ⟨fun c hc => ⟨?_, fun text' hagree => ?_⟩, ?_, fun hnone => ?_⟩
  · rw [htext]
    exact hoffence.getElem?_eq hc
  · obtain ⟨n, hn, hreach⟩ := hoffence.exists_reach hc
    rw [hn, htext] at hagree
    obtain ⟨rest', htext', htake⟩ := exists_append_of_take_eq hagree
    obtain ⟨hhead, e', he', hsame⟩ := hreach text' rest' htake
    refine ⟨e', ?_, hsame⟩
    rw [(hk.of_head?_eq hhead).scan_eq htext', he'.scanFrom_eq]
    rfl
  · rw [hoffence.start_eq, htext, List.take_left]
    refine ⟨k.tokens, ?_⟩
    rw [Token.scan, String.toList_ofList]
    exact Cut.scanFrom_chars _ 0 hk.proper
  · obtain ⟨c, second, connective, rfl, hdouble, hposition, hexpected⟩ :=
      hoffence.of_character_eq_none hnone
    refine ⟨?_, second, hexpected, ?_⟩
    · rw [hposition, ← String.length_toList, htext, List.length_append]
      rfl
    · have hadded : (text ++ second.toString).toList = k.chars ++ [c, second] := by
        simp [htext]
      have hpassed : k.Passed [c, second] := hk.of_head?_eq rfl
      rw [hpassed.scan_eq hadded, Token.scanFrom_double _ _ hdouble, Token.scanFrom]
      exact ⟨_, rfl⟩

/-- In `p1 -q` the character behind the minus sign is blamed, whatever follows it, and `p1`
with the blank has tokens. In `p 1` it is the digit, which would have been part of a name
one character earlier. `(p &` wants only a second `&`. -/
theorem scan_error_first_offence_operators :
    Token.scan "p1 -q" = .error ⟨some 'q', 4, "-", some '>'⟩ ∧
    (∃ e, Token.scan "p1 -q -> r" = .error e ∧ e.character = some 'q' ∧ e.position = 4 ∧
      e.expected = some '>') ∧
    (∃ ts, Token.scan "p1 " = .ok ts) ∧
    Token.scan "p 1" = .error ⟨some '1', 2, "p 1", none⟩ ∧
    (∃ ts, Token.scan "p " = .ok ts) ∧
    Token.scan "(p &" = .error ⟨none, 4, "&", some '&'⟩ ∧
    ∃ ts, Token.scan "(p &&" = .ok ts := by
  have hminus : Token.scan "p1 -q" = .error ⟨some 'q', 4, "-", some '>'⟩ := by decide +kernel
  have hdigit : Token.scan "p 1" = .error ⟨some '1', 2, "p 1", none⟩ := by decide +kernel
  have hand : Token.scan "(p &" = .error ⟨none, 4, "&", some '&'⟩ := by decide +kernel
  obtain ⟨hblamed, hbefore, -⟩ := scan_error_first_offence hminus
  obtain ⟨-, hbeforeDigit, -⟩ := scan_error_first_offence hdigit
  obtain ⟨-, -, hended⟩ := scan_error_first_offence hand
  obtain ⟨-, second, hexpected, hcompleted⟩ := hended rfl
  cases hexpected
  exact ⟨hminus, (hblamed 'q' rfl).2 "p1 -q -> r" (by decide), hbefore, hdigit, hbeforeDigit, hand,
    hcompleted⟩

end Turnstile
