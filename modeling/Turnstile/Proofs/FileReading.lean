/-
# Reading a file

What the command reads of a file: the text that its bytes spell, with all line breaks
made one, if the format is known. The format goes by the extension in lower case, and
a text without capitals is its own lower case (`Text.lower_eq_self`), so each of the
extensions of the standard format leads to it (`Command.findFormat_standard`).

Key definitions: `Text.isPlain`.
Key theorems: `Text.lower_eq_self`, `World.read_of_readBytes`,
`Command.findFormat_standard`, `Command.readFile_eq`.
-/
import Turnstile.Command

namespace Turnstile

/-! ### Lower case -/

namespace Text

/-- Whether a character is one of the first that have no lower case but themselves. -/
def isPlain (c : Char) : Bool := c.toNat < 0xc0 && !(0x41 ≤ c.toNat && c.toNat ≤ 0x5a)

theorem mapRun?_lowerRuns {c : Char} (h : isPlain c = true) :
    mapRun? lowerRuns c.toNat = none := by
  -- after the capitals of the first run, all runs start further on
  have hruns : ∀ r ∈ lowerRuns.toList, (r.1 = 0x41 ∧ r.2.1 = 0x5a) ∨ 0xc0 ≤ r.1 := by
    decide +kernel
  simp only [isPlain, Bool.and_eq_true, Bool.not_eq_true', decide_eq_true_eq,
    Bool.and_eq_false_iff, decide_eq_false_iff_not] at h
  rw [mapRun?, Option.map_eq_none_iff, Array.find?_eq_none]
  rintro ⟨first, last, step, target⟩ hr
  simp only [Bool.and_eq_true, decide_eq_true_eq]
  rcases hruns _ (Array.mem_toList_iff.2 hr) with ⟨hfirst, hlast⟩ | hfirst
  · change first = 0x41 at hfirst
    change last = 0x5a at hlast
    omega
  · change 0xc0 ≤ first at hfirst
    omega

theorem lowerChar_eq_self {c : Char} (h : isPlain c = true) (before after : Points) :
    lowerChar before c after = [c] := by
  have hspecial : c.toNat ≠ 0x3a3 ∧ c.toNat ≠ 0x130 := by
    simp only [isPlain, Bool.and_eq_true, decide_eq_true_eq] at h
    omega
  rw [lowerChar, if_neg hspecial.1, if_neg hspecial.2, mapRun?_lowerRuns h]

theorem lowerFrom_eq_self : ∀ {cs : List Char} (before : Points), (∀ c ∈ cs, isPlain c = true) →
    lowerFrom before (.ofChars cs) = .ofChars cs
  | [], _, _ => rfl
  | c :: cs, before, h => by
    obtain ⟨hc, hcs⟩ := List.forall_mem_cons.1 h
    have hrest := lowerFrom_eq_self (.char c :: before) hcs
    rw [Points.ofChars, List.map_cons, ← Points.ofChars, lowerFrom, lowerChar_eq_self hc, hrest]
    rfl

/-- A text without capitals is its own lower case. -/
theorem lower_eq_self {s : String} (h : s.toList.all isPlain = true) : lower s = s := by
  rw [lower, lowerPoints, Points.ofString, lowerFrom_eq_self [] (List.all_eq_true.1 h),
    Points.nearest, Points.ofChars, List.map_map]
  exact (congrArg String.ofList (List.map_id _)).trans String.ofList_toList

end Text

/-! ### Bytes and text -/

theorem Text.decode_toUTF8 (s : String) : decode s.toUTF8 = .ok s := by
  have hvalid : String.fromUTF8? s.toUTF8 = some s := dif_pos s.isValidUTF8
  rw [decode, hvalid]

namespace World

variable {w : World} {path : String}

theorem lookup_of_readBytes {bytes : ByteArray} (h : w.readBytes path = .ok bytes) :
    w.lookup path = .ok (.file bytes) := by
  rw [readBytes] at h
  cases hlookup : w.lookup path with
  | error e =>
    rw [hlookup] at h
    cases h
  | ok entry =>
    rw [hlookup] at h
    cases entry with
    | directory => cases h
    | file bytes' =>
      cases h
      rfl

theorem pathExists_of_readBytes {bytes : ByteArray} (h : w.readBytes path = .ok bytes) :
    w.pathExists path = .ok true := by
  rw [pathExists, test, lookup_of_readBytes h]

theorem read_of_readBytes {s : String} (h : w.readBytes path = .ok s.toUTF8) :
    w.read path = .ok (String.ofList (Text.unifyBreaks s.toList)) := by
  rw [read, h]
  simp only [bind, Except.bind, Text.decode_toUTF8]
  rfl

end World

namespace Command

/-- A file has the standard format if it has one of its extensions, or none. -/
theorem findFormat_standard {path : Path} (h : path.suffix ∈ ["", ".txt", ".prop", ".infix"]) :
    findFormat .standard none path = .ok .infixLines := by
  have hplain : ∀ s ∈ ["", ".txt", ".prop", ".infix"], s.toList.all Text.isPlain = true := by
    decide
  have hfile : Registry.standard.forFile path = .ok "infix" := by
    simp only [Registry.forFile, Text.lower_eq_self (hplain path.suffix h)]
    simp only [List.mem_cons, List.not_mem_nil, or_false] at h
    rcases h with h | h | h | h <;> rw [h] <;> rfl
  have hname : Text.lower "infix" = "infix" := Text.lower_eq_self (by decide)
  have hnamed : Registry.standard.named "infix" = .ok .infixLines := by
    rw [Registry.named, hname]
    rfl
  simp only [findFormat, Registry.find, hfile, bind, Except.bind, hnamed]
  rfl

variable {w : World} {file content : String}

theorem readFile_eq (hread : w.readBytes (Path.ofText file).render = .ok content.toUTF8)
    (hsuffix : (Path.ofText file).suffix ∈ ["", ".txt", ".prop", ".infix"]) (limits : Limits) :
    readFile w .standard limits (Path.ofText file) none =
      readLines limits (String.ofList (Text.unifyBreaks content.toList)) := by
  have hcontent : readContent w .standard (Path.ofText file) none =
      .ok (String.ofList (Text.unifyBreaks content.toList)) := by
    rw [readContent, World.pathExists_of_readBytes hread, findFormat_standard hsuffix,
      World.read_of_readBytes hread]
    rfl
  unfold readFile
  rw [hcontent]

end Command

end Turnstile
