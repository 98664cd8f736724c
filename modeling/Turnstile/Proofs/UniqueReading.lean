/-
# A text is that of one formula, or of one sequent

Formulas are compared by their texts, and so are the sides of a sequent when it is
asked whether it is an axiom. Nothing is confused by that. The text of a formula
tells where it ends: a name goes on as far as letters and digits do, and a binary
formula up to its own parenthesis. So two formulas that start one text, where what
comes after each cannot belong to a name, are the same (`Formula.render_append_inj`).
The formulas on a side of a sequent are followed by a comma or a bracket, and a
bracket closes the side, since no formula starts with one. So the text of a side
gives its formulas in order (`Sequent.side_append_inj`), and the text of a sequent
gives both sides, whatever comes after it (`Sequent.render_append_inj`).

Key definitions: `EndsName`.
Key theorems: `Var.name_append_inj`, `Formula.render_append_inj`,
`Formula.render_inj`, `Sequent.side_append_inj`, `Sequent.render_append_inj`,
`Sequent.render_inj`.
-/
import Mathlib.Tactic.Common
import Turnstile.Sequent

namespace Turnstile

/-- A name that comes before the characters ends there: they do not start with a
letter or digit. -/
def EndsName (rest : List Char) : Prop := ∀ c ∈ rest.head?, isAlnum c = false

theorem endsName_nil : EndsName [] := by
  intro c hc
  cases hc

theorem endsName_cons {c : Char} (hc : isAlnum c = false) (cs : List Char) :
    EndsName (c :: cs) := by
  intro d hd
  cases hd
  exact hc

/-! ### Variables and connectives -/

namespace Var

/-- A name is made of letters and digits, the first of them a letter. -/
theorem exists_cons (x : Var) :
    ∃ c cs, x.name.toList = c :: cs ∧ isLetter c = true ∧
      ∀ d ∈ x.name.toList, isAlnum d = true := by
  have hvalid := x.valid
  cases hname : x.name.toList with
  | nil => simp [isName, hname] at hvalid
  | cons c cs =>
    obtain ⟨hletter, hrest⟩ : isLetter c = true ∧ ∀ d ∈ cs, isAlnum d = true := by
      simpa [isName, hname] using hvalid
    have hc : isAlnum c = true := by simp [isAlnum, hletter]
    exact ⟨c, cs, rfl, hletter, List.forall_mem_cons.2 ⟨hc, hrest⟩⟩

/-- No name starts with what is no letter. -/
theorem name_append_ne_cons (x : Var) {c : Char} (hc : isLetter c = false) (rest cs : List Char) :
    x.name.toList ++ rest ≠ c :: cs := by
  obtain ⟨d, ds, hname, hletter, -⟩ := x.exists_cons
  intro h
  rw [hname, List.cons_append, List.cons.injEq] at h
  rw [h.1, hc] at hletter
  cases hletter

/-- The name is the longest run of letters and digits. -/
theorem takeWhile_name_append (x : Var) {rest : List Char} (hrest : EndsName rest) :
    (x.name.toList ++ rest).takeWhile isAlnum = x.name.toList := by
  obtain ⟨-, -, -, -, hall⟩ := x.exists_cons
  have hnone : rest.takeWhile isAlnum = [] := by
    cases rest with
    | nil => rfl
    | cons d ds => simp [hrest d rfl]
  rw [List.takeWhile_append_of_pos hall, hnone, List.append_nil]

theorem name_append_inj {x y : Var} {xs ys : List Char} (hxs : EndsName xs) (hys : EndsName ys)
    (h : x.name.toList ++ xs = y.name.toList ++ ys) : x = y ∧ xs = ys := by
  have hname : x.name.toList = y.name.toList := by
    rw [← x.takeWhile_name_append hxs, h, y.takeWhile_name_append hys]
  have hrest : xs = ys := by
    rw [hname] at h
    exact List.append_cancel_left h
  refine ⟨?_, hrest⟩
  cases x
  cases y
  cases String.toList_inj.1 hname
  rfl

end Var

namespace Binary

theorem symbol_append_inj {b c : Binary} {xs ys : List Char}
    (h : b.symbol.toList ++ xs = c.symbol.toList ++ ys) : b = c ∧ xs = ys := by
  cases b <;> cases c <;> simp_all [symbol]

theorem endsName_symbol_append (b : Binary) (rest : List Char) :
    EndsName (b.symbol.toList ++ rest) := by
  cases b with
  | conj => exact endsName_cons (c := '&') (by decide) _
  | disj => exact endsName_cons (c := '|') (by decide) _
  | imp => exact endsName_cons (c := '-') (by decide) _

end Binary

/-! ### Formulas -/

namespace Formula

theorem toList_render_neg (f : Formula) : (neg f).render.toList = '!' :: f.render.toList := by
  simp [render]

theorem toList_render_bin_append (b : Binary) (l r : Formula) (rest : List Char) :
    (bin b l r).render.toList ++ rest =
      '(' :: (l.render.toList ++ (b.symbol.toList ++ (r.render.toList ++ ')' :: rest))) := by
  simp [render]

/-- **The text of a formula tells where it ends.** Of two formulas that start the
same text, each followed by something that cannot belong to a name, neither goes on
longer than the other, and they are the same. -/
theorem render_append_inj : ∀ {f g : Formula} {xs ys : List Char}, EndsName xs → EndsName ys →
    f.render.toList ++ xs = g.render.toList ++ ys → f = g ∧ xs = ys
  | atom x, atom y, xs, ys, hxs, hys, h => by
    obtain ⟨rfl, hrest⟩ := Var.name_append_inj hxs hys h
    exact ⟨rfl, hrest⟩
  | atom x, neg g, xs, ys, _, _, h => by
    rw [toList_render_neg] at h
    exact absurd h (x.name_append_ne_cons (by decide) _ _)
  | atom x, bin b l r, xs, ys, _, _, h => by
    rw [toList_render_bin_append] at h
    exact absurd h (x.name_append_ne_cons (by decide) _ _)
  | neg f, atom y, xs, ys, _, _, h => by
    rw [toList_render_neg] at h
    exact absurd h.symm (y.name_append_ne_cons (by decide) _ _)
  | neg f, neg g, xs, ys, hxs, hys, h => by
    rw [toList_render_neg, toList_render_neg] at h
    obtain ⟨rfl, hrest⟩ := render_append_inj hxs hys (List.cons.inj h).2
    exact ⟨rfl, hrest⟩
  | neg f, bin b l r, xs, ys, _, _, h => by
    rw [toList_render_neg, toList_render_bin_append] at h
    exact absurd (List.cons.inj h).1 (by decide)
  | bin b l r, atom y, xs, ys, _, _, h => by
    rw [toList_render_bin_append] at h
    exact absurd h.symm (y.name_append_ne_cons (by decide) _ _)
  | bin b l r, neg g, xs, ys, _, _, h => by
    rw [toList_render_neg, toList_render_bin_append] at h
    exact absurd (List.cons.inj h).1 (by decide)
  | bin b l r, bin c l' r', xs, ys, _, _, h => by
    rw [toList_render_bin_append, toList_render_bin_append] at h
    -- the left operand ends at the symbol, the right one at the parenthesis
    have hclose : ∀ zs, EndsName (')' :: zs) := endsName_cons (by decide)
    obtain ⟨rfl, hsymbol⟩ := render_append_inj (b.endsName_symbol_append _)
      (c.endsName_symbol_append _) (List.cons.inj h).2
    obtain ⟨rfl, hright⟩ := Binary.symbol_append_inj hsymbol
    obtain ⟨rfl, hrest⟩ := render_append_inj (hclose xs) (hclose ys) hright
    exact ⟨rfl, (List.cons.inj hrest).2⟩

/-- **Formulas with one text are one formula.** -/
theorem render_inj {f g : Formula} : f.render = g.render ↔ f = g := by
  constructor
  · intro h
    have hchars : f.render.toList ++ [] = g.render.toList ++ [] := by rw [h]
    exact (render_append_inj endsName_nil endsName_nil hchars).1
  · intro h
    rw [h]

end Formula

/-! ### Sequents -/

namespace Sequent

/-- The text of a side of a sequent. -/
def side (fs : List Formula) : List Char := (", ".intercalate (fs.map Formula.render)).toList

/-- The formulas of a side after its first one, each with the comma before it. -/
def others (fs : List Formula) : List Char := fs.flatMap fun f => ',' :: ' ' :: f.render.toList

theorem side_cons (f : Formula) : ∀ fs : List Formula, side (f :: fs) = f.render.toList ++ others fs
  | [] => by simp [side, others]
  | g :: fs => by
    have hnext := side_cons g fs
    simp only [side, List.map_cons] at hnext ⊢
    rw [String.intercalate_cons_cons, String.toList_append, String.toList_append, hnext]
    simp [others]

/-- What follows a formula of a side is no part of a name. -/
theorem endsName_others_append (fs : List Formula) (rest : List Char) :
    EndsName (others fs ++ ']' :: rest) := by
  cases fs with
  | nil => exact endsName_cons (by decide) rest
  | cons f fs => exact endsName_cons (c := ',') (by decide) _

theorem others_append_inj : ∀ {fs gs : List Formula} {xs ys : List Char},
    others fs ++ ']' :: xs = others gs ++ ']' :: ys → fs = gs ∧ xs = ys
  | [], [], xs, ys, h => ⟨rfl, (List.cons.inj h).2⟩
  | [], g :: gs, xs, ys, h => absurd (List.cons.inj h).1 (by decide)
  | f :: fs, [], xs, ys, h => absurd (List.cons.inj h).1 (by decide)
  | f :: fs, g :: gs, xs, ys, h => by
    have hformulas : f.render.toList ++ (others fs ++ ']' :: xs) =
        g.render.toList ++ (others gs ++ ']' :: ys) := by
      simpa [others] using h
    obtain ⟨rfl, hothers⟩ := Formula.render_append_inj (endsName_others_append fs xs)
      (endsName_others_append gs ys) hformulas
    obtain ⟨rfl, hrest⟩ := others_append_inj hothers
    exact ⟨rfl, hrest⟩

/-- No formula starts with the bracket that closes a side. -/
theorem render_append_ne_bracket (f : Formula) (rest xs : List Char) :
    f.render.toList ++ rest ≠ ']' :: xs := by
  cases f with
  | atom x => exact x.name_append_ne_cons (by decide) rest xs
  | neg f =>
    rw [Formula.toList_render_neg]
    intro h
    exact absurd (List.cons.inj h).1 (by decide)
  | bin b l r =>
    rw [Formula.toList_render_bin_append]
    intro h
    exact absurd (List.cons.inj h).1 (by decide)

/-- **The text of a side, up to its bracket, gives its formulas in order.** -/
theorem side_append_inj {fs gs : List Formula} {xs ys : List Char}
    (h : side fs ++ ']' :: xs = side gs ++ ']' :: ys) : fs = gs ∧ xs = ys := by
  cases fs with
  | nil =>
    cases gs with
    | nil => exact ⟨rfl, (List.cons.inj h).2⟩
    | cons g gs =>
      rw [side_cons, List.append_assoc] at h
      exact absurd h.symm (render_append_ne_bracket g _ xs)
  | cons f fs =>
    cases gs with
    | nil =>
      rw [side_cons, List.append_assoc] at h
      exact absurd h (render_append_ne_bracket f _ ys)
    | cons g gs =>
      rw [side_cons, side_cons, List.append_assoc, List.append_assoc] at h
      obtain ⟨rfl, hothers⟩ := Formula.render_append_inj (endsName_others_append fs xs)
        (endsName_others_append gs ys) h
      obtain ⟨rfl, hrest⟩ := others_append_inj hothers
      exact ⟨rfl, hrest⟩

theorem toList_render_append (s : Sequent) (rest : List Char) : s.render.toList ++ rest =
    ['\x7b', ' ', '['] ++ (side s.assumptions ++
      ']' :: ([';', ' ', '['] ++ (side s.conclusions ++ ']' :: ([' ', '\x7d'] ++ rest)))) := by
  simp [render, layout, side]

/-- **The text of a sequent tells where it ends.** -/
theorem render_append_inj {s t : Sequent} {xs ys : List Char}
    (h : s.render.toList ++ xs = t.render.toList ++ ys) : s = t ∧ xs = ys := by
  rw [toList_render_append, toList_render_append] at h
  obtain ⟨hleft, hmiddle⟩ := side_append_inj (List.append_cancel_left h)
  obtain ⟨hright, hrest⟩ := side_append_inj (List.append_cancel_left hmiddle)
  refine ⟨?_, List.append_cancel_left hrest⟩
  cases s
  cases t
  cases hleft
  cases hright
  rfl

/-- **Sequents with one text are one sequent.** -/
theorem render_inj {s t : Sequent} : s.render = t.render ↔ s = t := by
  constructor
  · intro h
    have hchars : s.render.toList ++ [] = t.render.toList ++ [] := by rw [h]
    exact (render_append_inj hchars).1
  · intro h
    rw [h]

end Sequent

end Turnstile
