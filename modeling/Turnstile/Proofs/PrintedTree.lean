/-
# The printed tree gives back the tree

A tree is printed with a line for each node, in the order in which a stack meets them
(`Tree.lines_eq`). A line starts with two blanks for each level of its node, and then
comes the text of a sequent, which is not a blank and tells where it ends. So a line gives
the level, the sequent and the rule of its node (`Tree.line_inj`), if the rule has a name.
No line has a break in it, so the lines are found again in the printed text
(`Tree.splitLines_render`).

The levels give the shape of the tree. What follows a node and is deeper belongs to it, up
to the first line that is not deeper (`Tree.Rises`); hence trees on one level that start the
same lines, each followed by something less deep, are the same
(`Tree.linesOfAll_append_inj`), and so are two trees with one printed text
(`Tree.render_inj`).

Key definitions: `Tree.HasRuleNames`, `Tree.note`, `Tree.Rises`.
Key theorems: `Text.splitLines_intercalate`, `Tree.lines_eq`, `Tree.line_inj`,
`Tree.splitLines_render`, `Tree.linesOfAll_append_inj`, `Tree.render_inj`,
`printed_tree_gives_tree`.
-/
import Turnstile.Proofs.FileRoundTrip
import Turnstile.Proofs.Traversal

namespace Turnstile

/-! ### Lines of a text -/

namespace Text

/-- The characters have no break among them. -/
def OneLine (cs : List Char) : Prop := ∀ c ∈ cs, isBreak c = false

-- by the characters in the list, not by all there are
instance (cs : List Char) : Decidable (OneLine cs) := List.decidableBAll _ cs

theorem OneLine.append {cs ds : List Char} (hcs : OneLine cs) (hds : OneLine ds) :
    OneLine (cs ++ ds) := List.forall_mem_append.2 ⟨hcs, hds⟩

theorem splitLines_append_newline {cs : List Char} (h : OneLine cs) (ds : List Char) :
    splitLines (cs ++ '\n' :: ds) = cs :: splitLines ds := by
  induction cs with
  | nil => exact splitLines_cons_of_isBreak (by decide) (by simp)
  | cons c cs ih =>
    obtain ⟨hc, hcs⟩ := List.forall_mem_cons.1 h
    rw [List.cons_append, splitLines_cons_of_not_isBreak hc, ih hcs]
    rfl

/-- Lines that are joined by line feeds are found again, if none is empty. -/
theorem splitLines_intercalate : ∀ {ls : List String},
    (∀ l ∈ ls, l.toList ≠ [] ∧ OneLine l.toList) →
      splitLines ("\n".intercalate ls).toList = ls.map String.toList
  | [], _ => by simp [splitLines]
  | [l], h => by
    obtain ⟨hne, hline⟩ := h l (by simp)
    rw [String.intercalate_singleton, splitLines_eq_singleton hne hline]
    rfl
  | l :: k :: ls, h => by
    obtain ⟨⟨-, hline⟩, hrest⟩ := List.forall_mem_cons.1 h
    have hchars : ("\n".intercalate (l :: k :: ls)).toList =
        l.toList ++ '\n' :: ("\n".intercalate (k :: ls)).toList := by
      rw [String.intercalate_cons_cons]
      simp
    rw [hchars, splitLines_append_newline hline, splitLines_intercalate hrest]
    rfl

end Text

open Text (OneLine)

namespace Sequent

theorem oneLine_side : ∀ fs : List Formula, OneLine (side fs)
  | [] => by decide
  | f :: fs => by
    have hformula (g : Formula) : OneLine g.render.toList := fun c hc =>
      (g.isInk_of_mem_render c hc).isBreak
    have hothers : OneLine (others fs) := by
      intro c hc
      obtain ⟨g, -, hc⟩ := List.mem_flatMap.1 hc
      have hcomma : OneLine [',', ' '] := by decide
      exact hcomma.append (hformula g) c hc
    rw [side_cons]
    exact (hformula f).append hothers

theorem oneLine_render (s : Sequent) : OneLine s.render.toList := by
  have hchars := s.toList_render_append []
  rw [List.append_nil] at hchars
  rw [hchars]
  have hopen : OneLine ['\x7b', ' ', '['] := by decide
  have hmiddle : OneLine [']', ';', ' ', '['] := by decide
  have hclose : OneLine [']', ' ', '\x7d'] := by decide
  exact hopen.append ((oneLine_side _).append (hmiddle.append ((oneLine_side _).append hclose)))

end Sequent

namespace Rule

theorem oneLine_name (rule : Rule) : OneLine rule.name.toList := by
  cases rule <;> decide

end Rule

/-- The mark of a status tells where it ends, if two blanks or nothing comes after it. -/
theorem Status.marker_append_inj {m m' : Status} {xs ys : List Char}
    (hxs : xs = [] ∨ ∃ cs, xs = ' ' :: ' ' :: cs) (hys : ys = [] ∨ ∃ cs, ys = ' ' :: ' ' :: cs)
    (h : m.marker.toList ++ xs = m'.marker.toList ++ ys) : m = m' ∧ xs = ys := by
  rcases hxs with rfl | ⟨cs, rfl⟩ <;> rcases hys with rfl | ⟨ds, rfl⟩ <;>
    cases m <;> cases m' <;> simp_all [marker]

namespace Tree

/-! ### A line -/

/-- Every rule that is named in the tree is one of the eight. -/
def HasRuleNames (t : Tree) : Prop :=
  ∀ n ∈ t.walk, ∀ r ∈ n.rule, r ∈ Rule.all.map Rule.name

instance (t : Tree) : Decidable t.HasRuleNames :=
  inferInstanceAs (Decidable (∀ n ∈ t.walk, ∀ r ∈ n.rule, r ∈ Rule.all.map Rule.name))

/-- What a line says about the rule of its node. -/
def note : Option String → List Char
  | none => []
  | some r => if r.isEmpty then [] else ' ' :: ' ' :: '(' :: (r.toList ++ [')'])

theorem toList_line (level : Nat) (t : Tree) : (t.line level).toList =
    List.replicate (2 * level) ' ' ++
      (t.sequent.render.toList ++ (t.status.marker.toList ++ note t.rule)) := by
  rw [line]
  cases t.rule with
  | none => simp [note]
  | some r =>
    simp only [note]
    cases r.isEmpty <;> simp

/-- After its blanks a line has the brace of a sequent. -/
theorem exists_toList_line (level : Nat) (t : Tree) :
    ∃ cs, (t.line level).toList = List.replicate (2 * level) ' ' ++ '\x7b' :: cs :=
  ⟨_, by rw [toList_line, t.sequent.toList_render_append]; rfl⟩

/-- **A line is indented by two blanks for each level.** -/
theorem takeWhile_line (level : Nat) (t : Tree) :
    (t.line level).toList.takeWhile (· = ' ') = List.replicate (2 * level) ' ' := by
  obtain ⟨cs, hcs⟩ := t.exists_toList_line level
  rw [hcs, List.takeWhile_append_of_pos (by simp)]
  simp

/-- A node without a rule, or with one of the eight. -/
def IsNamed (n : Tree) : Prop := n.rule = none ∨ ∃ rule : Rule, n.rule = some rule.name

theorem HasRuleNames.isNamed {t n : Tree} (h : t.HasRuleNames) (hn : n ∈ t.walk) : n.IsNamed := by
  cases hrule : n.rule with
  | none => exact .inl hrule
  | some r =>
    obtain ⟨rule, -, rfl⟩ := List.mem_map.1 (h n hn r hrule)
    exact .inr ⟨rule, hrule⟩

theorem note_name (rule : Rule) :
    note (some rule.name) = ' ' :: ' ' :: '(' :: (rule.name.toList ++ [')']) := by
  simp only [note, rule.isEmpty_name]
  rfl

theorem oneLine_line {t : Tree} (h : t.IsNamed) (level : Nat) : OneLine (t.line level).toList := by
  have hblanks : OneLine (List.replicate (2 * level) ' ') := by
    intro c hc
    rw [List.eq_of_mem_replicate hc]
    decide
  have hmarker : OneLine t.status.marker.toList := by cases t.status <;> decide
  have hnote : OneLine (note t.rule) := by
    rcases h with hnone | ⟨rule, hrule⟩
    · rw [hnone]
      decide
    · have hbefore : OneLine [' ', ' ', '('] := by decide
      rw [hrule, note_name]
      exact hbefore.append (rule.oneLine_name.append (by decide))
  rw [toList_line]
  exact hblanks.append (t.sequent.oneLine_render.append (hmarker.append hnote))

theorem note_cases {t : Tree} (h : t.IsNamed) :
    note t.rule = [] ∨ ∃ cs, note t.rule = ' ' :: ' ' :: cs := by
  rcases h with hnone | ⟨rule, hrule⟩
  · exact .inl (by rw [hnone, note])
  · exact .inr ⟨_, by rw [hrule, note_name]⟩

theorem note_inj {t t' : Tree} (ht : t.IsNamed) (ht' : t'.IsNamed)
    (h : note t.rule = note t'.rule) : t.rule = t'.rule := by
  rcases ht with hnone | ⟨rule, hrule⟩
  · rcases ht' with hnone' | ⟨rule', hrule'⟩
    · rw [hnone, hnone']
    · rw [hnone, hrule', note_name] at h
      cases h
  · rcases ht' with hnone' | ⟨rule', hrule'⟩
    · rw [hnone', hrule, note_name] at h
      cases h
    · rw [hrule, hrule', note_name, note_name] at h
      have hname : rule.name.toList = rule'.name.toList := by simpa using h
      rw [hrule, hrule', String.toList_inj.1 hname]

/-- **A line gives the level, the sequent and the rule of its node.** -/
theorem line_inj {t t' : Tree} (ht : t.IsNamed) (ht' : t'.IsNamed) {k k' : Nat}
    (h : t.line k = t'.line k') : k = k' ∧ t.sequent = t'.sequent ∧ t.rule = t'.rule := by
  have hblanks : List.replicate (2 * k) ' ' = List.replicate (2 * k') ' ' := by
    rw [← takeWhile_line k t, h, takeWhile_line]
  have hlevel : k = k' := by
    have := congrArg List.length hblanks
    simp only [List.length_replicate] at this
    omega
  subst hlevel
  have hchars := congrArg String.toList h
  rw [toList_line, toList_line] at hchars
  obtain ⟨hsequent, hend⟩ := Sequent.render_append_inj (List.append_cancel_left hchars)
  obtain ⟨-, hnote⟩ := Status.marker_append_inj (note_cases ht) (note_cases ht') hend
  exact ⟨rfl, hsequent, note_inj ht ht' hnote⟩

/-! ### All lines -/

theorem linesOfAll_eq_flatMap (level : Nat) (ts : List Tree) :
    linesOfAll level ts = ts.flatMap (linesAt level) := by
  induction ts with
  | nil => rw [linesOfAll, List.flatMap_nil]
  | cons t ts ih => rw [linesOfAll, List.flatMap_cons, ih]

theorem linesAt_eq (level : Nat) (t : Tree) :
    linesAt level t = t.line level :: linesOfAll (level + 1) t.children := by
  cases t
  rw [linesAt, children]

/-- **Lines are printed in the order in which a stack meets their nodes.** -/
theorem map_line_visits (stack : List (Nat × Tree)) :
    ((visits stack).map fun e => e.2.line e.1) = stack.flatMap fun e => linesAt e.1 e.2 := by
  induction stack using visits.induct with
  | case1 => rw [visits_nil, List.map_nil, List.flatMap_nil]
  | case2 level t stack ih =>
    rw [List.flatMap_append, onLevel, List.flatMap_map] at ih
    rw [visits_cons, onLevel, List.map_cons, ih, List.flatMap_cons, linesAt_eq,
      linesOfAll_eq_flatMap, List.cons_append]

theorem lines_eq (t : Tree) : t.lines = (visits [(0, t)]).map fun e => e.2.line e.1 := by
  rw [map_line_visits, List.flatMap_singleton, lines]

/-- **The lines are found again in the printed text.** -/
theorem splitLines_render {t : Tree} (h : t.HasRuleNames) :
    Text.splitLines t.render.toList = t.lines.map String.toList := by
  refine Text.splitLines_intercalate fun l hl => ?_
  rw [lines_eq] at hl
  obtain ⟨⟨level, n⟩, hn, rfl⟩ := List.mem_map.1 hl
  have hwalk : n ∈ t.walk := t.map_snd_visits_root ▸ List.mem_map_of_mem hn
  obtain ⟨cs, hcs⟩ := n.exists_toList_line level
  exact ⟨by simp [hcs], oneLine_line (h.isNamed hwalk) level⟩

/-! ### The shape of the tree -/

/-- The lines go on less deep than a level, if they go on. -/
def Rises (level : Nat) (ls : List String) : Prop :=
  ∀ l ∈ ls.head?, (l.toList.takeWhile (· = ' ')).length < 2 * level

theorem not_rises_line (level : Nat) (t : Tree) (ls : List String) :
    ¬Rises level (t.line level :: ls) := by
  intro h
  have hlt := h _ rfl
  rw [takeWhile_line, List.length_replicate] at hlt
  omega

theorem Rises.linesOfAll_append {level : Nat} {ls : List String} (h : Rises level ls)
    (ts : List Tree) : Rises (level + 1) (linesOfAll level ts ++ ls) := by
  cases ts with
  | nil =>
    intro l hl
    rw [linesOfAll, List.nil_append] at hl
    exact Nat.lt_trans (h l hl) (by omega)
  | cons t ts =>
    rw [linesOfAll, linesAt_eq]
    intro l hl
    cases hl
    rw [takeWhile_line, List.length_replicate]
    omega

theorem HasRuleNames.child {t c : Tree} (h : t.HasRuleNames) (hc : c ∈ t.children) :
    c.HasRuleNames := by
  intro n hn
  refine h n ?_
  rw [walk_eq]
  exact List.mem_cons_of_mem _ (List.mem_flatMap.2 ⟨c, hc, hn⟩)

theorem HasRuleNames.root {t : Tree} (h : t.HasRuleNames) : t.IsNamed :=
  h.isNamed (by rw [walk_eq]; exact List.mem_cons_self)

/-- **The lines give the trees.** Trees on one level that start the same lines, each followed
by something less deep, are the same. -/
theorem linesOfAll_append_inj : ∀ {level : Nat} {as bs : List Tree} {xs ys : List String},
    (∀ t ∈ as, t.HasRuleNames) → (∀ t ∈ bs, t.HasRuleNames) → Rises level xs → Rises level ys →
      linesOfAll level as ++ xs = linesOfAll level bs ++ ys → as = bs ∧ xs = ys
  | level, [], [], xs, ys, _, _, _, _, h => ⟨rfl, h⟩
  | level, [], b :: bs, xs, ys, _, _, hxs, _, h => by
    rw [linesOfAll, linesOfAll, linesAt_eq, List.nil_append] at h
    rw [h] at hxs
    exact absurd hxs (not_rises_line level b _)
  | level, a :: as, [], xs, ys, _, _, _, hys, h => by
    rw [linesOfAll, linesOfAll, linesAt_eq, List.nil_append] at h
    rw [← h] at hys
    exact absurd hys (not_rises_line level a _)
  | level, node s r ts :: as, node s' r' us :: bs, xs, ys, has, hbs, hxs, hys, h => by
    obtain ⟨ha, hrestA⟩ := List.forall_mem_cons.1 has
    obtain ⟨hb, hrestB⟩ := List.forall_mem_cons.1 hbs
    have hts : ∀ t ∈ ts, t.HasRuleNames := fun t ht => ha.child ht
    have hus : ∀ t ∈ us, t.HasRuleNames := fun t ht => hb.child ht
    simp only [linesOfAll, linesAt_eq, children, List.cons_append, List.append_assoc,
      List.cons.injEq] at h
    obtain ⟨hline, hlines⟩ := h
    obtain ⟨-, hs, hr⟩ := line_inj ha.root hb.root hline
    cases hs
    cases hr
    -- the children go on up to the first line that is not deeper
    obtain ⟨rfl, hnext⟩ := linesOfAll_append_inj hts hus (hxs.linesOfAll_append as)
      (hys.linesOfAll_append bs) hlines
    obtain ⟨rfl, hrest⟩ := linesOfAll_append_inj hrestA hrestB hxs hys hnext
    exact ⟨rfl, hrest⟩

theorem lines_inj {a b : Tree} (ha : a.HasRuleNames) (hb : b.HasRuleNames)
    (h : a.lines = b.lines) : a = b := by
  have hforest : linesOfAll 0 [a] ++ [] = linesOfAll 0 [b] ++ [] := by
    simp only [linesOfAll_eq_flatMap, List.flatMap_singleton, List.append_nil]
    exact h
  have hend : Rises 0 [] := by
    intro l hl
    cases hl
  obtain ⟨hab, -⟩ := linesOfAll_append_inj (by simpa using ha) (by simpa using hb) hend hend hforest
  exact List.singleton_inj.1 hab

/-- **Trees with one printed text are one tree.** -/
theorem render_inj {a b : Tree} (ha : a.HasRuleNames) (hb : b.HasRuleNames) :
    a.render = b.render ↔ a = b := by
  constructor
  · intro h
    have hchars : a.lines.map String.toList = b.lines.map String.toList := by
      rw [← splitLines_render ha, ← splitLines_render hb, h]
    exact lines_inj ha hb (List.map_injective_iff.2 (fun _ _ => String.toList_inj.1) hchars)
  · intro h
    rw [h]

end Tree

/-- **The printed tree gives back the tree.** For trees whose rules are none or among the
eight, the printed text has one line for each node, in the order of the walk, and the line
of a node starts with as many blanks as twice the steps down to it. Two such trees with one
printed text are the same tree. -/
theorem printed_tree_gives_tree :
    (∀ t : Tree, t.HasRuleNames →
      Text.splitLines t.render.toList =
        (Tree.visits [(0, t)]).map (fun e => (e.2.line e.1).toList) ∧
      (Tree.visits [(0, t)]).map Prod.snd = t.walk ∧
      ∀ level n, (level, n) ∈ Tree.visits [(0, t)] → t.Reaches level n ∧
        (n.line level).toList.takeWhile (· = ' ') = List.replicate (2 * level) ' ') ∧
    ∀ a b : Tree, a.HasRuleNames → b.HasRuleNames → (a.render = b.render ↔ a = b) := by
  refine ⟨fun t ht => ⟨?_, t.map_snd_visits_root, fun level n hn => ?_⟩,
    fun a b ha hb => Tree.render_inj ha hb⟩
  · rw [Tree.splitLines_render ht, Tree.lines_eq, List.map_map]
    rfl
  · exact ⟨Tree.mem_visits_iff.1 hn, Tree.takeWhile_line level n⟩

/-- Three nodes below each other, and one node with two children, have the same walk but for
the levels. -/
theorem printed_tree_gives_tree_shape :
    let p : Formula := .atom ⟨"p", by decide⟩
    let s : Sequent := ⟨[p], []⟩
    let leaf : Tree := .node s none []
    let deep : Tree := .node s none [.node s (some "left-or") [leaf]]
    let flat : Tree := .node s none [.node s (some "left-or") [], leaf]
    deep.HasRuleNames ∧ flat.HasRuleNames ∧ deep.render ≠ flat.render ∧
    Text.splitLines deep.render.toList =
      ["\x7b [p]; [] \x7d".toList, "  \x7b [p]; [] \x7d  (left-or)".toList,
        "    \x7b [p]; [] \x7d [falsifiable]".toList] := by
  intro p s leaf deep flat
  have hdeep : deep.HasRuleNames := by decide
  have hflat : flat.HasRuleNames := by decide
  obtain ⟨hlines, htexts⟩ := printed_tree_gives_tree
  refine ⟨hdeep, hflat, fun h => ?_, ?_⟩
  · have hchildren := congrArg (fun t : Tree => t.children.length) ((htexts _ _ hdeep hflat).1 h)
    cases hchildren
  · have hvisits : Tree.visits [(0, deep)] =
        [(0, deep), (1, .node s (some "left-or") [leaf]), (2, leaf)] := by
      simp [deep, leaf, Tree.visits, Tree.onLevel, Tree.children]
    obtain ⟨hsplit, -⟩ := hlines deep hdeep
    rw [hsplit, hvisits]
    rfl

end Turnstile
