/-
# Stored documents are read back

An object with a type tag is restored when it is closed, so what a stored value
becomes follows from what its fields become (`Data.fold_ofFields`): formulas by
their operands, sequents by their sides, nodes by their children. The counter-model
that is stored with a proof has variables for keys and truth values under them, so
it is never taken for a tagged object, in whatever order they are written. The text
in between is that of storable data, so a document is read back whatever its layout,
and the one thing that stands in the way is an indent whose width fits no word
(`Document.survives_iff`).

Key definitions: `Builder.Makes`, `Document.Survives`.
Key theorems: `Document.fold_storedTree`, `Document.fold_storedProof`,
`Document.survives_iff`, `json_round_trip`.
-/
import Turnstile.Proofs.CounterModels
import Turnstile.Proofs.JsonValue

namespace Turnstile

/-! ### What is stored can be written -/

theorem Formula.storable_stored : ∀ f : Formula, f.stored.Storable
  | .atom v => .fields (by simp) (by simp [Data.Storable.text])
  | .neg f => by
    have hlist : (Data.list [f.stored]).Storable := .list (by simp [f.storable_stored])
    exact .fields (by simp) (by simp [Data.Storable.text, hlist])
  | .bin b l r => by
    have hlist : (Data.list [l.stored, r.stored]).Storable :=
      .list (by simp [l.storable_stored, r.storable_stored])
    exact .fields (by simp) (by simp [Data.Storable.text, hlist])

theorem Formula.storable_map_stored (fs : List Formula) :
    (Data.list (fs.map Formula.stored)).Storable :=
  .list fun d hd => by
    obtain ⟨f, -, rfl⟩ := List.mem_map.1 hd
    exact f.storable_stored

theorem Sequent.storable_stored (s : Sequent) : s.stored.Storable :=
  .fields (by simp) (by simp [Data.Storable.text, Formula.storable_map_stored])

theorem storable_storedRule (r : Option String) : (storedRule r).Storable := by
  cases r with
  | none => exact .null
  | some r => exact .text r

mutual

theorem Tree.storable_stored : ∀ t : Tree, t.stored.Storable
  | .node s r ts => by
    have hlist : (Data.list (storedAll ts)).Storable := .list (storable_storedAll ts)
    rw [stored]
    exact .fields (by simp)
      (by simp [Data.Storable.text, s.storable_stored, storable_storedRule, hlist])

theorem Tree.storable_storedAll : ∀ ts : List Tree, ∀ d ∈ storedAll ts, d.Storable
  | [], d, hd => by simp [storedAll] at hd
  | t :: ts, d, hd => by
    rw [storedAll, List.mem_cons] at hd
    rcases hd with rfl | hd
    · exact t.storable_stored
    · exact storable_storedAll ts d hd

end

theorem Assignment.storable_stored {m : Assignment} (h : (m.map Prod.fst).Nodup) :
    m.stored.Storable := by
  refine .fields (by simpa [Function.comp_def] using h) fun p hp => ?_
  obtain ⟨q, -, rfl⟩ := List.mem_map.1 hp
  exact .bool q.2

/-- A proof can be written if its counter-model names no variable twice. -/
theorem Proof.storable_stored {p : Proof}
    (h : ∀ m ∈ p.root.counterModel?, (m.assignment.map Prod.fst).Nodup) (order : NameOrder) :
    (p.stored order).Storable := by
  have hformula : ((p.formula.map Formula.stored).getD .null).Storable := by
    cases p.formula with
    | none => exact .null
    | some f => exact f.storable_stored
  have hmodel : (((p.storedModel? order).map Assignment.stored).getD .null).Storable := by
    rw [storedModel?]
    cases hm : p.root.counterModel? with
    | none => exact .null
    | some m =>
      have hnames := (order.perm m.assignment).map Prod.fst
      exact Assignment.storable_stored (hnames.nodup_iff.2 (h m hm))
  exact .fields (by simp)
    (by simp [-Option.map_map, Data.Storable.text, Data.Storable.bool, hformula, hmodel,
      p.root.storable_stored])

/-! ### What is stored is restored -/

theorem Data.foldItems_map {ε α β : Type} (b : Builder ε α) {g : β → Data} {h : β → α} :
    ∀ {xs : List β}, (∀ x ∈ xs, (g x).fold b = .ok (h x)) →
      Data.foldItems b (xs.map g) = .ok (xs.map h)
  | [], _ => rfl
  | x :: xs, hfold => by
    have ih := Data.foldItems_map b fun y hy => hfold y (List.mem_cons_of_mem _ hy)
    rw [List.map_cons, Data.foldItems, hfold x List.mem_cons_self, ih]
    rfl

/-- The entries that a builder makes of fields. -/
inductive Builder.Makes {ε α : Type} (b : Builder ε α) :
    List (String × Data) → List (Key × α) → Prop
  | nil : Makes b [] []
  | cons {key : String} {d : Data} {x : α} {fields : List (String × Data)}
      {entries : List (Key × α)} (hd : d.fold b = .ok x) (h : Makes b fields entries) :
      Makes b ((key, d) :: fields) ((.text key, x) :: entries)

/-- An object becomes what its fields become. -/
theorem Data.fold_ofFields {ε α : Type} {b : Builder ε α} {fields : List (String × Data)}
    {entries : List (Key × α)} (h : b.Makes fields entries) :
    (Data.ofFields fields).fold b = b.object entries := by
  have hentries : Data.foldEntries b (fields.map fun p => (.text p.1, p.2)) = .ok entries := by
    induction h with
    | nil => rfl
    | cons hd _ ih =>
      rw [Data.foldEntries_texts_cons, hd, ih]
      rfl
  rw [Data.ofFields, Data.fold, hentries]
  rfl

namespace Document

variable {proofs : Bool}

theorem fold_text (s : String) : (Data.text s).fold (builder proofs) = .ok (text s) := by
  show Except.ok (ofPoints (Points.ofString s)) = _
  rw [ofPoints, Points.string?_ofString]

/-! ### Formulas and sequents -/

theorem object_atom (v : Var) :
    (builder proofs).object [(.text "_type", text "Atom"), (.text "name", text v.name)] =
      .ok (formula (.atom v)) := by
  have hname : Var.ofName? v.name = some v := dif_pos v.valid
  have hatom : atom (text v.name) = .ok (.atom v) := by rw [atom, hname]
  have hcore : restoreCore [(.text "_type", text "Atom"), (.text "name", text v.name)] =
      (atom (text v.name)).map formula := rfl
  rw [hatom] at hcore
  cases proofs with
  | false => exact hcore
  | true => exact hcore

theorem mapM_operand : ∀ fs : List Formula, (fs.map formula).mapM operand = .ok fs
  | [] => rfl
  | f :: fs => by
    rw [List.map_cons, List.mapM_cons, mapM_operand fs]
    rfl

/-- No two connectives share a label. -/
theorem connectiveLabelled_label (c : Connective) :
    connectiveLabelled (text c.label) = .ok c := by
  cases c with
  | neg => rfl
  | binary b => cases b <;> rfl

theorem object_compound {c : Connective} {fs : List Formula} {f : Formula}
    (h : compound c (fs.map formula) = .ok f) :
    (builder proofs).object [(.text "_type", text "Compound"), (.text "operator", text c.label),
      (.text "operands", list (fs.map formula))] = .ok (formula f) := by
  have hcore : restoreCore [(.text "_type", text "Compound"), (.text "operator", text c.label),
      (.text "operands", list (fs.map formula))] = (do
        let c ← connectiveLabelled (text c.label)
        let f ← compound c (fs.map formula)
        return formula f) := rfl
  rw [connectiveLabelled_label] at hcore
  simp only [bind, Except.bind, h] at hcore
  cases proofs with
  | false => exact hcore
  | true => exact hcore

theorem fold_storedFormula : ∀ f : Formula, f.stored.fold (builder proofs) = .ok (formula f)
  | .atom v => by
    refine (Data.fold_ofFields (.cons (fold_text _) (.cons (fold_text _) .nil))).trans ?_
    exact object_atom v
  | .neg f => by
    have hlist : (Data.list [f.stored]).fold (builder proofs) = .ok (list ([f].map formula)) := by
      rw [Data.fold, Data.foldItems, Data.foldItems, fold_storedFormula f]
      rfl
    refine (Data.fold_ofFields (.cons (fold_text _) (.cons (fold_text _)
      (.cons hlist .nil)))).trans ?_
    exact object_compound (by rw [compound, mapM_operand]; rfl)
  | .bin b l r => by
    have hlist : (Data.list [l.stored, r.stored]).fold (builder proofs) =
        .ok (list ([l, r].map formula)) := by
      rw [Data.fold, Data.foldItems, Data.foldItems, Data.foldItems, fold_storedFormula l,
        fold_storedFormula r]
      rfl
    refine (Data.fold_ofFields (.cons (fold_text _) (.cons (fold_text _)
      (.cons hlist .nil)))).trans ?_
    exact object_compound (c := .binary b) (by rw [compound, mapM_operand]; rfl)

theorem fold_storedFormulas (fs : List Formula) :
    (Data.list (fs.map Formula.stored)).fold (builder proofs) = .ok (list (fs.map formula)) := by
  rw [Data.fold, Data.foldItems_map _ fun f _ => fold_storedFormula f]
  rfl

theorem fold_storedSequent (s : Sequent) :
    s.stored.fold (builder proofs) = .ok (ofSequent s) := by
  refine (Data.fold_ofFields (.cons (fold_text _) (.cons (fold_storedFormulas s.assumptions)
    (.cons (fold_storedFormulas s.conclusions) .nil)))).trans ?_
  cases proofs with
  | false => rfl
  | true => rfl

/-! ### Trees and proofs -/

theorem fold_storedRule (r : Option String) :
    (storedRule r).fold (builder proofs) = .ok (ofRule r) := by
  cases r with
  | none => rfl
  | some r => exact fold_text r

theorem mkNode_ofTrees (s : Sequent) (r : Option String) (ts : List Tree) :
    mkNode (ofSequent s) (ofRule r) (ofTrees ts) = .ok (ofTree (.node s r ts)) := by
  rw [mkNode, depthOfAll_ofTrees, sizeOfAll_ofTrees, ofTree]
  rfl

mutual

/-- A stored tree becomes the tree. -/
theorem fold_storedTree : ∀ t : Tree, t.stored.fold (builder true) = .ok (ofTree t)
  | .node s r ts => by
    have hlist : (Data.list (Tree.storedAll ts)).fold (builder true) = .ok (list (ofTrees ts)) := by
      rw [Data.fold, foldItems_storedAll ts]
      rfl
    rw [Tree.stored]
    refine (Data.fold_ofFields (.cons (fold_text _) (.cons (fold_storedSequent s)
      (.cons (fold_storedRule r) (.cons (fold_text _)
        (.cons hlist .nil)))))).trans ?_
    exact mkNode_ofTrees s r ts

theorem foldItems_storedAll : ∀ ts : List Tree,
    Data.foldItems (builder true) (Tree.storedAll ts) = .ok (ofTrees ts)
  | [] => rfl
  | t :: ts => by
    rw [Tree.storedAll, Data.foldItems, fold_storedTree t, foldItems_storedAll ts]
    rfl

end

/-- An object with truth values only has no type tag. -/
theorem tag_bools : ∀ m : Assignment, tag (m.map fun p => (.text p.1, bool p.2)) = none
  | [] => rfl
  | (n, x) :: m => by
    have ih := tag_bools m
    rw [tag] at ih ⊢
    rw [List.map_cons, Entries.get?]
    by_cases hn : (Key.text n == Key.text "_type") = true
    · rw [if_pos hn]
    · rw [if_neg hn]
      exact ih

theorem makes_bools : ∀ m : Assignment,
    (builder true).Makes (m.map fun p => (p.1, .bool p.2)) (m.map fun p => (.text p.1, bool p.2))
  | [] => .nil
  | _ :: m => .cons rfl (makes_bools m)

/-- A stored assignment stays a dictionary. -/
theorem fold_storedAssignment (m : Assignment) :
    m.stored.fold (builder true) = .ok (dict (m.map fun p => (.text p.1, bool p.2))) := by
  rw [Assignment.stored, Data.fold_ofFields (makes_bools m)]
  show restore (m.map fun p => (.text p.1, bool p.2)) = _
  rw [restore, tag_bools, restoreCore, tag_bools]

/-- A stored proof becomes the proof. -/
theorem fold_storedProof (order : NameOrder) (p : Proof) :
    (p.stored order).fold (builder true) = .ok (ofProof p) := by
  have hformula : ((p.formula.map Formula.stored).getD .null).fold (builder true) =
      .ok ((p.formula.map formula).getD null) := by
    cases p.formula with
    | none => rfl
    | some f => exact fold_storedFormula f
  obtain ⟨model, hmodel⟩ : ∃ model, (((p.storedModel? order).map Assignment.stored).getD
      .null).fold (builder true) = .ok model := by
    cases p.storedModel? order with
    | none => exact ⟨null, rfl⟩
    | some m => exact ⟨_, fold_storedAssignment m⟩
  exact Data.fold_ofFields (.cons (fold_text _) (.cons hformula (.cons rfl
    (.cons hmodel (.cons (fold_storedTree p.root) .nil)))))

/-! ### Round trips -/

/-- A document is written as a text that is read back to it. -/
def Survives (order : NameOrder) (proofs : Bool) (indent : Option Int) (d : Document) : Prop :=
  ∃ text, write order proofs indent d = .ok text ∧ read proofs text = .ok d

/-- A document whose stored form can be written and is restored to it survives with
the indents that have a width, and with no others. -/
theorem survives_iff {order : NameOrder} {indent : Option Int} {d : Document} {x : Data}
    (htakes : takesIndent indent d = indent.all Data.isWidth)
    (hstore : store order proofs d = .ok x) (hx : x.Storable)
    (hfold : x.fold (builder proofs) = .ok d) :
    Survives order proofs indent d ↔ indent.all Data.isWidth = true := by
  constructor
  · rintro ⟨text, hwrite, -⟩
    by_contra hwide
    rw [write, htakes, if_neg hwide] at hwrite
    cases hwrite
  · intro hwidth
    refine ⟨x.render indent, ?_, ?_⟩
    · rw [write, htakes, if_pos hwidth, hstore]
      rfl
    · rw [read, Builder.parse_render _ indent hx, hfold]
      rfl

theorem takesIndent_ofTree (indent : Option Int) (t : Tree) :
    takesIndent indent (ofTree t) = indent.all Data.isWidth := by
  cases t with
  | node s r ts => rfl

end Document

theorem Names.Increasing.nodup {ns : List String} (h : Names.Increasing ns) : ns.Nodup :=
  List.Pairwise.imp (fun hlt => ne_of_lt hlt) h

theorem Grown.nodup_counterModel {rules : List Rule} {t : Tree} (h : Grown rules t) :
    ∀ m ∈ t.counterModel?, (m.assignment.map Prod.fst).Nodup := by
  intro m hm
  rw [Tree.counterModel?_eq_head?] at hm
  rw [h.keys_counterModel (List.mem_of_mem_head? hm)]
  exact t.sequent.increasing_names.nodup

/-- **JSON text gives back what was stored**, in whatever order the names of a
counter-model are written. With no indent, or with one whose width fits a word,
and with no other: a formula, a sequent, a proof tree with any
texts for the names of its rules, and a proof that was built for a goal, are written
as texts that are read back to them. The document read is that of the same sequent,
tree or proof, and it answers the same verdict, depth, size and counter-models. -/
theorem json_round_trip (order : NameOrder) (indent : Option Int) :
    (∀ proofs f, Document.Survives order proofs indent (.formula f) ↔
      indent.all Data.isWidth = true) ∧
    (∀ proofs s, (Document.Survives order proofs indent (.ofSequent s) ↔
        indent.all Data.isWidth = true) ∧
      (Document.ofSequent s).sequent? = some s) ∧
    (∀ t, (Document.Survives order true indent (.ofTree t) ↔ indent.all Data.isWidth = true) ∧
      (Document.ofTree t).tree? = some t ∧ (Document.ofTree t).AnswersAs t) ∧
    ∀ goal, (∃ p, (prove Rule.all goal).result = .ok p) ∧
      ∀ rules p, (prove rules goal).result = .ok p →
        (Document.Survives order true indent (.ofProof p) ↔ indent.all Data.isWidth = true) ∧
        (Document.ofProof p).proof? = some p ∧ (Document.ofProof p).AnswersAs p.root ∧
        p.formula = goal.formula? := by
  refine ⟨fun proofs f => ?_, fun proofs s => ⟨?_, Document.sequent?_ofSequent s⟩, fun t =>
    ⟨?_, Document.tree?_ofTree t, Document.answersAs_ofTree t⟩, fun goal =>
    ⟨prove_total Rule.mem_all goal, fun rules p hp => ?_⟩⟩
  · exact Document.survives_iff rfl rfl f.storable_stored (Document.fold_storedFormula f)
  · exact Document.survives_iff rfl (Document.store_ofSequent proofs s) s.storable_stored
      (Document.fold_storedSequent s)
  · exact Document.survives_iff (Document.takesIndent_ofTree indent t) (Document.store_ofTree t)
      t.storable_stored (Document.fold_storedTree t)
  · obtain ⟨_, hgrown, hformula⟩ := prove_ok hp
    have hstore : Document.store order true (.ofProof p) = .ok (p.stored order) :=
      Document.store_ofProof hgrown.isTautology_eq_isNone
    have hstorable := Proof.storable_stored hgrown.nodup_counterModel order
    refine ⟨?_, Document.proof?_ofProof p, Document.answersAs_ofProof p, hformula⟩
    exact Document.survives_iff rfl hstore hstorable (Document.fold_storedProof order p)

/-- An indent below the least width gives no text, though no blank is to be
written. -/
theorem wide_indent_refused :
    Document.write .increasing false (some (-9223372036854775809)) (.formula (.atom ⟨"p", rfl⟩)) =
      .error .wideIndent ∧
    ¬ Document.Survives .increasing false (some (-9223372036854775809))
      (.formula (.atom ⟨"p", rfl⟩)) := by
  have hwrite : Document.write .increasing false (some (-9223372036854775809))
      (.formula (.atom ⟨"p", rfl⟩)) = .error .wideIndent := rfl
  refine ⟨hwrite, ?_⟩
  rintro ⟨text, h, -⟩
  rw [hwrite] at h
  cases h

end Turnstile
