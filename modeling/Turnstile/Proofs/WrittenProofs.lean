/-
# Lists of proofs as they are written

The proofs of several formulas are written as one JSON list, each with a flag that
says whether its formula is a tautology. The proofs are always found, since the list
of rules is complete (`Command.proveAll_ok`), the list can always be written
(`exists_written_proofs`), and the flags in it are the validity of the formulas, in
order (`map_tautology?`).

Key definitions: `Formula.HasProof`, `Data.tautology?`.
Key theorems: `Data.parse?_render`, `Command.proveAll_ok`, `map_tautology?`,
`exists_written_proofs`.
-/
import Turnstile.Command
import Turnstile.Proofs.StoredDocument

namespace Turnstile

/-! ### Data from JSON text -/

namespace Data

theorem fold_builder_fields : ∀ {fields : List (String × Data)},
    (∀ p ∈ fields, p.2.fold builder = .ok p.2) →
      builder.Makes fields (fields.map fun p => (.text p.1, p.2))
  | [], _ => .nil
  | _ :: _, h => by
    obtain ⟨hfirst, hrest⟩ := List.forall_mem_cons.1 h
    exact .cons hfirst (fold_builder_fields hrest)

/-- The builder of plain data makes of what is stored just that. -/
theorem fold_builder {d : Data} (h : d.Storable) : d.fold builder = .ok d := by
  induction h with
  | null => rfl
  | bool b => rfl
  | text s =>
    rw [fold]
    simp only [builder, ofPoints, Points.string?_ofString]
  | @list items _ ih =>
    have hitems := foldItems_map builder (g := id) (h := id) ih
    rw [List.map_id] at hitems
    rw [fold, hitems]
    rfl
  | fields _ _ ih => exact fold_ofFields (fold_builder_fields ih)

/-- **Stored data is what its JSON text says.** -/
theorem parse?_render (indent : Option Int) {d : Data} (h : d.Storable) :
    parse? (d.render indent) = some d := by
  rw [parse?, Builder.parse_render builder indent h, fold_builder h]
  rfl

/-- What a stored proof says about its formula. -/
def tautology? (d : Data) : Option Data := d.entries?.bind (Entries.get? (.text "tautology"))

end Data

/-! ### Proofs of formulas -/

/-- The proof of a formula that is found with all rules. -/
def Formula.HasProof (f : Formula) (p : Proof) : Prop :=
  (prove Rule.all (.formula f)).result = .ok p

namespace Formula.HasProof

variable {f : Formula} {p : Proof} (order : NameOrder)

theorem isTautology_iff (h : f.HasProof p) : p.isTautology = true ↔ f.Valid := by
  rw [isTautology_iff_valid h]
  exact Sequent.valid_ofFormula f

theorem isTautology_eq_isNone (h : f.HasProof p) :
    p.isTautology = p.root.counterModel?.isNone := by
  obtain ⟨-, hgrown, -⟩ := prove_ok h
  exact hgrown.isTautology_eq_isNone

theorem storable (h : f.HasProof p) : (p.stored order).Storable := by
  obtain ⟨-, hgrown, -⟩ := prove_ok h
  exact Proof.storable_stored hgrown.nodup_counterModel order

theorem tautology?_stored (h : f.HasProof p) :
    (p.stored order).tautology? = some (.bool p.isTautology) := by
  have hflag : (p.storedModel? order).isNone = p.isTautology := by
    rw [Proof.storedModel?, Option.isNone_map, Option.isNone_map, h.isTautology_eq_isNone]
  rw [← hflag]
  rfl

end Formula.HasProof

/-- Validity is decided by a search for a proof. -/
instance (f : Formula) : Decidable f.Valid :=
  match h : (prove Rule.all (.formula f)).result with
  | .ok _ => decidable_of_iff _ (Formula.HasProof.isTautology_iff h)
  | .error _ => False.elim (by
      obtain ⟨p, hp⟩ := prove_total Rule.mem_all (.formula f)
      rw [h] at hp
      cases hp)

theorem Formula.HasProof.isTautology_eq {f : Formula} {p : Proof} (h : f.HasProof p) :
    p.isTautology = decide f.Valid := by
  rw [Bool.eq_iff_iff, h.isTautology_iff, decide_eq_true_iff]

/-- **Every formula gets its proof.** -/
theorem Command.proveAll_ok : ∀ fs : List Formula,
    ∃ ps, (proveAll fs).result = .ok ps ∧ List.Forall₂ Formula.HasProof fs ps
  | [] => ⟨[], rfl, .nil⟩
  | f :: fs => by
    obtain ⟨p, hp⟩ := prove_total Rule.mem_all (.formula f)
    obtain ⟨ps, hps, hproves⟩ := proveAll_ok fs
    refine ⟨p :: ps, ?_, .cons hp hproves⟩
    rw [proveAll]
    simp only [hp, hps]
    rfl

section

variable {fs : List Formula} {ps : List Proof} (order : NameOrder)

theorem map_isTautology (h : List.Forall₂ Formula.HasProof fs ps) :
    ps.map Proof.isTautology = fs.map fun f => decide f.Valid := by
  induction h with
  | nil => rfl
  | cons hp _ ih => rw [List.map_cons, List.map_cons, hp.isTautology_eq, ih]

theorem storeAll_proofs (h : List.Forall₂ Formula.HasProof fs ps) :
    Document.storeAll order true (ps.map Document.ofProof) =
      .ok (ps.map (Proof.stored order)) := by
  induction h with
  | nil => rfl
  | cons hp _ ih =>
    rw [List.map_cons, Document.storeAll, Document.store_ofProof hp.isTautology_eq_isNone, ih]
    rfl

theorem storable_proofs (h : List.Forall₂ Formula.HasProof fs ps) :
    ∀ d ∈ ps.map (Proof.stored order), d.Storable := by
  induction h with
  | nil => exact List.forall_mem_nil _
  | cons hp _ ih => exact List.forall_mem_cons.2 ⟨hp.storable order, ih⟩

/-- **The flags of stored proofs are the validity of the formulas.** -/
theorem map_tautology? (h : List.Forall₂ Formula.HasProof fs ps) :
    (ps.map (Proof.stored order)).map Data.tautology? =
      fs.map fun f => some (.bool (decide f.Valid)) := by
  induction h with
  | nil => rfl
  | cons hp _ ih =>
    rw [List.map_cons, List.map_cons, List.map_cons, ih, hp.tautology?_stored, hp.isTautology_eq]

/-- **A list of proofs can be written**, and its text says what is stored of them. -/
theorem exists_written_proofs (h : List.Forall₂ Formula.HasProof fs ps) :
    ∃ text, Document.write order true (some 2) (.list (ps.map Document.ofProof)) = .ok text ∧
      Data.parse? text = some (.list (ps.map (Proof.stored order))) := by
  have hstore : Document.store order true (.list (ps.map Document.ofProof)) =
      .ok (.list (ps.map (Proof.stored order))) := by
    rw [Document.store, storeAll_proofs order h]
    rfl
  have hwidth : (some (2 : Int)).all Data.isWidth = true := by decide
  have htakes : Document.takesIndent (some 2) (.list (ps.map Document.ofProof)) = true := hwidth
  refine ⟨_, ?_, Data.parse?_render (some 2) (.list (storable_proofs order h))⟩
  rw [Document.write, if_pos htakes, hstore]
  rfl

end

end Turnstile
