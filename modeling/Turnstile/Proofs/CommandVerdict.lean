/-
# What the command says about a file

The command reads a file of formulas, proves each of them, prints reports and writes
the proofs. Nothing is printed or written before all lines are read, so a line that is
no formula leaves no trace but its message and the code of the failure. Where every
line is a formula, the three places in which the verdicts appear agree: the code that
is returned, the line that sums up the reports, and the flags in the file that is
written all say which formulas are valid (`run_file_verdicts`).

Key definitions: `Command.Outcome.ReportsOn`.
Key theorems: `Command.prove_file_cases`, `Command.deliver_reportsOn`,
`run_file_verdicts`.
-/
import Turnstile.Proofs.CommandOptions
import Turnstile.Proofs.DefaultSettings
import Turnstile.Proofs.DiskWrite
import Turnstile.Proofs.FileReading
import Turnstile.Proofs.FormulaLines
import Turnstile.Proofs.WrittenProofs

namespace Turnstile

/-! ### Reading and proving -/

namespace Command

variable {w : World} {file content : String}

theorem refuseParse_of_ne {e : ParseError} (h : e ≠ .incomparable) (message : String) :
    refuseParse e message = .reported message := by
  cases e with
  | incomparable => exact absurd rfl h
  | _ => rfl

/-- The lines of a file are read to formulas, or one of them is none and is reported. -/
theorem readLines_cases (content : String) :
    (∃ fs, (readLines .standard content).result = .ok fs ∧
      List.Forall₂ (fun text f => parseText .standard text = .ok f)
        (FormulaFile.texts content) fs) ∨
    ∃ message, (readLines .standard content).result = .error (.reported message) ∧
      ∃ text ∈ FormulaFile.texts content, ∀ f, parseText .standard text ≠ .ok f := by
  rw [readLines]
  rcases FormulaFile.read_cases .standard content with
    ⟨fs, hfs, hparse⟩ | ⟨e, he, text, hmem, hfail⟩
  · exact .inl ⟨fs, by rw [hfs]; rfl, hparse⟩
  · refine .inr ⟨e.message, ?_, text, hmem, fun f hf => ?_⟩
    · have hne : e.error ≠ .incomparable := fun h =>
        parseText_standard_ne_incomparable text (h ▸ hfail)
      rw [he]
      exact congrArg Except.error (refuseParse_of_ne hne e.message)
    · rw [hfail] at hf
      cases hf

/-- **The formulas of a file are all proved, or a line that is none is reported.** -/
theorem prove_file_cases (hread : w.readBytes (Path.ofText file).render = .ok content.toUTF8)
    (hsuffix : (Path.ofText file).suffix ∈ ["", ".txt", ".prop", ".infix"]) {r : Request}
    (hfile : r.file = some (.text file)) (hformat : r.format = none) :
    (∃ fs ps, (prove w .standard r).result = .ok ps ∧
      List.Forall₂ (fun text f => parseText .standard text = .ok f)
        (FormulaFile.texts content) fs ∧
      List.Forall₂ Formula.HasProof fs ps) ∨
    ∃ message, (prove w .standard r).result = .error (.reported message) ∧
      ∃ text ∈ FormulaFile.texts content, ∀ f, parseText .standard text ≠ .ok f := by
  have hformulas : formulas w .standard r =
      readLines .standard (String.ofList (Text.unifyBreaks content.toList)) := by
    rw [formulas, hfile, hformat]
    exact readFile_eq hread hsuffix .standard
  rw [← FormulaFile.texts_unifyBreaks content, prove, hformulas]
  rcases readLines_cases (String.ofList (Text.unifyBreaks content.toList)) with
    ⟨fs, hfs, hparse⟩ | ⟨message, hmessage, hfail⟩
  · obtain ⟨ps, hps, hproofs⟩ := proveAll_ok fs
    exact .inl ⟨fs, ps, by simp only [hfs, hps], hparse, hproofs⟩
  · exact .inr ⟨message, by simp only [hmessage], hfail⟩

/-! ### What is delivered -/

/-- What a run on formulas leaves: the code says whether all of them are valid, the
last line printed says of several how many are, and the file that was asked for is the
list of their proofs, each with a flag that says whether its formula is. -/
structure Outcome.ReportsOn (o : Outcome) (order : NameOrder) (w : World) (fs : List Formula)
    (out : Option String) : Prop where
  ending : o.ending = .returned (if ∀ f ∈ fs, f.Valid then 0 else 1)
  summary : 1 < fs.length → ∃ reports, o.stdout = reports ++ "\n" ++
    toString (fs.countP fun f => decide f.Valid) ++ "/" ++ toString fs.length ++
      " formulas are tautologies\n"
  unwritten : out = none → o.world = w
  written : ∀ name ∈ out, ∃ text ps,
    o.world.readBytes (Path.ofText name).render = .ok text.toUTF8 ∧
    Data.parse? text = some (.list (ps.map (Proof.stored order))) ∧
    List.Forall₂ Formula.HasProof fs ps ∧
    (ps.map (Proof.stored order)).map Data.tautology? =
      fs.map fun f => some (.bool (decide f.Valid))

section

variable {fs : List Formula} {ps : List Proof}

theorem verdictCode_eq (h : List.Forall₂ Formula.HasProof fs ps) :
    verdictCode ps = if ∀ f ∈ fs, f.Valid then 0 else 1 := by
  have hall : ps.all Proof.isTautology = decide (∀ f ∈ fs, f.Valid) := by
    calc ps.all Proof.isTautology
        = (ps.map Proof.isTautology).all id := by rw [List.all_map]; rfl
      _ = (fs.map fun f => decide f.Valid).all id := by rw [map_isTautology h]
      _ = decide (∀ f ∈ fs, f.Valid) := by rw [Bool.eq_iff_iff]; simp
  rw [verdictCode, hall]
  simp

theorem length_filter_isTautology (h : List.Forall₂ Formula.HasProof fs ps) :
    (ps.filter Proof.isTautology).length = fs.countP fun f => decide f.Valid := by
  calc (ps.filter Proof.isTautology).length
      = ps.countP Proof.isTautology := List.countP_eq_length_filter.symm
    _ = (ps.map Proof.isTautology).countP id := by rw [List.countP_map]; rfl
    _ = (fs.map fun f => decide f.Valid).countP id := by rw [map_isTautology h]
    _ = fs.countP fun f => decide f.Valid := by rw [List.countP_map]; rfl

theorem reports_of_several (h : List.Forall₂ Formula.HasProof fs ps) (hseveral : 1 < fs.length)
    (tree : Bool) : ∃ s, reports ps tree = s ++ "\n" ++
      toString (fs.countP fun f => decide f.Valid) ++ "/" ++ toString fs.length ++
        " formulas are tautologies\n" := by
  refine ⟨String.join (ps.map fun p => p.report tree ++ "\n"), ?_⟩
  rw [reports, ← h.length_eq, if_pos hseveral, length_filter_isTautology h]
  simp only [String.append_assoc]

/-- The proofs of a file are written as a list, however many there are. -/
theorem payload_file {r : Request} {v : OptionValue} (hfile : r.file = some v)
    (ps : List Proof) : payload r ps = .list (ps.map Document.ofProof) := by
  simp only [payload, hfile]

/-- **What is delivered reports on the formulas.** -/
theorem deliver_reportsOn (h : List.Forall₂ Formula.HasProof fs ps) {w : World} {r : Request}
    {v : OptionValue} {out : Option String} (hfile : r.file = some v)
    (hjson : r.json = out.map .text)
    (hout : ∀ name ∈ out, w.Writable (Path.ofText name).render) (order : NameOrder)
    (log : Logger) (records : List LogRecord) :
    (deliver order w log records r ps).ReportsOn order w fs out := by
  cases out with
  | none =>
    have hdeliver : deliver order w log records r ps =
        ⟨reports ps r.tree, log.write records, w, .returned (verdictCode ps)⟩ := by
      rw [deliver, hjson]
      rfl
    rw [hdeliver]
    exact {
      ending := congrArg Ending.returned (verdictCode_eq h)
      summary := fun hseveral => reports_of_several h hseveral r.tree
      unwritten := fun _ => rfl
      written := fun name hname => nomatch hname }
  | some name =>
    obtain ⟨text, hwritten, hparse⟩ := exists_written_proofs order h
    obtain ⟨w', hwrite, hback⟩ := (hout name rfl).write text
    have hproofs : writeProofs order w (Path.ofText name) (payload r ps) = .ok w' := by
      rw [writeProofs, payload_file hfile, hwritten]
      simp only [bind, Except.bind, Except.mapError, hwrite]
    have hdeliver : deliver order w log records r ps =
        ⟨reports ps r.tree, log.write (records ++ [.wrote (Path.ofText name)]), w',
          .returned (verdictCode ps)⟩ := by
      rw [deliver, hjson]
      simp only [Option.map_some, Option.bind_some, OptionValue.text?, hproofs]
    rw [hdeliver]
    exact {
      ending := congrArg Ending.returned (verdictCode_eq h)
      summary := fun hseveral => reports_of_several h hseveral r.tree
      unwritten := nofun
      written := fun other hother => by
        cases hother
        exact ⟨text, ps, hback, hparse, h, map_tautology? order h⟩ }

end

/-! ### A run -/

theorem perform_proved {limits : Limits} {r : Request} {ps : List Proof}
    (h : (prove w limits r).result = .ok ps) (order : NameOrder) (log : Logger) :
    perform order w limits log r = deliver order w log (prove w limits r).records r ps := by
  simp only [perform, h]

theorem perform_reported {limits : Limits} {r : Request} {message : String}
    (h : (prove w limits r).result = .error (.reported message)) (order : NameOrder)
    (log : Logger) : perform order w limits log r =
      ⟨"", log.write (prove w limits r).records ++ "Error: " ++ message ++ "\n", w,
        .returned 2⟩ := by
  simp only [perform, h]

variable {read : Settings.YamlReader}

theorem run_work {arguments : List String} {r : Request} {settings : Settings} {log : Logger}
    {time : String} (hrequest : Request.ofArguments arguments = .ok (.work r))
    (hsettings : Settings.load read w none = .ok settings)
    (hlog : logger settings r.verbose time = .ok log) (order : NameOrder) :
    run read order w time arguments = perform order w settings.limits log r := by
  simp only [run, hrequest, hsettings, hlog]

theorem run_eq_perform {choices : List Choice} {tree : Bool} {out : Option String}
    (hreader : read.ReadsDefaults) (huntouched : w.Untouched)
    (hchoices : choices.Perm (Choice.all file tree out))
    (hfile : file.toList.head? ≠ some '-') (hout : ∀ name ∈ out, name.toList.head? ≠ some '-')
    (order : NameOrder) (time : String) :
    ∃ log, run read order w time (choices.flatMap Choice.arguments) =
      perform order w .standard log
        ⟨none, some (.text file), none, out.map .text, tree, false⟩ := by
  have hrequest := Request.ofChoices_of_perm hchoices
  have hplain : ∀ c ∈ choices, c.Plain := fun c hc =>
    Choice.plain_all hfile hout c (hchoices.mem_iff.1 hc)
  have harguments := Request.ofArguments_choices hplain (by rw [hrequest]; rfl)
  obtain ⟨log, hlog⟩ := logger_default time
  refine ⟨log, ?_⟩
  rw [hrequest] at harguments
  rw [run_work harguments (Settings.load_of_untouched hreader huntouched) hlog,
    Settings.limits_default]

end Command

/-- **The command's verdicts on a file are right, and a failure leaves no trace.** With
any reader of YAML that reads the defaults of the packaged settings, any order in which
names are written, the default settings, a file of the standard format that can be read
as text, and options in any order that name it and perhaps a file to write to: the
command fails with the code 2 if and only if some line says something that is no
formula, and then it prints no report and leaves the world as it was. Otherwise it
reports on the formulas of the file as they are, in order. -/
theorem run_file_verdicts {read : Settings.YamlReader} {w : World} {file content : String}
    {tree : Bool} {out : Option String} {choices : List Choice}
    (hreader : read.ReadsDefaults) (huntouched : w.Untouched)
    (hread : w.readBytes (Path.ofText file).render = .ok content.toUTF8)
    (hsuffix : (Path.ofText file).suffix ∈ ["", ".txt", ".prop", ".infix"])
    (hwritable : ∀ name ∈ out, w.Writable (Path.ofText name).render)
    (hfile : file.toList.head? ≠ some '-') (hout : ∀ name ∈ out, name.toList.head? ≠ some '-')
    (hchoices : choices.Perm (Choice.all file tree out)) (order : NameOrder) (time : String) :
    let outcome := Command.run read order w time (choices.flatMap Choice.arguments)
    (outcome.ending = .returned 2 ↔ ∃ line ∈ Text.splitLines content.toList,
      FormulaFile.statement line ≠ [] ∧
      ∀ f, parseText .standard (String.ofList (FormulaFile.statement line)) ≠ .ok f) ∧
    (outcome.ending = .returned 2 → outcome.stdout = "" ∧ outcome.world = w) ∧
    (outcome.ending ≠ .returned 2 → ∃ fs,
      List.Forall₂ (fun text f => parseText .standard text = .ok f)
        (FormulaFile.texts content) fs ∧
      outcome.ReportsOn order w fs out) := by
  obtain ⟨log, hrun⟩ := Command.run_eq_perform hreader huntouched hchoices hfile hout order time
  rw [hrun, FormulaFile.exists_line_iff]
  rcases Command.prove_file_cases hread hsuffix
    (r := ⟨none, some (.text file), none, out.map .text, tree, false⟩) rfl rfl with
    ⟨fs, ps, hps, hparse, hproofs⟩ | ⟨message, hmessage, hfail⟩
  · rw [Command.perform_proved hps order log]
    intro outcome
    have hreports : outcome.ReportsOn order w fs out :=
      Command.deliver_reportsOn hproofs rfl rfl hwritable order log _
    have hne : outcome.ending ≠ .returned 2 := by
      rw [hreports.ending]
      split <;> simp
    have hparses := FormulaFile.not_fails_of_forall₂ hparse
    exact ⟨iff_of_false hne hparses, fun h => absurd h hne, fun _ => ⟨fs, hparse, hreports⟩⟩
  · rw [Command.perform_reported hmessage order log]
    exact ⟨⟨fun _ => hfail, fun _ => rfl⟩, fun _ => ⟨rfl, rfl⟩, fun h => absurd rfl h⟩

/-- A world with one file at the top and nothing else. -/
def World.ofFile (name content : String) : World :=
  ⟨⟨[([name], .file content.toUTF8)]⟩, Path.ofText "/", Path.ofText "/", []⟩

/-- A tautology, and a formula that is none with a comment after it. -/
theorem run_file_verdicts_mixed :
    let outcome := Command.run Yaml.parse .increasing (.ofFile "f.txt" "p -> p\nq # open\n") ""
      ["--json", "o.json", "--file", "f.txt"]
    outcome.ending = .returned 1 ∧
    (∃ reports, outcome.stdout = reports ++ "\n" ++ "1" ++ "/" ++ "2" ++
      " formulas are tautologies\n") ∧
    ∃ text ds, outcome.world.readBytes "o.json" = .ok text.toUTF8 ∧
      Data.parse? text = some (.list ds) ∧
      ds.map Data.tautology? = [some (.bool true), some (.bool false)] := by
  have huntouched : (World.ofFile "f.txt" "p -> p\nq # open\n").Untouched := ⟨rfl, by decide⟩
  have hread : (World.ofFile "f.txt" "p -> p\nq # open\n").readBytes
      (Path.ofText "f.txt").render = .ok "p -> p\nq # open\n".toUTF8 := rfl
  have hwritable : ∀ name ∈ some "o.json", (World.ofFile "f.txt" "p -> p\nq # open\n").Writable
      (Path.ofText name).render := by
    rintro name ⟨⟩
    exact ⟨"", _, rfl⟩
  have hchoices : [Choice.json "o.json", .file "f.txt"].Perm
      (Choice.all "f.txt" false (some "o.json")) := .swap _ _ _
  have hsuffix : (Path.ofText "f.txt").suffix ∈ ["", ".txt", ".prop", ".infix"] := by
    decide +kernel
  have hverdicts := run_file_verdicts Settings.readsDefaults_parse huntouched hread hsuffix
    hwritable (by decide) (by decide) hchoices .increasing ""
  have harguments : [Choice.json "o.json", .file "f.txt"].flatMap Choice.arguments =
      ["--json", "o.json", "--file", "f.txt"] := rfl
  rw [harguments] at hverdicts
  -- of the run only what the theorem says is used
  generalize Command.run Yaml.parse .increasing (.ofFile "f.txt" "p -> p\nq # open\n") ""
    ["--json", "o.json", "--file", "f.txt"] = outcome at hverdicts ⊢
  obtain ⟨hfails, -, hreports⟩ := hverdicts
  have htexts : FormulaFile.texts "p -> p\nq # open\n" = ["p -> p", "q"] := by decide +kernel
  have hp : parseText .standard "p -> p" =
      .ok (.bin .imp (.atom ⟨"p", by decide⟩) (.atom ⟨"p", by decide⟩)) := by decide +kernel
  have hq : parseText .standard "q" = .ok (.atom ⟨"q", by decide⟩) := by decide +kernel
  have hlines : List.Forall₂ (fun text f => parseText .standard text = .ok f)
      (FormulaFile.texts "p -> p\nq # open\n")
      [.bin .imp (.atom ⟨"p", by decide⟩) (.atom ⟨"p", by decide⟩), .atom ⟨"q", by decide⟩] := by
    rw [htexts]
    exact .cons hp (.cons hq .nil)
  have hne : outcome.ending ≠ .returned 2 := fun h =>
    FormulaFile.not_fails_of_forall₂ hlines (FormulaFile.exists_line_iff.1 (hfails.1 h))
  obtain ⟨fs, hparse, hreports⟩ := hreports hne
  obtain rfl := FormulaFile.formulas_unique hlines hparse
  have hvalid : (Formula.bin .imp (.atom ⟨"p", by decide⟩) (.atom ⟨"p", by decide⟩)).Valid := by
    decide +kernel
  have hopen : ¬(Formula.atom ⟨"q", by decide⟩).Valid := by decide +kernel
  refine ⟨?_, ?_, ?_⟩
  · refine hreports.ending.trans ?_
    simp [hopen]
  · obtain ⟨reports, hstdout⟩ := hreports.summary (by simp)
    rw [List.countP_cons_of_pos (by simpa using hvalid),
      List.countP_cons_of_neg (by simpa using hopen)] at hstdout
    exact ⟨reports, hstdout⟩
  · obtain ⟨text, ps, hback, hitems, -, hflags⟩ := hreports.written "o.json" rfl
    have hname : (Path.ofText "o.json").render = "o.json" := by decide +kernel
    rw [hname] at hback
    refine ⟨text, ps.map (Proof.stored .increasing), hback, hitems, ?_⟩
    rw [hflags]
    simp [hvalid, hopen]

end Turnstile
