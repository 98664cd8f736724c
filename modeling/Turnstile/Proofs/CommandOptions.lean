/-
# Options in any order

The command takes a file of formulas, a file to write to and a flag, each by an option
of its own. As long as the names of the files do not look like options, the arguments
are understood as they are meant (`Request.ofArguments_choices`), and since each
option has its own field of the request, their order does not matter
(`Request.ofChoices_of_perm`).

Key definitions: `Choice`, `Choice.arguments`, `Request.ofChoices`.
Key theorems: `Argument.classify_choices`, `Request.take_choices`,
`Request.ofArguments_choices`, `Request.ofChoices_of_perm`.
-/
import Turnstile.Command.Arguments

namespace Turnstile

/-- What a user chooses about a file of formulas. -/
inductive Choice where
  | file (name : String)
  | tree
  | json (name : String)

namespace Choice

/-- The arguments that say so. -/
def arguments : Choice → List String
  | file name => ["--file", name]
  | tree => ["--tree"]
  | json name => ["--json", name]

/-- The request with a choice made. -/
def apply (r : Request) : Choice → Request
  | file name => { r with file := some (.text name) }
  | tree => { r with tree := true }
  | json name => { r with json := some (.text name) }

/-- The name in a choice does not start with a dash. -/
def Plain : Choice → Prop
  | file name => name.toList.head? ≠ some '-'
  | tree => True
  | json name => name.toList.head? ≠ some '-'

/-- The arguments of a choice as they are classified. -/
def classified : Choice → List (String × Argument)
  | file name => [("--file", .option .file false none), (name, .word)]
  | tree => [("--tree", .option .tree false none)]
  | json name => [("--json", .option .json false none), (name, .word)]

/-- A file of formulas, with the tree shown or not and the proofs written or not. -/
def all (file : String) (tree : Bool) (out : Option String) : List Choice :=
  .file file :: ((if tree then [.tree] else []) ++ out.toList.map .json)

variable {file : String} {tree : Bool} {out : Option String}

/-- Of each kind there is one choice at most. -/
theorem mem_all {c : Choice} (h : c ∈ all file tree out) :
    c = .file file ∨ c = .tree ∨ c = .json (out.getD "") := by
  rw [all, List.mem_cons, List.mem_append] at h
  rcases h with rfl | h | h
  · exact .inl rfl
  · cases tree <;> simp_all
  · obtain ⟨o, ho, rfl⟩ := List.mem_map.1 h
    rw [Option.mem_toList.1 ho]
    exact .inr (.inr rfl)

theorem plain_all (hfile : file.toList.head? ≠ some '-')
    (hout : ∀ o ∈ out, o.toList.head? ≠ some '-') : ∀ c ∈ all file tree out, c.Plain := by
  intro c hc
  rw [all, List.mem_cons, List.mem_append] at hc
  rcases hc with rfl | hc | hc
  · exact hfile
  · cases tree <;> simp_all [Plain]
  · obtain ⟨o, ho, rfl⟩ := List.mem_map.1 hc
    exact hout o (Option.mem_toList.1 ho)

end Choice

namespace Argument

theorem ne_doubleDash {name : String} (h : name.toList.head? ≠ some '-') : name ≠ "--" := by
  rintro rfl
  exact h rfl

/-- What does not start with a dash is a word. -/
theorem classify_word {name : String} (h : name.toList.head? ≠ some '-') (rest : List String) :
    classify (name :: rest) = (classify rest).map ((name, .word) :: ·) := by
  have hword : classifyOne name = .ok .word := by
    rw [classifyOne]
    split
    next c cs hcs => exact absurd (by rw [hcs]; rfl) h
    next => rfl
  rw [classify, if_neg (ne_doubleDash h), hword]
  cases classify rest <;> rfl

theorem classify_option {spelling : String} {s : Switch} (hdash : spelling ≠ "--")
    (h : classifyOne spelling = .ok (.option s false none)) (rest : List String) :
    classify (spelling :: rest) =
      (classify rest).map ((spelling, .option s false none) :: ·) := by
  rw [classify, if_neg hdash, h]
  cases classify rest <;> rfl

theorem classify_valued {spelling name : String} {s : Switch} (hdash : spelling ≠ "--")
    (h : classifyOne spelling = .ok (.option s false none))
    (hname : name.toList.head? ≠ some '-') (rest : List String) :
    classify (spelling :: name :: rest) = (classify rest).map fun xs =>
      (spelling, .option s false none) :: (name, .word) :: xs := by
  rw [classify_option hdash h, classify_word hname]
  cases classify rest <;> rfl

/-- One choice is classified as what it is. -/
theorem classify_choice {c : Choice} (h : c.Plain) (rest : List String) :
    classify (c.arguments ++ rest) = (classify rest).map (c.classified ++ ·) := by
  cases c with
  | file name => exact classify_valued (by decide) rfl h rest
  | tree => exact classify_option (by decide) rfl rest
  | json name => exact classify_valued (by decide) rfl h rest

theorem classify_choices {choices : List Choice} (h : ∀ c ∈ choices, c.Plain) :
    classify (choices.flatMap Choice.arguments) = .ok (choices.flatMap Choice.classified) := by
  induction choices with
  | nil => rfl
  | cons c choices ih =>
    obtain ⟨hc, hchoices⟩ := List.forall_mem_cons.1 h
    rw [List.flatMap_cons, classify_choice hc, ih hchoices]
    rfl

end Argument

namespace Request

/-- The request that choices make, the last of a kind winning. -/
def ofChoices (choices : List Choice) : Request := choices.foldl Choice.apply .empty

theorem take_value {s : Switch} (hs : s.takesValue = true) (p : Progress) (spelling v : String)
    (rest : List (String × Argument)) :
    take p ((spelling, .option s false none) :: (v, .word) :: rest) =
      take { p with request := p.request.setValue s v } rest := by
  rw [take]
  simp [hs]

theorem take_tree (p : Progress) (spelling : String) (rest : List (String × Argument)) :
    take p ((spelling, .option .tree false none) :: rest) =
      take { p with request := { p.request with tree := true } } rest := by
  rw [take.eq_def]
  rfl

/-- One choice is taken as it is meant. -/
theorem take_choice {c : Choice} (h : c.Plain) (p : Progress) (rest : List (String × Argument)) :
    take p (c.classified ++ rest) = take { p with request := c.apply p.request } rest := by
  have htext : ∀ {name : String}, name.toList.head? ≠ some '-' →
      OptionValue.ofText name = .text name :=
    fun hname => if_neg (Argument.ne_doubleDash hname)
  cases c with
  | file name =>
    rw [Choice.classified, List.cons_append, List.cons_append, List.nil_append, take_value rfl,
      setValue, htext h]
    rfl
  | tree =>
    rw [Choice.classified, List.cons_append, List.nil_append, take_tree]
    rfl
  | json name =>
    rw [Choice.classified, List.cons_append, List.cons_append, List.nil_append, take_value rfl,
      setValue, htext h]
    rfl

theorem take_choices {choices : List Choice} (h : ∀ c ∈ choices, c.Plain) (p : Progress) :
    take p (choices.flatMap Choice.classified) =
      .ok (some { p with request := choices.foldl Choice.apply p.request }) := by
  induction choices generalizing p with
  | nil =>
    rw [List.flatMap_nil, take]
    rfl
  | cons c choices ih =>
    obtain ⟨hc, hchoices⟩ := List.forall_mem_cons.1 h
    rw [List.flatMap_cons, take_choice hc, ih hchoices]
    rfl

/-- No choice gives a formula. -/
theorem formula_foldl (choices : List Choice) (r : Request) :
    (choices.foldl Choice.apply r).formula = r.formula := by
  induction choices generalizing r with
  | nil => rfl
  | cons c choices ih =>
    rw [List.foldl_cons, ih]
    cases c <;> rfl

/-- **Plain choices are understood as they are meant**, if one of them is a file. -/
theorem ofArguments_choices {choices : List Choice} (h : ∀ c ∈ choices, c.Plain)
    (hfile : (ofChoices choices).file.isSome = true) :
    ofArguments (choices.flatMap Choice.arguments) = .ok (.work (ofChoices choices)) := by
  have hformula : (ofChoices choices).formula = none := formula_foldl choices .empty
  have hsource :
      ((ofChoices choices).formula.isNone == (ofChoices choices).file.isNone) = false := by
    rw [hformula, Option.isNone_eq_false_iff.2 hfile]
    rfl
  rw [ofArguments, Argument.classify_choices h]
  simp only [bind, Except.bind, take_choices h]
  rw [← ofChoices, hsource]
  rfl

/-- **The order of the choices does not matter.** -/
theorem ofChoices_of_perm {choices : List Choice} {file : String} {tree : Bool}
    {out : Option String} (h : choices.Perm (Choice.all file tree out)) :
    ofChoices choices = ⟨none, some (.text file), none, out.map .text, tree, false⟩ := by
  have hcomm : ∀ c ∈ choices, ∀ d ∈ choices, ∀ r : Request,
      d.apply (c.apply r) = c.apply (d.apply r) := by
    intro c hc d hd r
    rcases Choice.mem_all (h.mem_iff.1 hc) with rfl | rfl | rfl <;>
      rcases Choice.mem_all (h.mem_iff.1 hd) with rfl | rfl | rfl <;> rfl
  rw [ofChoices, h.foldl_eq' hcomm]
  cases tree <;> cases out <;> rfl

end Request

end Turnstile
