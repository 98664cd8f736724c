/-
# JSON text gives back what it was written from

Documents are stored as null, truth values, texts, lists, and dictionaries with
distinct texts for keys (`Data.Storable`). The text of such data, with any indent or
none, is read to what a builder makes of the data itself, the refusal of an object
included (`Builder.parse_render`). Blanks between tokens are skipped, and each value
starts with a character that is neither a blank nor a closing bracket, so the reader
is never misled by the layout; and a value is never longer in its nesting than in its
text, so the reader's fuel, which counts characters, is enough.

Key definitions: `Data.Storable`, `Json.IsGap`, `Json.outcome`, `Json.Reads`.
Key theorems: `Json.Reads.items`, `Json.Reads.pairs`, `Json.reads_of_storable`,
`Builder.parse_render`.
-/
import Turnstile.Proofs.JsonString

namespace Turnstile

/-- What documents are stored as: null, truth values, texts, lists, and
dictionaries with distinct texts for keys. -/
inductive Data.Storable : Data → Prop
  | null : Storable .null
  | bool (b : Bool) : Storable (.bool b)
  | text (s : String) : Storable (.text s)
  | list {items : List Data} (h : ∀ d ∈ items, Storable d) : Storable (.list items)
  | fields {fields : List (String × Data)} (hkeys : (fields.map Prod.fst).Nodup)
      (h : ∀ p ∈ fields, Storable p.2) : Storable (.ofFields fields)

/-! ### Keys -/

theorem Points.mapM_ofChars : ∀ cs : List Char, (ofChars cs).mapM CodePoint.char? = some cs
  | [] => rfl
  | c :: cs => by
    rw [ofChars, List.map_cons, ← ofChars, List.mapM_cons, mapM_ofChars cs]
    rfl

theorem Points.string?_ofString (s : String) : (ofString s).string? = some s := by
  rw [string?, ofString, mapM_ofChars, Option.map_some, String.ofList_toList]

namespace Key

theorem ofPoints_ofString (s : String) : ofPoints (.ofString s) = .text s := by
  rw [ofPoints, Points.string?_ofString]

@[simp] theorem named_text (s : String) : (text s).named = text s := ofPoints_ofString s

end Key

theorem Data.foldEntries_texts_cons {ε α : Type} (b : Builder ε α) (s : String) (d : Data)
    (fields : List (String × Data)) :
    Data.foldEntries b (((s, d) :: fields).map fun p => (.text p.1, p.2)) = (do
      let y ← d.fold b
      let ys ← Data.foldEntries b (fields.map fun p => (.text p.1, p.2))
      return (.text s, y) :: ys) := by
  rw [List.map_cons, Data.foldEntries, Key.named_text]

namespace Entries

section

variable {κ α : Type} [BEq κ]

theorem set_of_forall_ne {key : κ} (value : α) : ∀ {entries : List (κ × α)},
    (∀ p ∈ entries, (p.1 == key) = false) → set key value entries = entries ++ [(key, value)]
  | [], _ => rfl
  | (k, v) :: rest, h => by
    have hk : (k == key) = false := h (k, v) List.mem_cons_self
    rw [set, hk, set_of_forall_ne value fun p hp => h p (List.mem_cons_of_mem _ hp)]
    rfl

theorem foldl_set : ∀ (rest done : List (κ × α)),
    (done ++ rest).Pairwise (fun p q => (p.1 == q.1) = false) →
      rest.foldl (fun entries p => set p.1 p.2 entries) done = done ++ rest
  | [], done, _ => (List.append_nil done).symm
  | q :: rest, done, h => by
    have hq : ∀ p ∈ done, (p.1 == q.1) = false := fun p hp =>
      (List.pairwise_append.1 h).2.2 p hp q List.mem_cons_self
    rw [List.foldl_cons, set_of_forall_ne q.2 hq, foldl_set rest _ (by simpa using h)]
    simp

/-- Pairs with distinct keys are their own entries. -/
theorem ofPairs_eq_self {pairs : List (κ × α)}
    (h : pairs.Pairwise fun p q => (p.1 == q.1) = false) : ofPairs pairs = pairs :=
  foldl_set pairs [] h

end

theorem pairwise_of_texts {α : Type} {pairs : List (Key × α)} {names : List String}
    (hkeys : pairs.map Prod.fst = names.map .text) (h : names.Nodup) :
    pairs.Pairwise fun p q => (p.1 == q.1) = false := by
  have hkeyed : (names.map Key.text).Pairwise fun k l => (k == l) = false :=
    List.pairwise_map.2 (h.imp fun hne => Bool.eq_false_iff.2 fun hsame =>
      hne (Key.text.inj (Key.beq_text_iff.1 hsame)))
  rw [← hkeys] at hkeyed
  exact List.pairwise_map.1 hkeyed

end Entries

namespace Json

/-! ### Layout -/

/-- A character that may stand between JSON tokens. -/
def IsGap (c : Char) : Prop := c = ' ' ∨ c = '\t' ∨ c = '\n' ∨ c = '\r'

instance (c : Char) : Decidable (IsGap c) := inferInstanceAs (Decidable (_ ∨ _))

theorem isGap_blank : ∀ c ∈ [' '], IsGap c := by simp [IsGap]

theorem skipBlank_append {bs : List Char} (h : ∀ c ∈ bs, IsGap c) (cs : List Char) :
    skipBlank (bs ++ cs) = skipBlank cs :=
  List.dropWhile_append_of_pos fun c hc => decide_eq_true (h c hc)

theorem skipBlank_cons {c : Char} (h : ¬ IsGap c) (cs : List Char) :
    skipBlank (c :: cs) = c :: cs := List.dropWhile_cons_of_neg (by simpa [IsGap] using h)

/-- An indent is made of characters that may stand between tokens. -/
def IsLayout (indent : Option (List Char)) : Prop := ∀ unit ∈ indent, ∀ c ∈ unit, IsGap c

namespace IsLayout

variable {indent : Option (List Char)} (h : IsLayout indent)

include h

theorem lineBreak (level : Nat) : ∀ c ∈ Data.lineBreak indent level, IsGap c := by
  intro c hc
  cases indent with
  | none => simp [Data.lineBreak] at hc
  | some unit =>
    rcases List.mem_cons.1 hc with rfl | hc
    · decide
    · obtain ⟨cs, hcs, hmem⟩ := List.mem_flatten.1 hc
      obtain rfl := List.eq_of_mem_replicate hcs
      exact h cs rfl c hmem

theorem skipBlank_lineBreak {c : Char} (hc : ¬ IsGap c) (level : Nat) (cs : List Char) :
    skipBlank (Data.lineBreak indent level ++ c :: cs) = c :: cs := by
  rw [skipBlank_append (h.lineBreak level), skipBlank_cons hc]

/-- A comma and blanks stand between two items. -/
theorem exists_itemGap (level : Nat) :
    ∃ bs, Data.itemGap indent level = ',' :: bs ∧ ∀ c ∈ bs, IsGap c := by
  cases hi : indent with
  | none => exact ⟨[' '], rfl, isGap_blank⟩
  | some unit => exact ⟨Data.lineBreak (some unit) level, rfl, hi ▸ h.lineBreak level⟩

end IsLayout

/-! ### Values -/

variable {ε α β : Type}

/-- What reading gives where a builder gives `x`, and the characters `rest` are
left. -/
def outcome (x : Except ε β) (rest : List Char) : Except (ReadError ε) (β × List Char) :=
  match x with
  | .ok y => .ok (y, rest)
  | .error e => .error (.refused e)

/-- A value whose text starts as values start, and is read back to what a builder
makes of the value with as much fuel as the text has characters. -/
structure Reads (b : Builder ε α) (indent : Option (List Char)) (d : Data) : Prop where
  head (level : Nat) : ∃ c cs, d.renderAt indent level = c :: cs ∧ ¬ IsGap c ∧ c ≠ ']'
  read (level fuel : Nat) (rest : List Char) (h : (d.renderAt indent level).length ≤ fuel) :
    readValue b fuel (d.renderAt indent level ++ rest) = outcome (d.fold b) rest

namespace Reads

variable {b : Builder ε α} {indent : Option (List Char)} {d : Data}

theorem skipBlank_eq (h : Reads b indent d) {bs : List Char} (hbs : ∀ c ∈ bs, IsGap c)
    (level : Nat) (rest : List Char) :
    skipBlank (bs ++ (d.renderAt indent level ++ rest)) = d.renderAt indent level ++ rest := by
  obtain ⟨c, cs, hcs, hc, -⟩ := h.head level
  rw [skipBlank_append hbs, hcs, List.cons_append, skipBlank_cons hc]

theorem null : Reads b indent .null where
  head level := ⟨'n', _, rfl, by decide, by decide⟩
  read level fuel rest h := by
    obtain _ | fuel := fuel
    · simp [Data.renderAt] at h
    · rfl

theorem bool (x : Bool) : Reads b indent (.bool x) where
  head level := by
    cases x with
    | true => exact ⟨'t', _, rfl, by decide, by decide⟩
    | false => exact ⟨'f', _, rfl, by decide, by decide⟩
  read level fuel rest h := by
    obtain _ | fuel := fuel
    · cases x <;> simp [Data.renderAt] at h
    · cases x <;> rfl

theorem jsonText_append (s : String) (rest : List Char) : Data.jsonText s ++ rest =
    '\x22' :: ((Points.ofString s).flatMap Data.jsonPoint ++ '\x22' :: rest) := by
  simp [Data.jsonText]

theorem skipBlank_jsonText {bs : List Char} (hbs : ∀ c ∈ bs, IsGap c) (s : String)
    (cs : List Char) : skipBlank (bs ++ (Data.jsonText s ++ cs)) = Data.jsonText s ++ cs := by
  rw [skipBlank_append hbs, jsonText_append, skipBlank_cons (by decide)]

theorem text (s : String) : Reads b indent (.text s) where
  head level := ⟨'\x22', _, rfl, by decide, by decide⟩
  read level fuel rest h := by
    obtain _ | fuel := fuel
    · simp [Data.renderAt, Data.jsonText] at h
    · rw [Data.renderAt, jsonText_append, readValue]
      simp only [readString_points, Points.ofString, orMalformed, Data.fold]
      rfl

/-! ### Lists -/

/-- The items of a list are read back up to its closing bracket. -/
theorem items (hindent : IsLayout indent) (level outer : Nat) (rest : List Char) :
    ∀ (xs : List Data) (x : Data) (fuel : Nat), (∀ d ∈ x :: xs, Reads b indent d) →
      1 + (x.renderAt indent level).length + (Data.renderMore indent level xs).length ≤ fuel →
      readItems b fuel (x.renderAt indent level ++ (Data.renderMore indent level xs ++
        (Data.lineBreak indent outer ++ ']' :: rest))) = outcome (Data.foldItems b (x :: xs)) rest
  | [], x, fuel, h, hfuel => by
    obtain ⟨fuel, rfl⟩ : ∃ n, fuel = n + 1 := ⟨fuel - 1, by omega⟩
    have hend := hindent.skipBlank_lineBreak (by decide : ¬ IsGap ']') outer rest
    rw [readItems, (h x (by simp)).read level fuel _ (by omega), Data.foldItems, Data.foldItems]
    cases x.fold b with
    | error e => rfl
    | ok y => simp [outcome, Data.renderMore, hend, bind, Except.bind, pure, Except.pure]
  | x' :: xs, x, fuel, h, hfuel => by
    obtain ⟨fuel, rfl⟩ : ∃ n, fuel = n + 1 := ⟨fuel - 1, by omega⟩
    obtain ⟨bs, hgap, hbs⟩ := hindent.exists_itemGap level
    have hmore : ∀ cs, Data.renderMore indent level (x' :: xs) ++ cs =
        ',' :: (bs ++ (x'.renderAt indent level ++ (Data.renderMore indent level xs ++ cs))) := by
      intro cs
      simp [Data.renderMore, hgap]
    have hlength := congrArg List.length (hmore [])
    simp only [List.append_nil, List.length_cons, List.length_append] at hlength
    have ih := items hindent level outer rest xs x' fuel (fun d hd => h d (by simp [hd])) (by omega)
    have hcomma : ∀ cs, skipBlank (',' :: cs) = ',' :: cs := skipBlank_cons (by decide)
    rw [readItems, (h x (by simp)).read level fuel _ (by omega), Data.foldItems]
    cases x.fold b with
    | error e => rfl
    | ok y =>
      simp only [outcome, bind, Except.bind, hmore, hcomma, (h x' (by simp)).skipBlank_eq hbs, ih]
      cases Data.foldItems b (x' :: xs) <;> rfl

theorem list_cons (hindent : IsLayout indent) {x : Data} {xs : List Data}
    (h : ∀ d ∈ x :: xs, Reads b indent d) : Reads b indent (.list (x :: xs)) where
  head level := ⟨'[', _, rfl, by decide, by decide⟩
  read level fuel rest hfuel := by
    have htext : (Data.list (x :: xs)).renderAt indent level ++ rest =
        '[' :: (Data.lineBreak indent (level + 1) ++ (x.renderAt indent (level + 1) ++
          (Data.renderMore indent (level + 1) xs ++
            (Data.lineBreak indent level ++ ']' :: rest)))) := by
      simp [Data.renderAt]
    have hlength := congrArg List.length htext
    simp only [List.length_cons, List.length_append] at hlength
    obtain ⟨fuel, rfl⟩ : ∃ n, fuel = n + 1 := ⟨fuel - 1, by omega⟩
    have hx := h x (by simp)
    have hitems := items hindent (level + 1) level rest xs x fuel h (by omega)
    rw [htext, readValue, hx.skipBlank_eq (hindent.lineBreak (level + 1)), Data.fold]
    simp only
    split
    next rest' heq =>
      -- the first item does not start with the closing bracket
      obtain ⟨c, cs, hcs, -, hclose⟩ := hx.head (level + 1)
      rw [hcs, List.cons_append] at heq
      exact absurd (List.cons.inj heq).1 hclose
    next =>
      rw [hitems]
      cases Data.foldItems b (x :: xs) <;> rfl

theorem list_nil : Reads b indent (.list []) where
  head level := ⟨'[', _, rfl, by decide, by decide⟩
  read level fuel rest hfuel := by
    obtain _ | fuel := fuel
    · simp [Data.renderAt] at hfuel
    · rfl

/-! ### Dictionaries -/

/-- Reading entries takes a key and the value that goes with it first. -/
theorem readPairs_eq (h : Reads b indent d) (s : String) (level fuel : Nat) (rest : List Char)
    (hfuel : (d.renderAt indent level).length ≤ fuel) :
    readPairs b (fuel + 1) (Data.jsonText s ++ ':' :: ' ' :: (d.renderAt indent level ++ rest)) =
      match d.fold b with
      | .error e => .error (.refused e)
      | .ok y =>
        match skipBlank rest with
        | '\x7d' :: rest => .ok ([(.text s, y)], rest)
        | ',' :: rest => do
          let (pairs, rest) ← readPairs b fuel (skipBlank rest)
          return ((.text s, y) :: pairs, rest)
        | _ => .error .malformed := by
  have hcolon : ∀ cs, skipBlank (':' :: cs) = ':' :: cs := skipBlank_cons (by decide)
  have hblank : skipBlank (' ' :: (d.renderAt indent level ++ rest)) =
      d.renderAt indent level ++ rest := h.skipBlank_eq isGap_blank level rest
  rw [jsonText_append, readPairs]
  simp only [Points.ofString, readString_points, orMalformed, bind, Except.bind, hcolon, hblank,
    h.read level fuel rest hfuel]
  rw [← Points.ofString, Key.ofPoints_ofString]
  cases d.fold b with
  | error e => rfl
  | ok y => rfl

/-- The entries of a dictionary are read back up to its closing brace. -/
theorem pairs (hindent : IsLayout indent) (level outer : Nat) (rest : List Char) :
    ∀ (fs : List (String × Data)) (s : String) (d : Data) (fuel : Nat),
      (∀ p ∈ (s, d) :: fs, Reads b indent p.2) →
      1 + (d.renderAt indent level).length +
        (Data.renderFurther indent level (fs.map fun p => (.text p.1, p.2))).length ≤ fuel →
      readPairs b fuel (Data.jsonText s ++ ':' :: ' ' :: (d.renderAt indent level ++
        (Data.renderFurther indent level (fs.map fun p => (.text p.1, p.2)) ++
          (Data.lineBreak indent outer ++ '\x7d' :: rest)))) =
        outcome (Data.foldEntries b (((s, d) :: fs).map fun p => (.text p.1, p.2))) rest
  | [], s, d, fuel, h, hfuel => by
    obtain ⟨fuel, rfl⟩ : ∃ n, fuel = n + 1 := ⟨fuel - 1, by omega⟩
    have hd : Reads b indent d := h (s, d) (by simp)
    have hend := hindent.skipBlank_lineBreak (by decide : ¬ IsGap '\x7d') outer rest
    rw [hd.readPairs_eq s level fuel _ (by omega), Data.foldEntries_texts_cons]
    simp only [List.map_nil, Data.renderFurther, List.nil_append, hend]
    cases d.fold b <;> rfl
  | (s', d') :: fs, s, d, fuel, h, hfuel => by
    obtain ⟨fuel, rfl⟩ : ∃ n, fuel = n + 1 := ⟨fuel - 1, by omega⟩
    obtain ⟨bs, hgap, hbs⟩ := hindent.exists_itemGap level
    have hmore : ∀ cs, Data.renderFurther indent level
        (((s', d') :: fs).map fun p => (.text p.1, p.2)) ++ cs =
          ',' :: (bs ++ (Data.jsonText s' ++ ':' :: ' ' :: (d'.renderAt indent level ++
            (Data.renderFurther indent level (fs.map fun p => (.text p.1, p.2)) ++ cs)))) := by
      intro cs
      simp [Data.renderFurther, hgap, Key.label]
    have hlength := congrArg List.length (hmore [])
    simp only [List.append_nil, List.length_cons, List.length_append] at hlength
    have ih := pairs hindent level outer rest fs s' d' fuel (fun p hp => h p (by simp [hp]))
      (by omega)
    have hd : Reads b indent d := h (s, d) (by simp)
    have hcomma : ∀ cs, skipBlank (',' :: cs) = ',' :: cs := skipBlank_cons (by decide)
    rw [hd.readPairs_eq s level fuel _ (by omega), Data.foldEntries_texts_cons]
    cases d.fold b with
    | error e => rfl
    | ok y =>
      simp only [hmore, hcomma, skipBlank_jsonText hbs, ih]
      cases Data.foldEntries b (((s', d') :: fs).map fun p => (.text p.1, p.2)) <;> rfl

theorem keys_foldEntries (b : Builder ε α) : ∀ {fs : List (String × Data)} {ys : List (Key × α)},
    Data.foldEntries b (fs.map fun p => (.text p.1, p.2)) = .ok ys →
      ys.map Prod.fst = (fs.map Prod.fst).map .text
  | [], ys, h => by
    cases h
    rfl
  | (s, d) :: fs, ys, h => by
    rw [Data.foldEntries_texts_cons] at h
    cases hd : d.fold b with
    | error e =>
      rw [hd] at h
      cases h
    | ok y =>
      cases hfs : Data.foldEntries b (fs.map fun p => (.text p.1, p.2)) with
      | error e =>
        rw [hd, hfs] at h
        cases h
      | ok ys' =>
        rw [hd, hfs] at h
        cases h
        simp [keys_foldEntries b hfs]

theorem fields_cons (hindent : IsLayout indent) {s : String} {d : Data}
    {fs : List (String × Data)} (hkeys : (((s, d) :: fs).map Prod.fst).Nodup)
    (h : ∀ p ∈ (s, d) :: fs, Reads b indent p.2) : Reads b indent (.ofFields ((s, d) :: fs)) where
  head level := ⟨'\x7b', _, rfl, by decide, by decide⟩
  read level fuel rest hfuel := by
    have htext : (Data.ofFields ((s, d) :: fs)).renderAt indent level ++ rest =
        '\x7b' :: (Data.lineBreak indent (level + 1) ++ (Data.jsonText s ++ ':' :: ' ' ::
          (d.renderAt indent (level + 1) ++ (Data.renderFurther indent (level + 1)
            (fs.map fun p => (.text p.1, p.2)) ++
              (Data.lineBreak indent level ++ '\x7d' :: rest))))) := by
      simp [Data.ofFields, Data.renderAt, Key.label]
    have hlength := congrArg List.length htext
    simp only [List.length_cons, List.length_append] at hlength
    obtain ⟨fuel, rfl⟩ : ∃ n, fuel = n + 1 := ⟨fuel - 1, by omega⟩
    have hpairs := pairs hindent (level + 1) level rest fs s d fuel h (by omega)
    rw [htext, readValue, skipBlank_jsonText (hindent.lineBreak (level + 1)), Data.ofFields,
      Data.fold]
    simp only
    split
    next heq =>
      rw [jsonText_append] at heq
      exact absurd (List.cons.inj heq).1 (by decide)
    next =>
      rw [hpairs]
      cases hys : Data.foldEntries b (((s, d) :: fs).map fun p => (.text p.1, p.2)) with
      | error e => rfl
      | ok ys =>
        -- no key comes again, so the pairs are the entries
        have hself : Entries.ofPairs ys = ys :=
          Entries.ofPairs_eq_self (Entries.pairwise_of_texts (keys_foldEntries b hys) hkeys)
        simp only [outcome, bind, Except.bind, hself]
        cases b.object ys <;> rfl

theorem fields_nil : Reads b indent (.ofFields []) where
  head level := ⟨'\x7b', _, rfl, by decide, by decide⟩
  read level fuel rest hfuel := by
    obtain _ | fuel := fuel
    · simp [Data.ofFields, Data.renderAt] at hfuel
    · have hfold : (Data.ofFields []).fold b = b.object [] := rfl
      have hread : readValue b (fuel + 1) ('\x7b' :: '\x7d' :: rest) = (do
          let x ← (b.object []).mapError .refused
          return (x, rest)) := rfl
      rw [hfold]
      refine hread.trans ?_
      cases b.object [] <;> rfl

end Reads

theorem reads_of_storable (b : Builder ε α) {indent : Option (List Char)}
    (hindent : IsLayout indent) {d : Data} (h : d.Storable) : Reads b indent d := by
  induction h with
  | null => exact .null
  | bool x => exact .bool x
  | text s => exact .text s
  | @list items _ ih =>
    cases items with
    | nil => exact .list_nil
    | cons x xs => exact .list_cons hindent ih
  | @fields fs hkeys _ ih =>
    cases fs with
    | nil => exact .fields_nil
    | cons p fs => exact .fields_cons hindent hkeys ih

end Json

/-- **JSON text gives back what it was written from.** A builder makes of the text
of storable data what it makes of the data, with any indent. -/
theorem Builder.parse_render {ε α : Type} (b : Builder ε α) (indent : Option Int) {d : Data}
    (h : d.Storable) : b.parse (d.render indent) = (d.fold b).mapError .refused := by
  have hindent : Json.IsLayout (indent.map Data.blanks) := by
    intro unit hunit c hc
    obtain ⟨i, -, rfl⟩ := Option.map_eq_some_iff.1 hunit
    exact .inl (List.eq_of_mem_replicate hc)
  have hreads := Json.reads_of_storable b hindent h
  have hnil : ∀ c ∈ ([] : List Char), Json.IsGap c := by simp
  have hskip := hreads.skipBlank_eq hnil 0 []
  rw [List.nil_append, List.append_nil] at hskip
  have hread := hreads.read 0 (2 * (d.renderAt (indent.map Data.blanks) 0).length + 2) [] (by omega)
  rw [List.append_nil] at hread
  rw [Builder.parse, Data.render, Data.renderWith, String.toList_ofList]
  simp only [hskip, hread]
  cases d.fold b <;> rfl

end Turnstile
