/-
# Settings in layers

What a key has after an update depends on what it had before, on what the update says
on it, and on whether the update has a plain value on the way to it. A plain value of
the update takes the place of what was there, a section is merged into a section and
takes the place of anything else, and where the update says nothing all stays as it
was, unless a section that the key is in became a plain value
(`Settings.lookup_merge`). A null counts as nothing, whether it is passed over or is
installed with the section that it is in.

A step on the way is what a value says on one name (`Data.said?`), so a lookup is one
step after the other (`Settings.lookup_cons`), and one step over merged dictionaries
is `Data.said?_merge`. The law for paths follows by induction on the path.

A dictionary has no key twice. For lists of entries this has to be said
(`Data.keysDiffer`), and only of the update: of entries with the same key the first
would be found, and the last would be merged. Sections are values here: that two
places hold one and the same dictionary, so that a change in one shows in the other,
cannot be said.

Key definitions: `Data.keysDiffer`, `Data.said?`, `Settings.isBarred`,
`Settings.overlay`, `Settings.valueOf`, `Settings.Obstructed`, `Settings.hasNull`,
`Settings.updateAll`.
Key theorems: `Data.said?_merge`, `Settings.lookup_merge`,
`Settings.isBarred_iff_obstructed`, `Settings.valueOf_foldl_merge`,
`Settings.update_lookup_law`.
-/
import Mathlib.Tactic.Common
import Turnstile.Settings

namespace Turnstile

/-! ### Dictionaries -/

namespace Entries

variable {α : Type}

theorem get?_set_text (s : String) (key : Key) (value : α) (entries : List (Key × α)) :
    get? (.text s) (set key value entries) =
      if key == .text s then some value else get? (.text s) entries := by
  induction entries with
  | nil => rfl
  | cons p rest ih =>
    obtain ⟨k, v⟩ := p
    rw [set]
    by_cases hk : (k == key) = true
    · -- a key keeps its place, and it is a text if the key that was set is one
      have hsame : (k == .text s) = (key == .text s) := by
        rw [Bool.eq_iff_iff, Key.beq_text_iff, Key.beq_text_iff]
        constructor
        · rintro rfl
          exact Key.text_beq_iff.1 hk
        · rintro rfl
          exact Key.beq_text_iff.1 hk
      rw [if_pos hk, get?, get?, hsame]
      split_ifs <;> rfl
    · rw [if_neg hk, get?, get?, ih]
      by_cases hs : (k == .text s) = true
      · have hother : ¬(key == .text s) = true := by
          intro hkey
          rw [Key.beq_text_iff.1 hkey] at hk
          exact hk hs
        rw [if_pos hs, if_pos hs, if_neg hother]
      · rw [if_neg hs, if_neg hs]

theorem get?_text_eq_none {s : String} {entries : List (Key × α)}
    (h : entries.all (fun p => !(p.1 == .text s)) = true) : get? (.text s) entries = none := by
  induction entries with
  | nil => rfl
  | cons p rest ih =>
    obtain ⟨k, v⟩ := p
    obtain ⟨hk, hrest⟩ : (k == .text s) = false ∧
        rest.all (fun p => !(p.1 == .text s)) = true := by simpa using h
    rw [get?, hk, ih hrest]
    rfl

end Entries

namespace Data

mutual

/-- Whether no dictionary has a key twice, neither the value nor one that is in it by
way of dictionaries. -/
def keysDiffer : Data → Bool
  | .dict entries => entriesDiffer entries
  | _ => true

/-- Whether the keys of entries differ, and the keys in their values. -/
def entriesDiffer : List (Key × Data) → Bool
  | [] => true
  | (k, d) :: rest => rest.all (fun p => !(p.1 == k)) && d.keysDiffer && entriesDiffer rest

end

theorem eq_dict_of_entries? {d : Data} {entries : List (Key × Data)}
    (h : d.entries? = some entries) : d = .dict entries := by
  cases d with
  | dict inner => exact congrArg _ (Option.some.inj h)
  | _ => cases h

/-- What a value says on a name: the entry of a dictionary, if it is not null. -/
def said? (name : String) : Data → Option Data
  | .dict entries => (Entries.get? (.text name) entries).filter fun d => !d.isNull
  | _ => none

theorem said?_of_plain {d : Data} (h : d.entries? = none) (name : String) :
    d.said? name = none := by
  cases d with
  | dict entries => cases h
  | _ => rfl

/-- The values in a dictionary without repeated keys have none either. -/
theorem keysDiffer_of_get? {name : String} {d : Data} {entries : List (Key × Data)}
    (h : entriesDiffer entries = true) (hd : Entries.get? (.text name) entries = some d) :
    d.keysDiffer = true := by
  induction entries with
  | nil => cases hd
  | cons p rest ih =>
    obtain ⟨k, e⟩ := p
    rw [entriesDiffer, Bool.and_eq_true, Bool.and_eq_true] at h
    rw [Entries.get?] at hd
    split_ifs at hd with hk
    · cases hd
      exact h.1.2
    · exact ih h.2 hd

theorem keysDiffer_of_said? {name : String} {d e : Data} (h : d.keysDiffer = true)
    (he : d.said? name = some e) : e.keysDiffer = true := by
  cases d with
  | dict entries =>
    rw [keysDiffer] at h
    exact keysDiffer_of_get? h (Option.filter_eq_some_iff.1 he).1
  | _ => cases he

end Data

namespace Settings

/-! ### One step -/

theorem mergeValue_of_plain (below : Option Data) {d : Data} (h : d.entries? = none) :
    mergeValue below d = d := by
  rw [mergeValue]
  rintro changes rfl
  cases h

theorem mergeValue_section (base changes : List (Key × Data)) :
    mergeValue (some (.dict base)) (.dict changes) = .dict (merge base changes) := by
  rw [mergeValue]

/-- A section takes the place of what is none. -/
theorem mergeValue_of_no_section {below : Option Data} (h : ∀ base, below ≠ some (.dict base))
    (d : Data) : mergeValue below d = d := by
  cases d with
  | dict changes =>
    rw [mergeValue]
    exact h
  | _ => exact mergeValue_of_plain below rfl

theorem isNull_mergeValue (below : Option Data) {d : Data} (h : d.isNull = false) :
    (mergeValue below d).isNull = false := by
  by_cases hsection : ∃ base, below = some (.dict base)
  · obtain ⟨base, rfl⟩ := hsection
    cases d with
    | dict changes =>
      rw [mergeValue_section]
      rfl
    | _ => rwa [mergeValue_of_plain _ rfl]
  · rwa [mergeValue_of_no_section fun base hbase => hsection ⟨base, hbase⟩]

/-- What merged entries have for a name: the value that the changes give it, or else what
it had. -/
theorem get?_merge {name : String} {changes : List (Key × Data)}
    (h : Data.entriesDiffer changes = true) (base : List (Key × Data)) :
    Entries.get? (.text name) (merge base changes) =
      (((Data.dict changes).said? name).map
        (mergeValue (Entries.get? (.text name) base))).or (Entries.get? (.text name) base) := by
  induction changes generalizing base with
  | nil =>
    rw [merge]
    rfl
  | cons p rest ih =>
    obtain ⟨k, d⟩ := p
    rw [Data.entriesDiffer, Bool.and_eq_true, Bool.and_eq_true] at h
    obtain ⟨⟨hfresh, -⟩, hrest⟩ := h
    rw [merge, ih hrest]
    by_cases hk : (k == .text name) = true
    · -- no later entry has the same name
      obtain rfl := Key.beq_text_iff.1 hk
      have hlater : (Data.dict rest).said? name = none := by
        rw [Data.said?, Entries.get?_text_eq_none hfresh, Option.filter_none]
      rw [hlater, Option.map_none, Option.none_or, Data.said?, Entries.get?, if_pos hk]
      cases hnull : d.isNull with
      | true => simp [Option.filter_some, hnull]
      | false => simp [Option.filter_some, hnull, Entries.get?_set_text, hk]
    · have hbase : Entries.get? (.text name)
          (if d.isNull then base else Entries.set k (mergeValue (Entries.get? k base) d) base) =
            Entries.get? (.text name) base := by
        cases hnull : d.isNull with
        | true => rfl
        | false => rw [if_neg (by simp), Entries.get?_set_text, if_neg hk]
      have hsaid : (Data.dict ((k, d) :: rest)).said? name = (Data.dict rest).said? name := by
        rw [Data.said?, Data.said?, Entries.get?, if_neg hk]
      rw [hbase, hsaid]

/-- A null below is as good as nothing. -/
theorem mergeValue_filter (below : Option Data) :
    mergeValue (below.filter fun d => !d.isNull) = mergeValue below := by
  cases below with
  | none => rfl
  | some d =>
    cases d with
    | null =>
      funext e
      rw [mergeValue_of_no_section (by simp), mergeValue_of_no_section (by simp)]
    | _ => rfl

/-- **One step.** On a name merged dictionaries say what the changes say on it, merged into
what was said before, or else what was said before. -/
theorem said?_merge {changes : List (Key × Data)} (h : (Data.dict changes).keysDiffer = true)
    (base : List (Key × Data)) (name : String) :
    (Data.dict (merge base changes)).said? name =
      (((Data.dict changes).said? name).map (mergeValue ((Data.dict base).said? name))).or
        ((Data.dict base).said? name) := by
  rw [Data.keysDiffer] at h
  rw [Data.said?, get?_merge h]
  cases hsaid : (Data.dict changes).said? name with
  | none => rfl
  | some d =>
    have hd : d.isNull = false := by
      rw [Data.said?] at hsaid
      simpa using (Option.filter_eq_some_iff.1 hsaid).2
    have hmerged := isNull_mergeValue (Entries.get? (.text name) base) hd
    simp only [Option.map_some, Option.some_or]
    rw [Option.filter_some, if_pos (by simp [hmerged]), Data.said?, mergeValue_filter]

/-! ### Paths -/

theorem lookup_cons (name : String) (names : List String) (d : Data) :
    lookup (name :: names) d = (d.said? name).bind (lookup names) := by
  cases d with
  | dict entries =>
    rw [lookup, Data.said?]
    cases hget : Entries.get? (.text name) entries with
    | none => rfl
    | some e => cases e <;> rfl
  | _ => rfl

theorem lookup_singleton (name : String) (d : Data) : lookup [name] d = d.said? name := by
  rw [lookup_cons]
  cases d.said? name <;> rfl

/-- Whether a plain value stands on the way along a path, so that the path cannot go on. -/
def isBarred : List String → Data → Bool
  | name :: next :: names, d =>
    match d.said? name with
    | none => false
    | some e => e.entries?.isNone || isBarred (next :: names) e
  | _, _ => false

/-- What a path has after an update, if it had `below` and the update has `above`. -/
def overlay (below above : Option Data) (barred : Bool) : Option Data :=
  match above with
  | some d => some (mergeValue below d)
  | none => if barred then none else below

theorem lookup_of_plain {d : Data} (h : d.entries? = none) (name : String)
    (names : List String) : lookup (name :: names) d = none := by
  rw [lookup_cons, Data.said?_of_plain h, Option.bind_none]

/-- A path goes on in sections only. -/
theorem lookup_of_no_section {below : Option Data} (h : ∀ base, below ≠ some (.dict base))
    (name : String) (names : List String) : below.bind (lookup (name :: names)) = none := by
  cases below with
  | none => rfl
  | some d =>
    cases hentries : d.entries? with
    | none => exact lookup_of_plain hentries name names
    | some base => exact absurd (congrArg some (Data.eq_dict_of_entries? hentries)) (h base)

/-- Where nothing was below, an update has its own say. -/
theorem overlay_none (above : Option Data) (barred : Bool) : overlay none above barred = above := by
  cases above with
  | none => cases barred <;> rfl
  | some d =>
    rw [overlay, mergeValue_of_no_section]
    simp

/-- **What a path has after an update** comes from what it had, what the update has, and
whether the update bars it. -/
theorem lookup_merge (name : String) (names : List String) {changes : List (Key × Data)}
    (h : (Data.dict changes).keysDiffer = true) (base : List (Key × Data)) :
    lookup (name :: names) (.dict (merge base changes)) =
      overlay (lookup (name :: names) (.dict base)) (lookup (name :: names) (.dict changes))
        (isBarred (name :: names) (.dict changes)) := by
  -- the path is followed from the top, and the update with it
  induction names generalizing name changes base with
  | nil =>
    rw [lookup_singleton, lookup_singleton, lookup_singleton, said?_merge h]
    cases (Data.dict changes).said? name <;> rfl
  | cons next names ih =>
    rw [lookup_cons, lookup_cons name, lookup_cons name, said?_merge h, isBarred]
    cases hsaid : (Data.dict changes).said? name with
    | none => rfl
    | some e =>
      simp only [Option.map_some, Option.some_or, Option.bind_some]
      cases he : e.entries? with
      | none =>
        -- a plain value: the path ends here, whatever was below
        rw [mergeValue_of_plain _ he, lookup_of_plain he]
        rfl
      | some inner =>
        obtain rfl := Data.eq_dict_of_entries? he
        have hinner : (Data.dict inner).keysDiffer = true := Data.keysDiffer_of_said? h hsaid
        by_cases hsection : ∃ below, (Data.dict base).said? name = some (.dict below)
        · obtain ⟨below, hbelow⟩ := hsection
          rw [hbelow, mergeValue_section, ih next hinner below]
          rfl
        · -- the section is installed as it is, and the path had nothing before
          have hbelow : ∀ below, (Data.dict base).said? name ≠ some (.dict below) :=
            fun below hbelow => hsection ⟨below, hbelow⟩
          rw [mergeValue_of_no_section hbelow, lookup_of_no_section hbelow, overlay_none]

/-- A path is barred if a proper part of it leads to a plain value. -/
theorem isBarred_iff (names : List String) (d : Data) :
    isBarred names d = true ↔ ∃ first front next rest, names = (first :: front) ++ next :: rest ∧
      ∃ e, lookup (first :: front) d = some e ∧ e.entries? = none := by
  fun_induction isBarred names d with
  | case1 name next names d hsaid =>
    simp only [Bool.false_eq_true, false_iff]
    rintro ⟨first, front, last, rest, hsplit, e, he, -⟩
    obtain ⟨rfl, -⟩ := List.cons.inj hsplit
    rw [lookup_cons, hsaid] at he
    cases he
  | case2 name next names d e hsaid ih =>
    rw [Bool.or_eq_true, Option.isNone_iff_eq_none, ih]
    constructor
    · rintro (hplain | ⟨first, front, last, rest, hsplit, e', he', hplain⟩)
      · exact ⟨name, [], next, names, rfl, e, by rw [lookup_singleton, hsaid], hplain⟩
      · refine ⟨name, first :: front, last, rest, congrArg _ hsplit, e', ?_, hplain⟩
        rw [lookup_cons, hsaid]
        exact he'
    · rintro ⟨first, front, last, rest, hsplit, e', he', hplain⟩
      obtain ⟨rfl, hnames⟩ := List.cons.inj hsplit
      rw [lookup_cons, hsaid, Option.bind_some] at he'
      cases front with
      | nil =>
        cases he'
        exact .inl hplain
      | cons second front => exact .inr ⟨second, front, last, rest, hnames, e', he', hplain⟩
  | case3 names d hshort =>
    simp only [Bool.false_eq_true, false_iff]
    rintro ⟨first, front, last, rest, hsplit, -⟩
    cases front with
    | nil => exact hshort first last rest hsplit
    | cons second front => exact hshort first second (front ++ last :: rest) hsplit

/-! ### Dotted keys -/

theorem splitDots_ne_nil (cs : List Char) : splitDots cs ≠ [] := by
  fun_cases splitDots cs <;> simp

theorem splitDots_append_dot (cs ds : List Char) :
    splitDots (cs ++ '.' :: ds) = splitDots cs ++ splitDots ds := by
  induction cs with
  | nil => simp [splitDots]
  | cons c cs ih =>
    by_cases hc : c = '.'
    · simp only [List.cons_append, splitDots, if_pos hc, ih]
    · simp only [List.cons_append, splitDots, if_neg hc, ih]
      cases hpieces : splitDots cs with
      | nil => exact absurd hpieces (splitDots_ne_nil cs)
      | cons piece pieces => rfl

/-- Where the pieces of a key are divided there is a dot. -/
theorem exists_dot {cs piece next : List Char} {front rest : List (List Char)}
    (h : splitDots cs = (piece :: front) ++ next :: rest) :
    ∃ ds es, cs = ds ++ '.' :: es ∧ splitDots ds = piece :: front ∧
      splitDots es = next :: rest := by
  induction cs generalizing piece front with
  | nil => simp [splitDots] at h
  | cons c cs ih =>
    by_cases hc : c = '.'
    · rw [splitDots, if_pos hc] at h
      obtain ⟨rfl, hcs⟩ := List.cons.inj h
      cases front with
      | nil => exact ⟨[], cs, by rw [hc]; rfl, rfl, hcs⟩
      | cons second front =>
        obtain ⟨ds, es, rfl, hds, hes⟩ := ih hcs
        refine ⟨c :: ds, es, rfl, ?_, hes⟩
        rw [splitDots, if_pos hc, hds]
    · cases hpieces : splitDots cs with
      | nil => exact absurd hpieces (splitDots_ne_nil cs)
      | cons first pieces =>
        rw [splitDots, if_neg hc, hpieces] at h
        obtain ⟨rfl, hcs⟩ := List.cons.inj h
        obtain ⟨ds, es, rfl, hds, hes⟩ := ih (hpieces.trans (congrArg _ hcs))
        refine ⟨c :: ds, es, rfl, ?_, hes⟩
        rw [splitDots, if_neg hc, hds]

theorem keys_ne_nil (key : String) : keys key ≠ [] := by
  simpa [keys] using splitDots_ne_nil key.toList

theorem keys_append_dot (front rest : String) :
    keys (front ++ "." ++ rest) = keys front ++ keys rest := by
  have hchars : (front ++ "." ++ rest).toList = front.toList ++ '.' :: rest.toList := by simp
  rw [keys, hchars, splitDots_append_dot, List.map_append, keys, keys]

/-- A proper part of the path of a key is that of a dotted part of the key. -/
theorem exists_dotted {key first next : String} {front rest : List String}
    (h : keys key = (first :: front) ++ next :: rest) :
    ∃ part tail, key = part ++ "." ++ tail ∧ keys part = first :: front := by
  obtain ⟨pieces, more, hsplit, hpieces, hmore⟩ := List.map_eq_append_iff.1 h
  obtain ⟨piece, pieces, rfl, -, -⟩ := List.map_eq_cons_iff.1 hpieces
  obtain ⟨last, more, rfl, -, -⟩ := List.map_eq_cons_iff.1 hmore
  obtain ⟨ds, es, hchars, hds, -⟩ := exists_dot hsplit
  refine ⟨String.ofList ds, String.ofList es, ?_, ?_⟩
  · rw [← String.toList_inj, hchars]
    simp
  · rw [keys, String.toList_ofList, hds, hpieces]

/-! ### The law -/

/-- What a dictionary has under a dotted key: the value of the key in settings that are
the dictionary. -/
def valueOf (entries : List (Key × Data)) (key : String) : Option Data :=
  get? ⟨[], .dict entries⟩ key

/-- Some proper dotted part of the key has a plain value in the dictionary. -/
def Obstructed (entries : List (Key × Data)) (key : String) : Prop :=
  ∃ part tail, key = part ++ "." ++ tail ∧
    ∃ d, valueOf entries part = some d ∧ d.entries? = none

theorem isBarred_iff_obstructed (entries : List (Key × Data)) (key : String) :
    isBarred (keys key) (.dict entries) = true ↔ Obstructed entries key := by
  rw [isBarred_iff]
  constructor
  · rintro ⟨first, front, next, rest, hsplit, d, hd, hplain⟩
    obtain ⟨part, tail, hkey, hpart⟩ := exists_dotted hsplit
    refine ⟨part, tail, hkey, d, ?_, hplain⟩
    rw [valueOf, get?, hpart]
    exact hd
  · rintro ⟨part, tail, rfl, d, hd, hplain⟩
    obtain ⟨first, front, hpart⟩ := List.exists_cons_of_ne_nil (keys_ne_nil part)
    obtain ⟨next, rest, htail⟩ := List.exists_cons_of_ne_nil (keys_ne_nil tail)
    rw [valueOf, get?, hpart] at hd
    exact ⟨first, front, next, rest, by rw [keys_append_dot, hpart, htail], d, hd, hplain⟩

theorem valueOf_merge {changes : List (Key × Data)} (h : (Data.dict changes).keysDiffer = true)
    (base : List (Key × Data)) (key : String) :
    valueOf (merge base changes) key =
      overlay (valueOf base key) (valueOf changes key) (isBarred (keys key) (.dict changes)) := by
  obtain ⟨first, front, hkeys⟩ := List.exists_cons_of_ne_nil (keys_ne_nil key)
  rw [valueOf, valueOf, valueOf, get?, get?, get?, hkeys]
  exact lookup_merge first front h base

/-- Whether a null stands at the end of a path. -/
def hasNull : List String → Data → Bool
  | [], d => d.isNull
  | name :: names, .dict entries => (Entries.get? (.text name) entries).any (hasNull names)
  | _ :: _, _ => false

/-- A null at the end of a path says nothing, and there are sections on the way to it. -/
theorem silent_of_hasNull {name : String} {names : List String} {d : Data}
    (h : hasNull (name :: names) d = true) :
    lookup (name :: names) d = none ∧ isBarred (name :: names) d = false := by
  induction names generalizing name d with
  | nil =>
    cases d with
    | dict entries =>
      rw [hasNull, Option.any_eq_true] at h
      obtain ⟨e, he, hnull⟩ := h
      rw [hasNull] at hnull
      rw [lookup_singleton, Data.said?, he, Option.filter_some, hnull]
      exact ⟨rfl, rfl⟩
    | _ => cases h
  | cons next names ih =>
    cases d with
    | dict entries =>
      rw [hasNull, Option.any_eq_true] at h
      obtain ⟨e, he, hnull⟩ := h
      obtain ⟨hnone, hopen⟩ := ih hnull
      cases e with
      | dict inner =>
        have hsaid : (Data.dict entries).said? name = some (.dict inner) := by
          rw [Data.said?, he]
          rfl
        rw [lookup_cons, isBarred, hsaid]
        exact ⟨hnone, hopen⟩
      | _ => cases hnull
    | _ => cases h

theorem not_obstructed_of_hasNull {entries : List (Key × Data)} {key : String}
    (h : hasNull (keys key) (.dict entries) = true) :
    valueOf entries key = none ∧ ¬Obstructed entries key := by
  obtain ⟨first, front, hkeys⟩ := List.exists_cons_of_ne_nil (keys_ne_nil key)
  rw [hkeys] at h
  obtain ⟨hnone, hopen⟩ := silent_of_hasNull h
  rw [← isBarred_iff_obstructed, valueOf, get?, hkeys, hopen]
  exact ⟨hnone, by simp⟩

/-! ### Layer upon layer -/

/-- The settings after updates by dictionaries, one after the other. -/
def updateAll (updates : List (List (Key × Data))) (s : Settings) : Except MergeFault Settings :=
  updates.foldlM (fun s u => s.update (.dict u)) s

theorem updateAll_dict (sources : List SettingsSource) (updates : List (List (Key × Data)))
    (c : List (Key × Data)) :
    updateAll updates ⟨sources, .dict c⟩ = .ok ⟨sources, .dict (updates.foldl merge c)⟩ := by
  induction updates generalizing c with
  | nil => rfl
  | cons u updates ih => exact ih (merge c u)

/-- What a key has after updates comes from what it had and what each update says on it. -/
theorem valueOf_foldl_merge (key : String) {updates : List (List (Key × Data))}
    (h : ∀ u ∈ updates, (Data.dict u).keysDiffer = true) (c : List (Key × Data)) :
    valueOf (updates.foldl merge c) key =
      updates.foldl (fun below u => overlay below (valueOf u key) (isBarred (keys key) (.dict u)))
        (valueOf c key) := by
  induction updates generalizing c with
  | nil => rfl
  | cons u updates ih =>
    obtain ⟨hu, hupdates⟩ := List.forall_mem_cons.1 h
    rw [List.foldl_cons, List.foldl_cons, ih hupdates, valueOf_merge hu]

/-- An update that says nothing on a key can be left out. -/
theorem valueOf_foldl_without {u : List (Key × Data)} {key : String}
    (hnone : valueOf u key = none) (hopen : ¬Obstructed u key)
    {earlier later : List (List (Key × Data))}
    (h : ∀ v ∈ earlier ++ u :: later, (Data.dict v).keysDiffer = true) (c : List (Key × Data)) :
    valueOf ((earlier ++ u :: later).foldl merge c) key =
      valueOf ((earlier ++ later).foldl merge c) key := by
  have hsilent : isBarred (keys key) (.dict u) = false := by
    rwa [← Bool.not_eq_true, isBarred_iff_obstructed]
  have hothers : ∀ v ∈ earlier ++ later, (Data.dict v).keysDiffer = true := by
    intro v hv
    refine h v ?_
    rw [List.mem_append, List.mem_cons]
    rcases List.mem_append.1 hv with hv | hv
    · exact .inl hv
    · exact .inr (.inr hv)
  rw [valueOf_foldl_merge key h, valueOf_foldl_merge key hothers, List.foldl_append,
    List.foldl_append, List.foldl_cons, hnone, hsilent]
  rfl

/-- **What a key has after an update.** A plain value of the update is what the key has
then; a section is merged into the section it had, or takes the place of what was none.
If the update says nothing, the key has nothing where a part of it became a plain value,
and otherwise what it had. A null says nothing. An update of settings merges it over
them, and a sequence of updates one after the other, so what a key has in the end comes
from what it had by this law, update by update; one that says nothing on the key can be
left out without a change of what the key has. -/
theorem update_lookup_law {u : List (Key × Data)} (hu : (Data.dict u).keysDiffer = true)
    (c : List (Key × Data)) (key : String) :
    let below := valueOf c key
    let above := valueOf u key
    let after := valueOf (merge c u) key
    (∀ d, above = some d → d.entries? = none → after = some d) ∧
    (∀ changes, above = some (.dict changes) →
      (∀ base, below = some (.dict base) → after = some (.dict (merge base changes))) ∧
      ((∀ base, below ≠ some (.dict base)) → after = some (.dict changes))) ∧
    (above = none → Obstructed u key → after = none) ∧
    (above = none → ¬Obstructed u key → after = below) ∧
    (hasNull (keys key) (.dict u) = true → above = none ∧ ¬Obstructed u key) ∧
    (above = none → ¬Obstructed u key →
      ∀ (sources : List SettingsSource) (earlier later : List (List (Key × Data))),
        (∀ v ∈ earlier ++ u :: later, (Data.dict v).keysDiffer = true) →
        ∃ s t, updateAll (earlier ++ u :: later) ⟨sources, .dict c⟩ = .ok s ∧
          updateAll (earlier ++ later) ⟨sources, .dict c⟩ = .ok t ∧ s.get? key = t.get? key) ∧
    (∀ sources : List SettingsSource,
      update (.dict u) ⟨sources, .dict c⟩ = .ok ⟨sources, .dict (merge c u)⟩) ∧
    ∀ (sources : List SettingsSource) (updates : List (List (Key × Data))),
      (∀ v ∈ updates, (Data.dict v).keysDiffer = true) →
      ∃ s, updateAll updates ⟨sources, .dict c⟩ = .ok s ∧
        s = ⟨sources, .dict (updates.foldl merge c)⟩ ∧
        s.get? key = updates.foldl
          (fun under v => overlay under (valueOf v key) (isBarred (keys key) (.dict v))) below := by
  intro below above after
  have hafter : after = overlay below above _ := valueOf_merge hu c key
  have hbarred := isBarred_iff_obstructed u key
  refine ⟨fun d habove hplain => ?_,
    fun changes habove => ⟨fun base hbelow => ?_, fun hbelow => ?_⟩,
    fun habove hobstructed => ?_, fun habove hopen => ?_, not_obstructed_of_hasNull,
    fun habove hopen sources earlier later hupdates => ?_, fun sources => rfl,
    fun sources updates hupdates => ?_⟩
  · rw [hafter, habove, overlay, mergeValue_of_plain below hplain]
  · rw [hafter, habove, hbelow, overlay, mergeValue_section]
  · rw [hafter, habove, overlay, mergeValue_of_no_section hbelow]
  · rw [hafter, habove, overlay, if_pos (hbarred.2 hobstructed)]
  · rw [hafter, habove, overlay, if_neg fun h => hopen (hbarred.1 h)]
  · exact ⟨_, _, updateAll_dict sources _ c, updateAll_dict sources _ c,
      valueOf_foldl_without habove hopen hupdates c⟩
  · exact ⟨_, updateAll_dict sources updates c, rfl, valueOf_foldl_merge key hupdates c⟩

/-- Sections meet plain values both ways, and nulls stand in a section that is merged and in
one that is installed. -/
theorem update_lookup_law_clashes :
    let base : List (Key × Data) :=
      [(.text "depth", .int 5), (.text "names", .ofFields [("first", .int 1)])]
    let changes : List (Key × Data) := [(.text "depth", .null), (.text "names", .int 0)]
    let c : List (Key × Data) := [(.text "parser", .dict base), (.text "log", .text "plain")]
    let u : List (Key × Data) :=
      [(.text "parser", .dict changes), (.text "log", .ofFields [("level", .null)])]
    valueOf (merge c u) "parser.depth" = some (.int 5) ∧
    valueOf (merge c u) "parser.names" = some (.int 0) ∧
    valueOf (merge c u) "parser.names.first" = none ∧
    valueOf (merge c u) "parser" = some (.dict (merge base changes)) ∧
    valueOf (merge c u) "log" = some (.ofFields [("level", .null)]) ∧
    ∃ s t, updateAll [[(.text "parser", .int 0)], u, c] ⟨[], .dict c⟩ = .ok s ∧
      updateAll [[(.text "parser", .int 0)], c] ⟨[], .dict c⟩ = .ok t ∧
      s.get? "parser.depth" = t.get? "parser.depth" ∧ s.get? "parser.depth" = some (.int 5) := by
  intro base changes c u
  have hu : (Data.dict u).keysDiffer = true := by decide
  obtain ⟨-, -, -, hkept, hnull, hleft, -, hgiven⟩ := update_lookup_law hu c "parser.depth"
  obtain ⟨hplain, -⟩ := update_lookup_law hu c "parser.names"
  obtain ⟨-, -, hbelowPlain, -⟩ := update_lookup_law hu c "parser.names.first"
  obtain ⟨-, hmerged, -⟩ := update_lookup_law hu c "parser"
  obtain ⟨-, hinstalled, -⟩ := update_lookup_law hu c "log"
  obtain ⟨hnone, hopen⟩ := hnull rfl
  obtain ⟨s, t, hs, ht, hsame⟩ :=
    hleft hnone hopen [] [[(.text "parser", .int 0)]] [c] (by decide)
  obtain ⟨s', hs', -, hvalue⟩ := hgiven [] [[(.text "parser", .int 0)], u, c] (by decide)
  obtain rfl : s = s' := Except.ok.inj (hs.symm.trans hs')
  refine ⟨hkept hnone hopen, hplain _ rfl rfl, ?_, (hmerged changes rfl).1 base rfl,
    (hinstalled _ rfl).2 ?_, s, t, hs, ht, hsame, hvalue.trans rfl⟩
  · exact hbelowPlain rfl ⟨"parser.names", "first", rfl, .int 0, rfl, rfl⟩
  · rintro base' ⟨⟩

end Settings

end Turnstile
