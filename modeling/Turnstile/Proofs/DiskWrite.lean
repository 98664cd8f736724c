/-
# What is written can be read

A file is written where its path leads to, and only where no directory stands. The
way there goes through directories alone, so putting a file at its end changes no
step of it (`Disk.locate_put`): the same path leads to the same place afterwards, and
reading there gives back what was written (`World.Writable.write`).

Key definitions: `World.Writable`.
Key theorems: `Disk.locate_put`, `Disk.lookup_of_writeBytes`,
`World.Writable.write`.
-/
import Turnstile.Disk

namespace Turnstile

namespace Disk

variable {d : Disk} {place target : Place} {names : List String} {bytes : ByteArray}

theorem at?_put_self (entry : Entry) (htarget : target ≠ []) :
    (d.put target entry).at? target = some entry := by
  simp [at?, put, htarget]

theorem at?_put_of_ne (entry : Entry) (h : place ≠ target) :
    (d.put target entry).at? place = d.at? place := by
  have hfind : ∀ entries : List (Place × Entry),
      (entries.filter fun p => p.1 != target).find? (fun p => p.1 == place) =
        entries.find? fun p => p.1 == place := by
    intro entries
    rw [List.find?_filter]
    congr
    funext p
    by_cases hp : p.1 = place
    · simp [hp, h]
    · simp [hp]
  rw [at?, at?, put, List.find?_cons_of_neg (by simpa using h.symm), hfind]

/-- A directory is none of the places where a file can be put. -/
theorem at?_put_directory (hfile : d.at? target ≠ some .directory)
    (hdir : d.at? place = some .directory) :
    (d.put target (.file bytes)).at? place = some .directory := by
  have hne : place ≠ target := fun h => hfile (h ▸ hdir)
  rw [at?_put_of_ne _ hne, hdir]

/-- **A file put where no directory stood leaves all ways as they were.** -/
theorem locate_put (hfile : d.at? target ≠ some .directory) {found : Place}
    (h : d.locate place names = .ok found) :
    (d.put target (.file bytes)).locate place names = .ok found := by
  fun_induction locate d place names with
  | case1 => rw [locate, h]
  | case2 => cases h
  | case3 => cases h
  | case4 place rest hdir ih =>
    simp only [locate, at?_put_directory hfile hdir, if_true]
    exact ih h
  | case5 place rest hdir hdot ih =>
    simp only [locate, at?_put_directory hfile hdir, if_neg hdot, if_true]
    exact ih h
  | case6 => cases h
  | case7 place name rest hdir hdot hdots hlong ih =>
    simp only [locate, at?_put_directory hfile hdir, if_neg hdot, if_neg hdots, if_neg hlong]
    exact ih h

/-- A file is written where no directory stands. -/
theorem writeBytes_ok_iff {d' : Disk} : d.writeBytes place names bytes = .ok d' ↔
    ∃ target, d.locate place names = .ok target ∧ d.at? target ≠ some .directory ∧
      d' = d.put target (.file bytes) := by
  rw [writeBytes]
  cases hlocate : d.locate place names with
  | error e => simp [bind, Except.bind]
  | ok target =>
    simp only [bind, Except.bind, pure, Except.pure]
    cases hat : d.at? target with
    | none => simp [hat, eq_comm]
    | some entry => cases entry <;> simp [hat, eq_comm]

theorem lookup_of_writeBytes {d' : Disk} (h : d.writeBytes place names bytes = .ok d') :
    d'.lookup place names = .ok (.file bytes) := by
  obtain ⟨target, hlocate, hfile, rfl⟩ := writeBytes_ok_iff.1 h
  -- the top directory is always there, so the place is below it
  have htarget : target ≠ [] := by
    rintro rfl
    exact hfile rfl
  rw [lookup, locate_put hfile hlocate]
  simp only [bind, Except.bind, at?_put_self _ htarget]
  rfl

end Disk

namespace World

variable {w w' : World} {path s : String}

theorem write_ok_iff : w.write path s = .ok w' ↔
    ∃ r disk, Route.ofText path = .ok r ∧ r.slashed = false ∧
      w.disk.writeBytes (w.start r) r.names s.toUTF8 = .ok disk ∧ w' = { w with disk } := by
  rw [write]
  cases hroute : Route.ofText path with
  | error e => simp [bind, Except.bind]
  | ok r =>
    simp only [bind, Except.bind, pure, Except.pure]
    cases hslashed : r.slashed with
    | true =>
      -- all that such a path says is why no file can be written there
      cases w.disk.locate (w.start r) r.names.dropLast with
      | error e => simp [hslashed]
      | ok place =>
        cases hat : w.disk.at? place with
        | none => simp [hslashed, hat]
        | some entry => cases entry <;> simp [hslashed, hat]
    | false =>
      generalize s.toUTF8 = bytes
      cases hwrite : w.disk.writeBytes (w.start r) r.names bytes with
      | error e => simp [hwrite]
      | ok disk =>
        constructor
        · intro h
          exact ⟨r, disk, rfl, hslashed, hwrite, (Except.ok.inj h).symm⟩
        · rintro ⟨r', disk', hr, -, hdisk, rfl⟩
          obtain rfl := Except.ok.inj hr
          obtain rfl := Except.ok.inj (hwrite.symm.trans hdisk)
          rfl

theorem readBytes_of_write (h : w.write path s = .ok w') : w'.readBytes path = .ok s.toUTF8 := by
  obtain ⟨r, disk, hroute, hslashed, hwrite, rfl⟩ := write_ok_iff.1 h
  -- the way starts where it did, since only the disk has changed
  have hlookup : disk.lookup (start { w with disk } r) r.names = .ok (.file s.toUTF8) :=
    Disk.lookup_of_writeBytes hwrite
  rw [readBytes, lookup, hroute]
  simp only [bind, Except.bind, hlookup, hslashed]
  rfl

/-- Whether a file can be written at a path. -/
def Writable (w : World) (path : String) : Prop := ∃ s w', w.write path s = .ok w'

/-- **Where one text can be written, any other can**, and it is read back. -/
theorem Writable.write (h : w.Writable path) (s : String) :
    ∃ w', w.write path s = .ok w' ∧ w'.readBytes path = .ok s.toUTF8 := by
  obtain ⟨t, w', h⟩ := h
  obtain ⟨r, disk, hroute, hslashed, hwrite, rfl⟩ := write_ok_iff.1 h
  obtain ⟨target, hlocate, hfile, rfl⟩ := Disk.writeBytes_ok_iff.1 hwrite
  have hbytes : w.disk.writeBytes (w.start r) r.names s.toUTF8 =
      .ok (w.disk.put target (.file s.toUTF8)) :=
    Disk.writeBytes_ok_iff.2 ⟨target, hlocate, hfile, rfl⟩
  have hother : w.write path s = .ok { w with disk := w.disk.put target (.file s.toUTF8) } :=
    write_ok_iff.2 ⟨r, _, hroute, hslashed, hbytes, rfl⟩
  exact ⟨_, hother, readBytes_of_write hother⟩

end World

end Turnstile
