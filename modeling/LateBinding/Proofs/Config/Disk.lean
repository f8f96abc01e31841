import LateBinding.Config.Disk
import LateBinding.Proofs.Config.Document
import LateBinding.Proofs.Text.Utf8

/-! # Configurations are kept in files

Making directories changes no file, and a file is only written where none of its directories is a
file and where it is no directory itself. There a configuration is saved, and loaded as it was
unless it has no room for a symbol.
-/

namespace LateBinding

namespace Disk

variable {d d' : Disk} {path q done names : List String} {name : String} {entry : DiskEntry}
  {bytes : List UInt8}

@[simp] theorem get?_nil (d : Disk) : d.get? [] = some .directory := rfl

theorem get?_put_self (h : path ≠ []) : (d.put path entry).get? path = some entry := by
  simp [get?, put, h]

theorem get?_put_of_ne (h : q ≠ path) : (d.put path entry).get? q = d.get? q := by
  have hkey : (q == path) = false := by simpa using h
  simp [get?, put, List.lookup_cons, hkey]

theorem read?_put_self (h : path ≠ []) : (d.put path (.file bytes)).read? path = some bytes := by
  simp [read?, get?_put_self h]

theorem read?_put_of_ne (h : q ≠ path) : (d.put path entry).read? q = d.read? q := by
  rw [read?, read?, get?_put_of_ne h]

theorem read?_put_directory (h : d.get? path = none) (q : List String) :
    (d.put path .directory).read? q = d.read? q := by
  by_cases hq : q = path
  · subst hq
    have hne : q ≠ [] := by rintro rfl; simp at h
    simp [read?, get?_put_self hne, h]
  · exact read?_put_of_ne hq

/-- The directories of a path can be made: none of them is a file. -/
def Passable (d : Disk) (names : List String) : Prop := ∀ p, p <+: names → d.read? p = none

instance : Decidable (d.Passable names) :=
  decidable_of_iff (∀ p ∈ names.inits, d.read? p = none) (by simp [Passable])

/-- One step makes a directory that is not there yet, and leaves everything else. -/
theorem makeDirectories_cons (h : d.makeDirectories done (name :: names) = some d') :
    ∃ made : Disk, made.makeDirectories (done ++ [name]) names = some d' ∧
      made.get? (done ++ [name]) = some .directory ∧ (∀ q, made.read? q = d.read? q) ∧
      ∀ q, q ≠ done ++ [name] → made.get? q = d.get? q := by
  unfold makeDirectories at h
  split at h
  · next hthere => exact ⟨d, h, hthere, fun _ => rfl, fun _ _ => rfl⟩
  · cases h
  · next hfree => exact ⟨_, h, get?_put_self (by simp), read?_put_directory hfree,
                    fun _ => get?_put_of_ne⟩

theorem read?_makeDirectories (h : d.makeDirectories done names = some d') (q : List String) :
    d'.read? q = d.read? q := by
  induction names generalizing d done with
  | nil => cases h; rfl
  | cons name names ih =>
    obtain ⟨made, hrest, -, hread, -⟩ := makeDirectories_cons h
    rw [ih hrest, hread]

theorem get?_makeDirectories (h : d.makeDirectories done names = some d')
    (hq : ¬ q <+: done ++ names) : d'.get? q = d.get? q := by
  induction names generalizing d done with
  | nil => cases h; rfl
  | cons name names ih =>
    obtain ⟨made, hrest, -, -, hkept⟩ := makeDirectories_cons h
    rw [List.append_cons] at hq
    rw [ih hrest hq, hkept]
    rintro rfl
    exact hq (List.prefix_append _ _)

theorem get?_makeDirectories_self (h : d.makeDirectories done names = some d')
    (hdone : d.get? done = some .directory) : d'.get? (done ++ names) = some .directory := by
  induction names generalizing d done with
  | nil =>
    cases h
    rwa [List.append_nil]
  | cons name names ih =>
    obtain ⟨made, hrest, hmade, -, -⟩ := makeDirectories_cons h
    rw [List.append_cons]
    exact ih hrest hmade

theorem isSome_makeDirectories_iff (hdone : d.get? done = some .directory) :
    (d.makeDirectories done names).isSome = true ↔ ∀ p, p <+: names →
    d.read? (done ++ p) = none := by
  induction names generalizing d done with
  | nil => simp [makeDirectories, read?, hdone]
  | cons name names ih =>
    have hsplit : (∀ p, p <+: name :: names → d.read? (done ++ p) = none) ↔
        ∀ p, p <+: names → d.read? (done ++ [name] ++ p) = none := by
      have hdirectory : d.read? done = none := by simp [read?, hdone]
      simp only [List.prefix_cons_iff]
      constructor
      · intro h p hp
        simpa using h (name :: p) (.inr ⟨p, rfl, hp⟩)
      · rintro h p (rfl | ⟨p, rfl, hp⟩)
        · simpa using hdirectory
        · simpa using h p hp
    rw [hsplit]
    unfold makeDirectories
    split
    · next hthere => exact ih hthere
    · next bytes hfile =>
      refine iff_of_false (by simp) fun h => ?_
      have hnone := h [] List.nil_prefix
      rw [List.append_nil, read?, hfile] at hnone
      cases hnone
    · next hfree =>
      -- the directory made here hides no file from the ones that remain
      rw [ih (get?_put_self (by simp))]
      simp only [read?_put_directory hfree]

/-- A file can be written there: its directories can be made, and it is no directory. -/
structure Writable (d : Disk) (path : List String) : Prop where
  passable : d.Passable path.dropLast
  vacant : d.get? path ≠ some .directory

instance : Decidable (d.Writable path) :=
  decidable_of_iff (d.Passable path.dropLast ∧ d.get? path ≠ some .directory)
    ⟨fun h => ⟨h.1, h.2⟩, fun h => ⟨h.1, h.2⟩⟩

theorem isSome_makeDirectories : (d.makeDirectories [] names).isSome = true ↔ d.Passable names := by
  simpa [Passable] using @isSome_makeDirectories_iff d [] names d.get?_nil

/-- The directories of a path are made without a change to what stands at the path itself, or to any
file. -/
theorem exists_makeDirectories (h : d.Passable path.dropLast) :
    ∃ d', d.makeDirectories [] path.dropLast = some d' ∧ d'.get? path.dropLast = some .directory ∧
      d'.get? path = d.get? path ∧ ∀ q, d'.read? q = d.read? q := by
  obtain ⟨d', hd⟩ := Option.isSome_iff_exists.mp (isSome_makeDirectories.mpr h)
  refine ⟨d', hd, get?_makeDirectories_self hd d.get?_nil, ?_, read?_makeDirectories hd⟩
  by_cases hpath : path = []
  · rw [hpath, get?_nil, get?_nil]
  · refine get?_makeDirectories hd fun hprefix => ?_
    have hshort : path.length ≤ path.length - 1 := by simpa using hprefix.length_le
    have hpos := List.length_pos_iff.mpr hpath
    omega

theorem write?_of_directory (h : d.get? path = some .directory) : d.write? path bytes = none := by
  simp [write?, h]

theorem write?_of_vacant (h : d.get? path ≠ some .directory)
    (hparent : d.get? path.dropLast = some .directory) :
    d.write? path bytes = some (d.put path (.file bytes)) := by
  unfold write?
  rw [hparent]
  cases hpath : d.get? path with
  | none => rfl
  | some entry =>
    cases entry with
    | directory => exact absurd hpath h
    | file _ => rfl

end Disk

namespace Config

open Disk

variable {d : Disk} {path : List String} {document : String} {c : Config}

theorem save_of_not_passable (h : ¬ d.Passable path.dropLast) :
    c.save d path = (.error .io, d) := by
  have hnone : d.makeDirectories [] path.dropLast = none := by
    rwa [← isSome_makeDirectories, Bool.not_eq_true, Option.isSome_eq_false_iff,
      Option.isNone_iff_eq_none] at h
  rw [save, hnone]

theorem save_of_not_written (h : d.Passable path.dropLast) (hw : Document.write? c = none) :
    ∃ d', c.save d path = (.error .notWritable, d') ∧ ∀ q, d'.read? q = d.read? q := by
  obtain ⟨d', hd, -, -, hread⟩ := exists_makeDirectories h
  exact ⟨d', by rw [save, hd, hw], hread⟩

theorem save_of_directory (h : d.Passable path.dropLast) (hpath : d.get? path = some .directory)
    (hw : Document.write? c = some document) : (c.save d path).1 = .error .io := by
  obtain ⟨d', hd, -, hkept, -⟩ := exists_makeDirectories h
  rw [save, hd, hw]
  simp only [write?_of_directory (hkept.trans hpath)]

theorem save_of_written (h : d.Writable path) (hw : Document.write? c = some document) :
    ∃ d', c.save d path = (.ok (), d') ∧ d'.read? path = some (Utf8.encode document.toList) := by
  obtain ⟨d', hd, hparent, hkept, -⟩ := exists_makeDirectories h.passable
  have hvacant : d'.get? path ≠ some .directory := hkept ▸ h.vacant
  have hne : path ≠ [] := by
    rintro rfl
    exact h.vacant d.get?_nil
  refine ⟨d'.put path (.file (Utf8.encode document.toList)), ?_, read?_put_self hne⟩
  rw [save, hd, hw]
  simp only [write?_of_vacant hvacant hparent]

theorem save_eq_ok_iff : (c.save d path).1 = .ok () ↔ d.Writable path ∧
    c.symbolCapacity < wordBound := by
  by_cases hpass : d.Passable path.dropLast
  · cases hw : Document.write? c with
    | none =>
      obtain ⟨d', hsave, -⟩ := save_of_not_written hpass hw
      rw [hsave]
      exact iff_of_false (by simp) fun h => (Document.write?_eq_none_iff.mp hw).not_gt h.2
    | some document =>
      by_cases hpath : d.get? path = some .directory
      · rw [save_of_directory hpass hpath hw]
        exact iff_of_false (by simp) fun h => h.1.vacant hpath
      · obtain ⟨d', hsave, -⟩ := save_of_written ⟨hpass, hpath⟩ hw
        rw [hsave]
        exact iff_of_true rfl ⟨⟨hpass, hpath⟩, Document.lt_of_write? hw⟩
  · rw [save_of_not_passable hpass]
    exact iff_of_false (by simp) fun h => hpass h.1.passable

theorem load_of_read? {bytes : List UInt8} (h : d.read? path = some bytes)
    (hb : bytes = Utf8.encode document.toList) : load d path = ofText document := by
  rw [load, h, hb, Option.map_some, Utf8.text?_encode]

theorem pos_of_load {found : Config} (h : load d path = .ok found) : 0 < found.symbolCapacity := by
  unfold load at h
  split at h
  · exact (ofText_eq_ok_iff.mp h).2
  · cases h

/-- What was saved is loaded, and refused there if it has no room for a symbol. -/
theorem load_save (h : d.Writable path) (hc : c.symbolCapacity < wordBound) :
    load (c.save d path).2 path = c.validate := by
  obtain ⟨document, hw⟩ : ∃ document, Document.write? c = some document :=
    ⟨_, Document.write?_of_lt hc⟩
  obtain ⟨d', hsave, hread⟩ := save_of_written h hw
  rw [hsave, load_of_read? hread rfl, ofText_of_write? hw]

/-- A configuration is saved just where a file can be written and if its capacity is below the bound
of words. With a positive one it is loaded as it was, with the capacity zero it is refused by
loading alone. From there on it is refused by saving, which then changes no file. Whatever text or
file is read, a configuration that is accepted has a positive capacity. -/
theorem saved_and_loaded (c : Config) (d : Disk) (path : List String) :
    ((c.save d path).1 = .ok () ↔ d.Writable path ∧ c.symbolCapacity < wordBound) ∧
      (d.Writable path → 0 < c.symbolCapacity → c.symbolCapacity < wordBound →
        load (c.save d path).2 path = .ok c) ∧
      (d.Writable path → c.symbolCapacity = 0 →
        load (c.save d path).2 path = .error .zeroCapacity) ∧
      (d.Passable path.dropLast → wordBound ≤ c.symbolCapacity →
        (c.save d path).1 = .error .notWritable) ∧
      (wordBound ≤ c.symbolCapacity → ∀ q, (c.save d path).2.read? q = d.read? q) ∧
      (∀ text found, ofText text = .ok found → 0 < found.symbolCapacity) ∧
      ∀ disk place found, load disk place = .ok found → 0 < found.symbolCapacity := by
  refine ⟨save_eq_ok_iff, fun h hpos hc => ?_, fun h hzero => ?_, fun h hc => ?_, fun hc q => ?_,
    fun text found h => (ofText_eq_ok_iff.mp h).2, fun disk place found h => pos_of_load h⟩
  · rw [load_save h hc, validate, if_neg hpos.ne']
  · have hc : c.symbolCapacity < wordBound := by rw [hzero]; decide
    rw [load_save h hc, validate, if_pos hzero]
  · obtain ⟨d', hsave, -⟩ := save_of_not_written h (Document.write?_eq_none_iff.mpr hc)
    rw [hsave]
  · by_cases hpass : d.Passable path.dropLast
    · obtain ⟨d', hsave, hread⟩ := save_of_not_written hpass (Document.write?_eq_none_iff.mpr hc)
      rw [hsave, hread]
    · rw [save_of_not_passable hpass]

def oneFile : Disk :=
  ⟨[(["etc", "late.toml"], .file (Utf8.encode "symbol_capacity = 7".toList)),
    (["etc"], .directory)]⟩

/-- The file is replaced under the capacities 64 and 0, and stays under one that is no word. -/
theorem saved_and_loaded_oneFile :
    (((⟨64, false, true⟩ : Config).save oneFile ["etc", "late.toml"]).1 = .ok () ∧
      load ((⟨64, false, true⟩ : Config).save oneFile ["etc", "late.toml"]).2 ["etc", "late.toml"] =
        .ok ⟨64, false, true⟩) ∧
      (((⟨0, true, true⟩ : Config).save oneFile ["etc", "late.toml"]).1 = .ok () ∧
        load ((⟨0, true, true⟩ : Config).save oneFile ["etc", "late.toml"]).2 ["etc", "late.toml"] =
          .error .zeroCapacity) ∧
      (((⟨wordBound, true, true⟩ : Config).save oneFile ["etc", "late.toml"]).1 =
        .error .notWritable ∧
        ((⟨wordBound, true, true⟩ : Config).save oneFile ["etc", "late.toml"]).2.read? ["etc",
          "late.toml"] = oneFile.read? ["etc", "late.toml"]) ∧
      (ofText "symbol_capacity = 7" = .ok ⟨7, true, true⟩ ∧
        0 < (⟨7, true, true⟩ : Config).symbolCapacity) ∧
      (load oneFile ["etc", "late.toml"] = .ok ⟨7, true, true⟩ ∧
        0 < (⟨7, true, true⟩ : Config).symbolCapacity) := by
  have hwritable : oneFile.Writable ["etc", "late.toml"] := by decide
  have htext : ofText "symbol_capacity = 7" = .ok ⟨7, true, true⟩ := by decide
  have hload : load oneFile ["etc", "late.toml"] = .ok ⟨7, true, true⟩ :=
    (load_of_read? rfl rfl).trans htext
  obtain ⟨hsaved, hloaded, -⟩ := saved_and_loaded ⟨64, false, true⟩ oneFile ["etc", "late.toml"]
  obtain ⟨hempty, -, hzero, -⟩ := saved_and_loaded ⟨0, true, true⟩ oneFile ["etc", "late.toml"]
  obtain ⟨-, -, -, hrefused, hkept, hread, hfound⟩ :=
    saved_and_loaded ⟨wordBound, true, true⟩ oneFile ["etc", "late.toml"]
  exact ⟨⟨hsaved.mpr ⟨hwritable, by decide⟩, hloaded hwritable (by decide) (by decide)⟩,
    ⟨hempty.mpr ⟨hwritable, by decide⟩, hzero hwritable rfl⟩,
    ⟨hrefused hwritable.passable le_rfl, hkept le_rfl _⟩, ⟨htext, hread _ _ htext⟩, hload,
    hfound _ _ _ hload⟩

end Config

end LateBinding
