import Mathlib.Data.List.Nodup
import LayerMarkup.Command.Directory

/-!
# Files in a directory

Writing gives a file its text and leaves the other files alone (`write_of_place`), and what has
changed since is that file or none (`eq_of_mem_changesSince`).
-/

namespace LayerMarkup.Command

/-- The file that a path leads to has been given a text, and no other file has changed. -/
inductive Directory.Wrote (directory : Directory) (path text : String) (after : Directory) : Prop
  | inside {name : String} (hplace : directory.placeOf path = .ok (.inside name))
      (hfile : after.find? name = some text.toUTF8.toList)
      (hothers : ∀ other, other ≠ name → after.find? other = directory.find? other) :
      Wrote directory path text after
  /-- A file further out is out of sight. -/
  | outside (hplace : directory.placeOf path = .ok .outside) (hsame : after = directory) :
      Wrote directory path text after

namespace Directory

variable {directory : Directory}

theorem find?_put_self (name : String) (bytes : List UInt8) (d : Directory) :
    (d.put name bytes).find? name = some bytes := by
  induction d with
  | nil => exact if_pos rfl
  | cons file rest ih =>
    obtain ⟨n, old⟩ := file
    rw [put]
    split
    · exact if_pos rfl
    · rename_i hname
      rw [find?, if_neg hname, ih]

theorem find?_put_of_ne {name other : String} (hother : other ≠ name) (bytes : List UInt8)
    (d : Directory) : (d.put name bytes).find? other = d.find? other := by
  induction d with
  | nil => exact if_neg hother.symm
  | cons file rest ih =>
    obtain ⟨n, old⟩ := file
    rw [put]
    split
    · rename_i hname
      subst hname
      rw [find?, find?, if_neg hother.symm, if_neg hother.symm]
    · rw [find?, find?, ih]

/-- A text is written if its path leads to a place for a file. -/
theorem write_of_place {path : String} {place : Place} (hplace : directory.placeOf path = .ok place)
    (text : String) :
    ∃ after, directory.write path text = .ok after ∧ directory.Wrote path text after := by
  cases place with
  | outside =>
    refine ⟨directory, ?_, .outside hplace rfl⟩
    rw [write, hplace]
    rfl
  | inside name =>
    refine ⟨directory.put name text.toUTF8.toList, ?_, ?_⟩
    · rw [write, hplace]
      rfl
    · exact .inside hplace (find?_put_self _ _ _) fun other hother => find?_put_of_ne hother _ _

theorem write_of_no_place {path : String} {error : FileError}
    (hplace : directory.placeOf path = .error error) (text : String) :
    directory.write path text = .error error := by
  rw [write, hplace]
  rfl

/-! ### Changes -/

/-- The files have different names. -/
def HasNames (d : Directory) : Prop := (d.map Prod.fst).Nodup

theorem mem_iff_find? {d : Directory} (hnames : d.HasNames) {name : String} {bytes : List UInt8} :
    (name, bytes) ∈ d ↔ d.find? name = some bytes := by
  induction d with
  | nil => simp only [List.not_mem_nil, find?, reduceCtorEq]
  | cons file rest ih =>
    obtain ⟨n, old⟩ := file
    obtain ⟨hnew, hrest⟩ := List.nodup_cons.mp hnames
    rw [List.mem_cons, find?, ih hrest, Prod.mk.injEq]
    split
    · rename_i hname
      subst hname
      have hnone : find? n rest ≠ some bytes := fun hfound =>
        hnew (List.mem_map.mpr ⟨(n, bytes), (ih hrest).mpr hfound, rfl⟩)
      simp only [true_and, hnone, or_false, Option.some.injEq, eq_comm]
    · rename_i hname
      simp only [Ne.symm hname, false_and, false_or]

theorem HasNames.put {d : Directory} (hnames : d.HasNames) (name : String) (bytes : List UInt8) :
    (d.put name bytes).HasNames := by
  induction d with
  | nil => exact List.nodup_singleton name
  | cons file rest ih =>
    obtain ⟨n, old⟩ := file
    obtain ⟨hnew, hrest⟩ := List.nodup_cons.mp hnames
    rw [Directory.put]
    split
    · rename_i hname
      subst hname
      exact hnames
    · rename_i hname
      refine List.nodup_cons.mpr ⟨fun hmem => hnew ?_, ih hrest⟩
      obtain ⟨⟨other, found⟩, hfound, rfl⟩ := List.mem_map.mp hmem
      rw [mem_iff_find? (ih hrest), find?_put_of_ne hname, ← mem_iff_find? hrest] at hfound
      exact List.mem_map.mpr ⟨(other, found), hfound, rfl⟩

theorem changesSince_self {d : Directory} (hnames : d.HasNames) : d.changesSince d = [] := by
  refine List.filter_eq_nil_iff.mpr fun file hfile => ?_
  rw [(mem_iff_find? hnames).mp hfile, bne_self_eq_false]
  exact Bool.false_ne_true

/-- Only the file that a path leads to is changed by writing to the path. -/
theorem eq_of_mem_changesSince (hnames : directory.HasNames) {path text : String} {after : Directory}
    (hwrite : directory.write path text = .ok after) {file : String × List UInt8}
    (hfile : file ∈ after.changesSince directory) :
    directory.placeOf path = .ok (.inside file.1) ∧ file.2 = text.toUTF8.toList := by
  cases hplace : directory.placeOf path with
  | error e =>
    rw [write_of_no_place hplace] at hwrite
    cases hwrite
  | ok place =>
    rw [write, hplace] at hwrite
    obtain ⟨name, bytes⟩ := file
    cases place with
    | outside =>
      cases hwrite
      rw [changesSince_self hnames] at hfile
      exact absurd hfile List.not_mem_nil
    | inside target =>
      cases hwrite
      obtain ⟨hmem, hchanged⟩ := List.mem_filter.mp hfile
      rw [mem_iff_find? (hnames.put _ _)] at hmem
      by_cases hname : name = target
      · subst hname
        rw [find?_put_self] at hmem
        exact ⟨rfl, (Option.some.inj hmem).symm⟩
      · rw [find?_put_of_ne hname] at hmem
        simp only [hmem, bne_self_eq_false, Bool.false_eq_true] at hchanged

end Directory

end LayerMarkup.Command
