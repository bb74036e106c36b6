/-
Reading and writing in the tree of files. A path that can be followed goes through
directories only (`Reaches`). So a file put at its end takes no directory away and
makes none, and other paths lead where they led before: what a successful write
changes is the content at one location (`put_of_write`).
-/
import Placeholders.Host.World

namespace Placeholders.FileTree

variable {tree before after : FileTree} {working l k : Location} {path : Text} {bytes : List UInt8}

theorem isDirectory_iff : tree.isDirectory l = true ↔
    l = [] ∨ (∃ d ∈ tree.directories, l <+: d) ∨ ∃ f ∈ tree.files, f.1 ≠ l ∧ l <+: f.1 := by
  simp only [isDirectory, Bool.or_eq_true, List.isEmpty_iff, List.any_eq_true, List.isPrefixOf_iff_prefix,
    Bool.and_eq_true, bne_iff_ne, or_assoc]

/-- What a directory is in is a directory. -/
theorem isDirectory_above (hk : k <+: l) (h : tree.isDirectory l = true) : tree.isDirectory k = true := by
  rw [isDirectory_iff] at h ⊢
  rcases h with rfl | ⟨d, hd, hl⟩ | ⟨f, hf, hne, hl⟩
  · exact .inl (List.prefix_nil.mp hk)
  · exact .inr (.inl ⟨d, hd, hk.trans hl⟩)
  · refine .inr (.inr ⟨f, hf, fun heq => hne ?_, hk.trans hl⟩)
    have hfl : f.1 <+: l := heq ▸ hk
    exact hfl.eq_of_length_le hl.length_le

/-- Are all places on the way to the location directories? -/
def Reaches (tree : FileTree) (l : Location) : Prop := ∀ k, k <+: l → k ≠ l → tree.isDirectory k = true

theorem reaches_of_isDirectory (h : tree.isDirectory l = true) : tree.Reaches l :=
  fun _ hk _ => isDirectory_above hk h

theorem reaches_concat (h : tree.isDirectory l = true) (part : Text) : tree.Reaches (l ++ [part]) := by
  intro k hk hne
  rcases List.prefix_concat_iff.mp hk with rfl | hk
  · exact absurd rfl hne
  · exact isDirectory_above hk h

/-- One part of a path leads on from a directory only. -/
theorem exists_step {part : Text} {parts : List Text} (h : tree.follow l (part :: parts) = .ok k) :
    ∃ next, tree.Reaches next ∧ tree.follow next parts = .ok k := by
  rw [follow] at h
  cases hdir : tree.isDirectory l with
  | false => simp [hdir] at h
  | true =>
    simp only [hdir, Bool.not_true, Bool.false_eq_true, if_false] at h
    split at h
    · exact ⟨l, reaches_of_isDirectory hdir, h⟩
    · split at h
      · exact ⟨l.dropLast, reaches_of_isDirectory (isDirectory_above (List.dropLast_prefix l) hdir), h⟩
      · split at h
        · cases h
        · exact ⟨l ++ [part], reaches_concat hdir part, h⟩

theorem Reaches.follow (hl : tree.Reaches l) {parts : List Text} (h : tree.follow l parts = .ok k) :
    tree.Reaches k := by
  induction parts generalizing l with
  | nil =>
    cases h
    exact hl
  | cons part parts ih =>
    obtain ⟨next, hnext, h⟩ := exists_step h
    exact ih hnext h

theorem locate_eq_ok_iff : tree.locate working path = .ok l ↔
    checkPath path = .ok () ∧ tree.follow (startOf working path) (path.splitOn '/') = .ok l := by
  unfold locate
  cases checkPath path with
  | error e => simp [bind, Except.bind]
  | ok _ => simp [bind, Except.bind]

/-- The place where a path starts is checked with its first part, and each path has one. -/
theorem reaches_of_locate (h : tree.locate working path = .ok l) : tree.Reaches l := by
  obtain ⟨part, parts, hparts⟩ := List.exists_cons_of_ne_nil (List.splitOn_ne_nil '/' path)
  obtain ⟨-, h⟩ := locate_eq_ok_iff.mp h
  rw [hparts] at h
  obtain ⟨next, hnext, h⟩ := exists_step h
  exact hnext.follow h

theorem isDirectory_set (h : tree.Reaches l) (bytes : List UInt8) (k : Location) :
    (tree.set l bytes).isDirectory k = tree.isDirectory k := by
  rw [Bool.eq_iff_iff]
  constructor
  · intro hk
    rcases isDirectory_iff.mp hk with hk | hk | ⟨f, hf, hne, hk⟩
    · exact isDirectory_iff.mpr (.inl hk)
    · exact isDirectory_iff.mpr (.inr (.inl hk))
    · rcases List.mem_cons.mp hf with rfl | hf
      · exact h k hk (Ne.symm hne)
      · exact isDirectory_iff.mpr (.inr (.inr ⟨f, (List.mem_filter.mp hf).1, hne, hk⟩))
  · intro hk
    rcases isDirectory_iff.mp hk with hk | hk | ⟨f, hf, hne, hk⟩
    · exact isDirectory_iff.mpr (.inl hk)
    · exact isDirectory_iff.mpr (.inr (.inl hk))
    · -- The file may be the one that was replaced; the new one is in the same directories.
      by_cases hfl : f.1 = l
      · exact isDirectory_iff.mpr (.inr (.inr ⟨(l, bytes), List.mem_cons_self, hfl ▸ hne, hfl ▸ hk⟩))
      · have hmem : f ∈ (tree.set l bytes).files :=
          List.mem_cons_of_mem _ (List.mem_filter.mpr ⟨hf, bne_iff_ne.mpr hfl⟩)
        exact isDirectory_iff.mpr (.inr (.inr ⟨f, hmem, hne, hk⟩))

/-- Paths lead to the same places when the directories are the same. -/
theorem follow_eq_ok_iff (hdir : ∀ k, after.isDirectory k = before.isDirectory k) {parts : List Text} :
    after.follow l parts = .ok k ↔ before.follow l parts = .ok k := by
  induction parts generalizing l with
  | nil => rfl
  | cons part parts ih =>
    rw [follow, follow, hdir]
    cases before.isDirectory l with
    | false => simp
    | true =>
      simp only [Bool.not_true, Bool.false_eq_true, if_false]
      split
      · exact ih
      · split
        · exact ih
        · split
          · rfl
          · exact ih

theorem locate_eq_ok_iff_of_directories (hdir : ∀ k, after.isDirectory k = before.isDirectory k) :
    after.locate working path = .ok l ↔ before.locate working path = .ok l := by
  rw [locate_eq_ok_iff, locate_eq_ok_iff, follow_eq_ok_iff hdir]

theorem write_eq_ok (h : before.write working path bytes = .ok after) :
    ∃ l, before.locate working path = .ok l ∧ before.isDirectory l = false ∧ after = before.set l bytes := by
  unfold write at h
  simp only [bind, Except.bind, throw, throwThe, MonadExceptOf.throw] at h
  split at h
  · -- A path with a slash at its end is refused, by its directory or as one.
    split at h
    · cases h
    · split at h <;> cases h
  · split at h
    · cases h
    · next l hl =>
      split at h
      · cases h
      · next hdir =>
        cases h
        exact ⟨l, hl, Bool.eq_false_iff.mpr hdir, rfl⟩

/-- One file has been put at the end of a path: it can be read there, and all other
files and the directories are as they were. -/
structure Put (before after : FileTree) (working : Location) (path : Text) (bytes : List UInt8) : Prop where
  reads : after.read working path = .ok bytes
  others : ∀ l, before.locate working path ≠ .ok l → after.file? l = before.file? l
  directories : ∀ l, after.isDirectory l = before.isDirectory l

theorem read_of_locate (hl : tree.locate working path = .ok l) (hdir : tree.isDirectory l = false)
    (hfile : tree.file? l = some bytes) : tree.read working path = .ok bytes := by
  unfold read
  rw [hl]
  simp [bind, Except.bind, hdir, hfile]
  rfl

/-- A successful write puts one file. -/
theorem put_of_write (h : before.write working path bytes = .ok after) : before.Put after working path bytes := by
  obtain ⟨l, hl, hfile, rfl⟩ := write_eq_ok h
  have hdir := isDirectory_set (reaches_of_locate hl) bytes
  refine ⟨?_, fun k hk => ?_, hdir⟩
  · exact read_of_locate ((locate_eq_ok_iff_of_directories hdir).mpr hl) ((hdir l).trans hfile)
      (file?_set_self before l bytes)
  · exact file?_set_other before bytes fun heq => hk (heq ▸ hl)

end Placeholders.FileTree
