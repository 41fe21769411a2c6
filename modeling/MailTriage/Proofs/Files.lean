import MailTriage.Files
import Mathlib.Data.List.Infix

namespace MailTriage.Files

variable {f f₁ f₂ : Files} {p q : Path} {c : Content} {key k : List String}

def withFolder (key : List String) (f : Files) : Files :=
  { f with folders := f.folders ++ [key] }

def withFile (key : List String) (c : Content) (f : Files) : Files :=
  { f with entries := setEntry key c f.entries }

@[simp] theorem locate_withFolder : (f.withFolder key).locate p = f.locate p := rfl

@[simp] theorem locate_withFile : (f.withFile key c).locate p = f.locate p := rfl

@[simp] theorem entry?_withFolder : entry? k (f.withFolder key) = f.entry? k := rfl

theorem entry?_withFile : entry? k (f.withFile key c) = if k = key then some c else f.entry? k := by
  simp only [ entry?, withFile]
  induction f.entries with
  | nil =>
    by_cases hk : key = k
    · simp [setEntry, hk]
    · simp [setEntry, hk, Ne.symm hk]
  | cons e es ih =>
    by_cases he : e.1 = key
    · by_cases hk : key = k
      · simp [setEntry, he, hk]
      · simp [setEntry, he, hk, Ne.symm hk]
    · by_cases hk : e.1 = k
      · have hne : k ≠ key := hk ▸ he
        simp [setEntry, hk, hne]
      · simpa [setEntry, he, hk] using ih

theorem setEntry_setEntry (entries : List (List String × Content)) :
    setEntry key c (setEntry key c entries) = setEntry key c entries := by
  induction entries with
  | nil => simp [setEntry]
  | cons e es ih =>
    by_cases he : e.1 = key
    · simp [setEntry, he]
    · simp [setEntry, he, ih]

theorem makeFolder_eq_ok_iff : f.makeFolder p = .ok f₁ ↔
    (∀ k ∈ f.locate p :: beginnings (f.locate p), f.entry? k = none) ∧
      f₁ = f.withFolder (f.locate p) := by
  simp only [makeFolder, List.forall_mem_cons]
  split_ifs with hfile hway
  · simp [Option.isSome_iff_ne_none.1 hfile]
  · obtain ⟨k, hk, hsome⟩ := List.any_eq_true.1 hway
    simp only [false_iff, not_and]
    exact fun h => absurd (h.2 k hk) (Option.isSome_iff_ne_none.1 hsome)
  · simp only [Bool.not_eq_true, Option.isSome_eq_false_iff, Option.isNone_iff_eq_none,
      List.any_eq_false] at hfile hway
    rw [Except.ok.injEq, eq_comm]
    exact (and_iff_right ⟨hfile, hway⟩).symm

theorem withFile_of_write (h : f.write p c = .ok f₁) :
    ((f.entry? (f.locate p)).isSome ∨ ¬ f.hasFolder (f.locate p)) ∧ f₁ = f.withFile (f.locate p) c := by
  simp only [write] at h
  split_ifs at h with hplace
  cases h
  simp only [Bool.or_eq_true, Bool.and_eq_true, Bool.not_eq_true'] at hplace
  exact ⟨hplace.imp_right fun h => by simp [h.1], rfl⟩

theorem write_of_isSome (h : (f.entry? (f.locate p)).isSome) :
    f.write p c = .ok (f.withFile (f.locate p) c) := by
  simp [write, h, withFile]

theorem read_of_write (h : f.write p c = .ok f₁) : f₁.isThere p ∧ f₁.read p = .ok c := by
  obtain ⟨-, rfl⟩ := withFile_of_write h
  simp [isThere, isFile, read, entry?_withFile]

theorem hasFolder_withFolder (h : k <+: key) : (f.withFolder key).hasFolder k := by
  simp [hasFolder, withFolder, List.isPrefixOf_iff_prefix.2 h]

theorem prefix_of_mem_beginnings (h : k ∈ beginnings key) : k <+: key := by
  obtain ⟨n, -, rfl⟩ := List.mem_map.1 h
  exact List.take_prefix ..

/-- Making a folder and writing a file a second time succeeds, and leaves all files as they are. -/
theorem exists_write_again (hfolder : f.makeFolder q = .ok f₁) (hwrite : f₁.write p c = .ok f₂) :
    ∃ f₃ f₄, f₂.makeFolder q = .ok f₃ ∧ f₃.write p c = .ok f₄ ∧ f₄.entries = f₂.entries := by
  obtain ⟨hfree, rfl⟩ := makeFolder_eq_ok_iff.1 hfolder
  obtain ⟨hplace, rfl⟩ := withFile_of_write hwrite
  simp only [locate_withFolder, entry?_withFolder] at hplace
  -- The file is in the way of no folder that was made: it was there before them or is none of them.
  have hne : ∀ k ∈ f.locate q :: beginnings (f.locate q), k ≠ f.locate p := by
    rintro k hk rfl
    have hprefix : f.locate p <+: f.locate q := by
      rcases List.mem_cons.1 hk with heq | hk
      · exact heq ▸ List.prefix_rfl
      · exact prefix_of_mem_beginnings hk
    rcases hplace with hsome | hno
    · simp [hfree _ hk] at hsome
    · exact hno (hasFolder_withFolder hprefix)
  have hagain : ∀ k ∈ f.locate q :: beginnings (f.locate q),
      entry? k ((f.withFolder (f.locate q)).withFile (f.locate p) c) = none := fun k hk => by
    rw [entry?_withFile, if_neg (hne k hk), entry?_withFolder, hfree k hk]
  refine ⟨_, _, makeFolder_eq_ok_iff.2 ⟨hagain, rfl⟩, write_of_isSome ?_, ?_⟩
  · simp [entry?_withFile]
  · exact setEntry_setEntry _

end MailTriage.Files
