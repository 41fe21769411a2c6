import MailTriage.Proofs.Except
import MailTriage.Proofs.Trim
import MailTriage.Settings.Config

namespace MailTriage

/-- A name under which a label is known as it is written. -/
structure Label.IsName (name : String) : Prop where
  trimmed : trimmed name = name
  ne_empty : name ≠ ""

namespace Settings

variable {k : Coercion} {α : Type} {key : String} {r : Except Problem α} {default : α} {d : Document}
  {name : String} {entries : List (String × Document)}

theorem eq_ok_of_problemOf (h : problemOf key r = []) : r = .ok (valueOr default r) := by
  cases r with
  | ok a => rfl
  | error p => cases h

theorem trimmed_of_trimText {s : String} (h : trimText d = .text s) : trimmed s = s := by
  cases d with
  | text t =>
    cases h
    exact trimmed_trimmed t
  | _ => cases h

theorem isName_of_readLabel (h : readLabel k d = .ok name) : Label.IsName name := by
  obtain ⟨s, hs, h⟩ := exists_of_bind h
  split_ifs at h with hempty
  cases h
  have htrimmed : trimmed name = name := trimmed_of_trimText ((k.text_eq_ok_iff _ _).1 hs)
  exact ⟨htrimmed, fun hnil => hempty (by rw [hnil]; rfl)⟩

/-- What holds of all that is read and of what stands for it where it is missing holds of a field. -/
theorem of_readField {read : Document → Except Problem α} {P : α → Prop} {a : α}
    (hread : ∀ d, read d = .ok a → P a) (hdefault : P default)
    (h : readField read default entries key = .ok a) : P a := by
  unfold readField at h
  split at h
  · exact hread _ h
  · cases h
    exact hdefault

theorem isName_of_readField {default : String} (hdefault : Label.IsName default)
    (h : readField (readLabel k) default entries key = .ok name) : Label.IsName name :=
  of_readField (fun _ => isName_of_readLabel) hdefault h

variable {least : Int} {most : Option Int} {n : Nat}

theorem bounds_of_readBounded (hleast : 0 ≤ least)
    (h : readBounded k least most d = .ok n) : least ≤ n ∧ ∀ m ∈ most, n ≤ m := by
  obtain ⟨m, -, h⟩ := exists_of_bind h
  split_ifs at h with hm hmost
  cases h
  rw [Int.toNat_of_nonneg (by omega)]
  refine ⟨by omega, fun bound hbound => ?_⟩
  simpa [Option.mem_def.1 hbound] using hmost

theorem bounds_of_readField {default : Nat} (hleast : 0 ≤ least)
    (hdefault : least ≤ default ∧ ∀ m ∈ most, default ≤ m)
    (h : readField (readBounded k least most) default entries key = .ok n) :
    least ≤ n ∧ ∀ m ∈ most, n ≤ m :=
  of_readField (P := fun n : Nat => least ≤ n ∧ ∀ m ∈ most, n ≤ m) (fun _ => bounds_of_readBounded hleast)
    hdefault h

end Settings

namespace Config

open Settings

variable {k : Coercion} {entries : List (String × Document)} {c : Config}

/-- Options within their bounds. -/
structure Sound (c : Config) : Prop where
  unprocessedLabel : Label.IsName c.unprocessedLabel
  processedLabel : Label.IsName c.processedLabel
  failedLabel : Label.IsName c.failedLabel
  frequency : 5 ≤ c.frequency
  checkHour : c.checkHour ≤ 23
  maxThreads : 1 ≤ c.maxThreads ∧ c.maxThreads ≤ 100

/-- The options that entries give are what is read of each field, if all entries are known. -/
theorem ofEntries_eq_ok_iff : ofEntries entries k = .ok c ↔
    readField (readLabel k) "unprocessed" entries "unprocessed_label" = .ok c.unprocessedLabel ∧
    readField (readLabel k) "processed" entries "processed_label" = .ok c.processedLabel ∧
    readField (readLabel k) "error" entries "processing_failed_label" = .ok c.failedLabel ∧
    readField (readBounded k 5 none) 5 entries "processing_frequency_in_minutes" = .ok c.frequency ∧
    readField (readBounded k 0 (some 23)) 0 entries "hour_of_day_to_run_sanity_checking" =
      .ok c.checkHour ∧
    readField k.text "" entries "go_link" = .ok c.link ∧
    readField (readBounded k 1 (some 100)) 50 entries "max_threads" = .ok c.maxThreads ∧
    readField k.text "" entries "auto_labeling_parent_label" = .ok c.listParent ∧
    readField k.bool true entries "parent_labeling" = .ok c.parentLabels ∧
    ∀ e ∈ entries, e.1 ∈ keys := by
  constructor
  · intro h
    dsimp only [ofEntries] at h
    split_ifs at h with hp
    simp only [List.isEmpty_iff, List.append_eq_nil_iff, List.map_eq_nil_iff, List.filter_eq_nil_iff,
      List.forall_mem_map] at hp
    cases h
    obtain ⟨⟨⟨⟨⟨⟨⟨⟨⟨h₁, h₂⟩, h₃⟩, h₄⟩, h₅⟩, h₆⟩, h₇⟩, h₈⟩, h₉⟩, hkeys⟩ := hp
    exact ⟨eq_ok_of_problemOf h₁, eq_ok_of_problemOf h₂, eq_ok_of_problemOf h₃,
      eq_ok_of_problemOf h₄, eq_ok_of_problemOf h₅, eq_ok_of_problemOf h₆, eq_ok_of_problemOf h₇,
      eq_ok_of_problemOf h₈, eq_ok_of_problemOf h₉, by simpa using hkeys⟩
  · rintro ⟨h₁, h₂, h₃, h₄, h₅, h₆, h₇, h₈, h₉, hkeys⟩
    have hknown : ((entries.map (·.1)).filter fun k => !keys.contains k) = [] := by
      simpa [List.filter_eq_nil_iff] using hkeys
    simp only [ofEntries, h₁, h₂, h₃, h₄, h₅, h₆, h₇, h₈, h₉, hknown, problemOf, valueOr]
    rfl

theorem sound_of_ofEntries (h : ofEntries entries k = .ok c) : c.Sound := by
  obtain ⟨h₁, h₂, h₃, h₄, h₅, -, h₇, -⟩ := ofEntries_eq_ok_iff.1 h
  have hname (s : String) (ht : trimmed s = s) (hs : s ≠ "") : Label.IsName s := ⟨ht, hs⟩
  have hfrequency := bounds_of_readField (by decide) (by decide) h₄
  have hhour := bounds_of_readField (by decide) (by decide) h₅
  have hthreads := bounds_of_readField (by decide) (by decide) h₇
  exact {
    unprocessedLabel := isName_of_readField (hname _ (by decide) (by decide)) h₁
    processedLabel := isName_of_readField (hname _ (by decide) (by decide)) h₂
    failedLabel := isName_of_readField (hname _ (by decide) (by decide)) h₃
    frequency := by
      have := hfrequency.1
      omega
    checkHour := by
      have := hhour.2 23 rfl
      omega
    maxThreads := by
      have := hthreads.1
      have := hthreads.2 100 rfl
      omega }

end Config

end MailTriage
