import Mathlib.Data.List.Nodup
import MailTriage.Rule.Table

namespace MailTriage.Rule

/-- Each column stands in a header once, white space around its name left aside. -/
def HasEachOnce (header : List String) : Prop :=
  ∀ c : Column, (header.map trimmed).count c.name = 1

def unknownNames (header : List String) : List String :=
  (header.map trimmed).filter fun s => (Column.named? s).isNone

/-- A row of a given width: cells beyond it are cut off, and those missing at the end are empty. -/
def fitted (width : Nat) (row : List String) : List String :=
  row.take width ++ List.replicate (width - row.length) ""

/-- The cells of a row in another order, given by their places. -/
def arranged (places : List Nat) (row : List String) : List String :=
  places.map fun i => row.getD i ""

/-- A table with its columns in another order. All rows are as wide as the header then. -/
def arrangedTable (places : List Nat) : List (List String) → List (List String)
  | [] => []
  | header :: rows =>
    arranged places header :: rows.map fun row => arranged places (fitted header.length row)

variable {l l' : Layout} {c : Column} {header header' row row' : List String} {rows : List (List String)}
  {places : List Nat} {parents : Bool} {i : Nat} {name : String}

theorem Column.mem_every (c : Column) : c ∈ every := by
  cases c <;> decide

theorem Column.named?_name (c : Column) : named? c.name = some c := by
  cases c <;> rfl

theorem Column.name_of_named? {s : String} (h : named? s = some c) : c.name = s := by
  simpa using List.find?_some h

theorem Column.name_injective : Function.Injective Column.name := by
  intro c d h
  have hnamed := congrArg named? h
  rwa [named?_name, named?_name, Option.some.injEq] at hnamed

instance (header : List String) : Decidable (HasEachOnce header) :=
  decidable_of_iff (∀ c ∈ Column.every, (header.map trimmed).count c.name = 1)
    (forall_congr' fun c => ⟨fun h => h (Column.mem_every c), fun h _ => h⟩)

theorem exists_layoutFrom (h : ∀ s ∈ header, ∃ c : Column, trimmed s = c.name) (index : Nat) (l₀ : Layout) :
    ∃ l, layoutFrom index l₀ header = .ok l ∧
      ∀ c, (∃ i, l c = some (index + i) ∧ (header.map trimmed)[i]? = some c.name) ∨
        c.name ∉ header.map trimmed ∧ l c = l₀ c := by
  induction header generalizing index l₀ with
  | nil => exact ⟨l₀, rfl, fun c => .inr ⟨List.not_mem_nil, rfl⟩⟩
  | cons s header ih =>
    obtain ⟨⟨d, hd⟩, hrest⟩ := List.forall_mem_cons.1 h
    obtain ⟨l, hl, hplaced⟩ := ih hrest (index + 1) fun e => if e = d then some index else l₀ e
    refine ⟨l, by rw [layoutFrom, hd, Column.named?_name]; exact hl, fun c => ?_⟩
    obtain ⟨i, hi, hname⟩ | ⟨hnot, hlc⟩ := hplaced c
    · exact .inl ⟨i + 1, by rw [hi, Nat.add_right_comm, Nat.add_assoc], by simpa using hname⟩
    · by_cases hc : c = d
      · exact .inl ⟨0, by rw [hlc, if_pos hc]; rfl, by simp [hd, hc]⟩
      · have hne : c.name ≠ d.name := fun heq => hc (Column.name_injective heq)
        exact .inr ⟨by simpa [hd, hne] using hnot, by simp [hlc, hc]⟩

theorem layoutFrom_of_unknown (h : (unknownNames header).head? = some name) (index : Nat) (l₀ : Layout) :
    layoutFrom index l₀ header = .error (.unknownColumn name) := by
  induction header generalizing index l₀ with
  | nil => cases h
  | cons s header ih =>
    rw [unknownNames, List.map_cons, List.filter_cons] at h
    rw [layoutFrom]
    cases hs : Column.named? (trimmed s) with
    | none =>
      rw [hs] at h
      cases h
      rfl
    | some c =>
      rw [hs] at h
      exact ih h _ _

/-- A table is refused for the first name that is unknown, before a row is read. -/
theorem ofTable_of_unknown (h : (unknownNames header).head? = some name) (parents : Bool)
    (rows : List (List String)) : ofTable parents (header :: rows) = .error (.unknownColumn name) := by
  simp [ofTable, numberedRules, layout, layoutFrom_of_unknown h, bind, Except.bind]

theorem exists_name_eq_trimmed (h : unknownNames header = []) :
    ∀ s ∈ header, ∃ c : Column, trimmed s = c.name := by
  intro s hs
  have hnamed := List.filter_eq_nil_iff.1 h (trimmed s) (List.mem_map_of_mem hs)
  obtain ⟨c, hc⟩ : ∃ c, Column.named? (trimmed s) = some c := by
    simpa [← Option.ne_none_iff_exists'] using hnamed
  exact ⟨c, (Column.name_of_named? hc).symm⟩

namespace HasEachOnce

theorem perm (h : HasEachOnce header) (hp : header'.Perm header) : HasEachOnce header' :=
  fun c => ((hp.map trimmed).count_eq c.name).trans (h c)

theorem name_mem (h : HasEachOnce header) (c : Column) : c.name ∈ header.map trimmed :=
  List.count_pos_iff.1 (by simp [h c])

theorem nodup (h : HasEachOnce header) (hknown : unknownNames header = []) :
    (header.map trimmed).Nodup := by
  refine List.nodup_iff_count_eq_one.2 fun s hs => ?_
  obtain ⟨t, ht, rfl⟩ := List.mem_map.1 hs
  obtain ⟨c, hc⟩ := exists_name_eq_trimmed hknown t ht
  rw [hc, h c]

theorem exists_layout (h : HasEachOnce header) (hknown : unknownNames header = []) :
    ∃ l, layout header = .ok l ∧ ∀ c, ∃ i, l c = some i ∧ (header.map trimmed)[i]? = some c.name := by
  obtain ⟨l, hl, hplaced⟩ := exists_layoutFrom (exists_name_eq_trimmed hknown) 0 fun _ => none
  have hfound (c : Column) : ∃ i, l c = some i ∧ (header.map trimmed)[i]? = some c.name := by
    obtain ⟨i, hi, hname⟩ | ⟨hnot, -⟩ := hplaced c
    · exact ⟨i, by rw [hi, Nat.zero_add], hname⟩
    · exact absurd (h.name_mem c) hnot
  refine ⟨l, ?_, hfound⟩
  have hmissing : (Column.every.filter fun c => (l c).isNone) = [] := by
    refine List.filter_eq_nil_iff.2 fun c _ => ?_
    obtain ⟨i, hi, -⟩ := hfound c
    simp [hi]
  simp [layout, hl, hmissing, bind, Except.bind, pure, Except.pure]

end HasEachOnce

/-- Where the columns stand when they come in their own order. -/
def plainLayout : Layout := fun c => some (Column.every.idxOf c)

theorem layout_plain : layout (Column.every.map Column.name) = .ok plainLayout := by
  have hplaces : (layout (Column.every.map Column.name)).map (Column.every.map ·) =
      .ok (Column.every.map plainLayout) := by decide +kernel
  cases hl : layout (Column.every.map Column.name) with
  | error e =>
    rw [hl] at hplaces
    cases hplaces
  | ok l =>
    rw [hl] at hplaces
    congr 1
    funext c
    exact List.map_inj_left.1 (Except.ok.inj hplaces) c (Column.mem_every c)

theorem getD_fitted {width : Nat} (hi : i < width) (row : List String) :
    (fitted width row).getD i "" = row.getD i "" := by
  simp only [fitted, List.getD_eq_getElem?_getD]
  by_cases hrow : i < row.length
  · have htake : i < (row.take width).length := by rw [List.length_take]; omega
    rw [List.getElem?_append_left htake, List.getElem?_take_of_lt hi]
  · rw [List.getElem?_append_right (by simp; omega), List.getElem?_eq_none (Nat.le_of_not_lt hrow),
      List.getElem?_replicate]
    split_ifs <;> rfl

theorem map_range_getD (header : List String) :
    (List.range header.length).map (fun i => header.getD i "") = header := by
  apply List.ext_getElem
  · simp
  · intro i hi hi'
    simp [hi']

theorem arranged_perm (hp : places.Perm (List.range header.length)) : (arranged places header).Perm header := by
  have hmap := hp.map fun i => header.getD i ""
  rwa [map_range_getD] at hmap

theorem unknownNames_perm (hp : header'.Perm header) : (unknownNames header').Perm (unknownNames header) :=
  (hp.map trimmed).filter _

theorem cell_arranged (hnodup : (header.map trimmed).Nodup) (hp : places.Perm (List.range header.length))
    (hl : ∃ i, l c = some i ∧ (header.map trimmed)[i]? = some c.name)
    (hl' : ∃ i, l' c = some i ∧ ((arranged places header).map trimmed)[i]? = some c.name)
    (row : List String) : cell l' (arranged places (fitted header.length row)) c = cell l row c := by
  obtain ⟨i, hi, hname⟩ := hl
  obtain ⟨j, hj, hname'⟩ := hl'
  obtain ⟨k, hk, hkname⟩ : ∃ k, places[j]? = some k ∧ trimmed (header.getD k "") = c.name := by
    simpa [arranged, Function.comp_def] using hname'
  have hlt : k < header.length := List.mem_range.1 (hp.mem_iff.1 (List.mem_of_getElem? hk))
  -- The name stands in the header only once, so this is the place where it stood before.
  have hik : k = i := by
    refine (List.getElem?_inj (by simpa using hlt) hnodup).1 ?_
    rw [hname, ← hkname]
    simp [hlt]
  have hcell : (arranged places (fitted header.length row)).getD j "" = row.getD k "" := by
    rw [← getD_fitted hlt row]
    simp [arranged, hk]
  simp only [cell, hi, hj, hcell, hik]

/-- A row is read by its cells alone. -/
theorem isEnabled_congr (h : ∀ c, cell l row c = cell l' row' c) : isEnabled l row = isEnabled l' row' := by
  simp only [isEnabled, h]

theorem ofRow_congr (h : ∀ c, cell l row c = cell l' row' c) (parents : Bool) :
    ofRow l parents row = ofRow l' parents row' := by
  simp only [ofRow, h]

theorem ofRows_map {f : List String → List String} (h : ∀ row c, cell l' (f row) c = cell l row c)
    (parents : Bool) (number : Nat) (rows : List (List String)) :
    ofRows l' parents number (rows.map f) = ofRows l parents number rows := by
  induction rows generalizing number with
  | nil => rfl
  | cons row rows ih =>
    simp only [List.map_cons, ofRows, isEnabled_congr (h row), ofRow_congr (h row), ih]

/-- A table whose columns are all known is read as the same rules, or refused for the same reason, with its
columns in any order. -/
theorem ofTable_arranged_of_known (h : HasEachOnce header) (hknown : unknownNames header = [])
    (hp : places.Perm (List.range header.length)) (parents : Bool) (rows : List (List String)) :
    ofTable parents (arrangedTable places (header :: rows)) = ofTable parents (header :: rows) := by
  have hmoved := arranged_perm hp
  have hknown' : unknownNames (arranged places header) = [] := by
    simpa [hknown] using unknownNames_perm hmoved
  obtain ⟨l, hl, hfound⟩ := h.exists_layout hknown
  obtain ⟨l', hl', hfound'⟩ := (h.perm hmoved).exists_layout hknown'
  have hcell (row : List String) (c : Column) :
      cell l' (arranged places (fitted header.length row)) c = cell l row c :=
    cell_arranged (h.nodup hknown) hp (hfound c) (hfound' c) row
  have hrows := ofRows_map hcell parents 2 rows
  simp only [arrangedTable, ofTable, numberedRules, hl, hl', bind, Except.bind, hrows]

/-- The columns of a table may stand in any order: it is read as the same rules, or refused for the same
reason, with the same words. Only if names are unknown, each of the tables is refused for the first one in its
own order. -/
theorem ofTable_arranged_iff (h : HasEachOnce header) (hp : places.Perm (List.range header.length))
    (parents : Bool) (rows : List (List String)) :
    (unknownNames (arranged places header)).Perm (unknownNames header) ∧
      (∀ name ∈ (unknownNames header).head?,
        ofTable parents (header :: rows) = .error (.unknownColumn name)) ∧
      (∀ name ∈ (unknownNames (arranged places header)).head?,
        ofTable parents (arrangedTable places (header :: rows)) = .error (.unknownColumn name)) ∧
      (ofTable parents (arrangedTable places (header :: rows)) = ofTable parents (header :: rows) ↔
        (unknownNames (arranged places header)).head? = (unknownNames header).head?) := by
  have hperm := unknownNames_perm (arranged_perm hp)
  refine ⟨hperm, fun name hname => ofTable_of_unknown hname parents rows,
    fun name hname => ofTable_of_unknown hname parents _, ?_⟩
  cases hnames : unknownNames header with
  | nil =>
    have hnames' : unknownNames (arranged places header) = [] := by simpa [hnames] using hperm
    simp [hnames', ofTable_arranged_of_known h hnames hp]
  | cons name names =>
    obtain ⟨name', names', hnames'⟩ :=
      List.exists_cons_of_length_pos (by simp [hperm.length_eq, hnames] :
        0 < (unknownNames (arranged places header)).length)
    have htable : ofTable parents (header :: rows) = .error (.unknownColumn name) :=
      ofTable_of_unknown (by rw [hnames]; rfl) parents rows
    have htable' : ofTable parents (arrangedTable places (header :: rows)) = .error (.unknownColumn name') :=
      ofTable_of_unknown (by rw [hnames']; rfl) parents _
    simp [htable, htable', hnames']

def shuffledHeader : List String :=
  [" stage", "disabled ", "conditions", "action_after_match", "\tadd_labels", "move_to", "mark_important",
    "mark_read", "auto_label"]

def unevenRows : List (List String) :=
  [["", "", "(subject a)", "done", "", "", "", "", "", "7"], ["4", "", "(subject b)", "", "x"]]

theorem ofTable_arranged_shuffled : HasEachOnce shuffledHeader ∧
    [2, 4, 5, 6, 7, 0, 8, 1, 3].Perm (List.range shuffledHeader.length) ∧
    ofTable false (arrangedTable [2, 4, 5, 6, 7, 0, 8, 1, 3] (shuffledHeader :: unevenRows)) =
      ofTable false (shuffledHeader :: unevenRows) ∧
    (numberedRules false (shuffledHeader :: unevenRows)).map (·.map fun p => (p.1, p.2.stage)) =
      .ok [(2, lastStage), (3, 4)] := by
  have h : HasEachOnce shuffledHeader := by decide +kernel
  have hp : [2, 4, 5, 6, 7, 0, 8, 1, 3].Perm (List.range shuffledHeader.length) := by decide +kernel
  exact ⟨h, hp, (ofTable_arranged_iff h hp false unevenRows).2.2.2.2 (by decide +kernel), by decide +kernel⟩

def annotatedHeader : List String :=
  Column.every.map Column.name ++ ["owner", "note"]

/-- Of two unknown names the one that comes first is reported, whichever that is. -/
theorem ofTable_arranged_ne_of_annotated : HasEachOnce annotatedHeader ∧
    [0, 1, 2, 3, 4, 5, 6, 7, 8, 10, 9].Perm (List.range annotatedHeader.length) ∧
    ofTable false (arrangedTable [0, 1, 2, 3, 4, 5, 6, 7, 8, 10, 9] [annotatedHeader]) =
      .error (.unknownColumn "note") ∧
    ofTable false [annotatedHeader] = .error (.unknownColumn "owner") := by
  refine ⟨by decide +kernel, by decide +kernel, ?_, ?_⟩
  · exact ofTable_of_unknown (by decide +kernel) false []
  · exact ofTable_of_unknown (by decide +kernel) false []

end MailTriage.Rule
