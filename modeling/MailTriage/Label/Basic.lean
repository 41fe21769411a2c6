import MailTriage.Text.Split

namespace MailTriage

namespace Label

/-- The texts before the slashes of a name, the empty one left out; `done` is what stands before the
text read, last character first. -/
def parentsFrom (done : List Char) : List Char → List (List Char)
  | [] => []
  | c :: s =>
    if c = '/' && !done.isEmpty then done.reverse :: parentsFrom (c :: done) s
    else parentsFrom (c :: done) s

/-- A name with all its parents; none, if it is empty. -/
def withParents (name : String) : List String :=
  if name.isEmpty then [] else name :: (parentsFrom [] name.toList).map String.ofList

end Label

/-- A set of label names, kept in the order of their characters. -/
structure LabelSet where
  names : List String
  sorted : names.Pairwise (· < ·) := by simp
  deriving DecidableEq

namespace LabelSet

def empty : LabelSet := ⟨[], .nil⟩

instance : Inhabited LabelSet := ⟨empty⟩

instance : EmptyCollection LabelSet := ⟨empty⟩

instance : Membership String LabelSet := ⟨fun s name => name ∈ s.names⟩

instance (name : String) (s : LabelSet) : Decidable (name ∈ s) :=
  inferInstanceAs (Decidable (name ∈ s.names))

instance : Repr LabelSet := ⟨fun s _ => repr s.names⟩

def insertName (name : String) : List String → List String
  | [] => [name]
  | a :: s => if name < a then name :: a :: s else if name = a then a :: s else a :: insertName name s

theorem mem_insertName {name a : String} {s : List String} :
    a ∈ insertName name s ↔ a = name ∨ a ∈ s := by
  induction s with
  | nil => simp [insertName]
  | cons b s ih =>
    unfold insertName
    split
    · simp
    · split
      · next h => subst h; simp
      · simp [ih, or_left_comm]

theorem pairwise_insertName {name : String} {s : List String} (h : s.Pairwise (· < ·)) :
    (insertName name s).Pairwise (· < ·) := by
  induction s with
  | nil => simp [insertName]
  | cons b s ih =>
    rw [List.pairwise_cons] at h
    unfold insertName
    split
    · next lt =>
      refine List.pairwise_cons.2 ⟨?_, List.pairwise_cons.2 h⟩
      intro a ha
      rcases List.mem_cons.1 ha with rfl | ha
      · exact lt
      · exact String.lt_trans lt (h.1 a ha)
    · next nlt =>
      split
      · exact List.pairwise_cons.2 h
      · next ne =>
        refine List.pairwise_cons.2 ⟨?_, ih h.2⟩
        intro a ha
        rcases mem_insertName.1 ha with rfl | ha
        · exact Decidable.byContradiction fun hle =>
            ne (String.le_antisymm (String.not_lt.1 hle) (String.not_lt.1 nlt))
        · exact h.1 a ha

def insert (s : LabelSet) (name : String) : LabelSet :=
  ⟨insertName name s.names, pairwise_insertName s.sorted⟩

def insertAll (s : LabelSet) (names : List String) : LabelSet :=
  names.foldl insert s

def union (s t : LabelSet) : LabelSet :=
  s.insertAll t.names

def ofList (names : List String) : LabelSet :=
  empty.insertAll names

def isEmpty (s : LabelSet) : Bool :=
  s.names.isEmpty

@[simp] theorem mem_names {s : LabelSet} {a : String} : a ∈ s.names ↔ a ∈ s :=
  Iff.rfl

@[simp] theorem mem_insert {s : LabelSet} {name a : String} : a ∈ s.insert name ↔ a = name ∨ a ∈ s :=
  mem_insertName

@[simp] theorem not_mem_empty {a : String} : ¬ a ∈ empty := by
  intro h
  cases h

theorem mem_insertAll {s : LabelSet} {names : List String} {a : String} :
    a ∈ s.insertAll names ↔ a ∈ s ∨ a ∈ names := by
  induction names generalizing s with
  | nil => simp [insertAll]
  | cons b names ih =>
    have h : s.insertAll (b :: names) = (s.insert b).insertAll names := rfl
    rw [h, ih, mem_insert, List.mem_cons]
    constructor
    · rintro ((rfl | h) | h)
      · exact .inr (.inl rfl)
      · exact .inl h
      · exact .inr (.inr h)
    · rintro (h | rfl | h)
      · exact .inl (.inr h)
      · exact .inl (.inl rfl)
      · exact .inr h

@[simp] theorem mem_union {s t : LabelSet} {a : String} : a ∈ s.union t ↔ a ∈ s ∨ a ∈ t :=
  mem_insertAll

end LabelSet

end MailTriage
