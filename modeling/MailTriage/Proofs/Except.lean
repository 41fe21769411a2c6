import Mathlib.Data.List.Forall2

namespace MailTriage

theorem eq_ok_of_isSome {ε α : Type} {r : Except ε (List α)} (h : r.toOption.isSome) :
    r = .ok (r.toOption.getD []) := by
  cases r with
  | error e => cases h
  | ok a => rfl

theorem exists_of_bind {α β ε : Type} {x : Except ε α} {f : α → Except ε β} {b : β}
    (h : x >>= f = .ok b) : ∃ a, x = .ok a ∧ f a = .ok b := by
  cases x with
  | error e => cases h
  | ok a => exact ⟨a, rfl, h⟩

theorem bind_eq_error_iff {α β ε : Type} {x : Except ε α} {f : α → Except ε β} {e : ε} :
    x >>= f = .error e ↔ x = .error e ∨ ∃ a, x = .ok a ∧ f a = .error e := by
  cases x <;> simp [bind, Except.bind]

theorem mapError_eq_error_iff {α ε δ : Type} {r : Except ε α} {f : ε → δ} {x : δ} :
    r.mapError f = .error x ↔ ∃ e, r = .error e ∧ f e = x := by
  cases r <;> simp [Except.mapError]

theorem not_of_eq_ok {ε α : Type} {r : Except ε α} {a : α} {p : Prop} {x : ε}
    (hiff : ∀ e, r = .error e ↔ p ∧ x = e) (h : r = .ok a) : ¬ p := by
  intro hp
  have herror := (hiff x).2 ⟨hp, rfl⟩
  rw [h] at herror
  cases herror

theorem eq_ok_of_mapError {α ε δ : Type} {r : Except ε α} {f : ε → δ} {a : α}
    (h : r.mapError f = .ok a) : r = .ok a := by
  cases r <;> cases h
  rfl

theorem mapM_eq_ok_iff {α β ε : Type} {f : α → Except ε β} {as : List α} {bs : List β} :
    as.mapM f = .ok bs ↔ List.Forall₂ (fun a b => f a = .ok b) as bs := by
  induction as generalizing bs with
  | nil => simp [pure, Except.pure, List.forall₂_nil_left_iff, eq_comm]
  | cons a as ih =>
    rw [List.mapM_cons, List.forall₂_cons_left_iff]
    simp only [← ih]
    cases f a with
    | error e => simp [bind, Except.bind]
    | ok b => cases as.mapM f <;> simp [bind, Except.bind, pure, Except.pure, eq_comm]

theorem exists_of_mem_mapM {α β ε : Type} {f : α → Except ε β} {as : List α} {bs : List β} {b : β}
    (h : as.mapM f = .ok bs) (hb : b ∈ bs) : ∃ a ∈ as, f a = .ok b := by
  rw [mapM_eq_ok_iff] at h
  induction h with
  | nil => cases hb
  | cons hfirst _ ih =>
    rcases List.mem_cons.1 hb with rfl | hb
    · exact ⟨_, List.mem_cons_self, hfirst⟩
    · obtain ⟨a, ha, hf⟩ := ih hb
      exact ⟨a, List.mem_cons_of_mem _ ha, hf⟩

theorem error_of_bind_pure {α β ε : Type} {r : Except ε α} {f : α → β} {x : ε}
    (h : (do return f (← r)) = Except.error x) : r = .error x := by
  cases r with
  | error y => simpa [bind, Except.bind] using h
  | ok a => cases h

theorem exists_of_mapM_eq_error {α β ε : Type} {f : α → Except ε β} {as : List α} {x : ε}
    (h : as.mapM f = .error x) : ∃ a ∈ as, f a = .error x := by
  induction as with
  | nil => cases h
  | cons a as ih =>
    rw [List.mapM_cons] at h
    cases hf : f a with
    | error y =>
      obtain rfl : y = x := by simpa [hf, bind, Except.bind] using h
      exact ⟨a, List.mem_cons_self, hf⟩
    | ok b =>
      rw [hf] at h
      obtain ⟨a', ha', hx⟩ := ih (error_of_bind_pure h)
      exact ⟨a', List.mem_cons_of_mem a ha', hx⟩

end MailTriage
