import Mathlib.Data.List.Nodup
import MailTriage.Batch.Run
import MailTriage.Proofs.Mail.Window

namespace MailTriage

namespace Store

variable {store store' : Store} {label : String} {limit : Int} {p m n : Nat} {places : List Nat}

theorem search_sublist : (store.search label limit).Sublist (List.range store.threads.length) := by
  have hcarrying : (store.carrying label).Sublist (List.range store.threads.length) := by
    have h := (List.filter_sublist (l := store.threads.zipIdx)
      (p := fun p => p.1.labels.contains label)).map Prod.snd
    rwa [List.zipIdx_map_snd, ← List.range_eq_range'] at h
  exact (List.take_sublist _ _).trans hcarrying

theorem nodup_search : (store.search label limit).Nodup :=
  List.nodup_range.sublist search_sublist

theorem exists_of_mem_search (h : p ∈ store.search label limit) : ∃ t, store.threads[p]? = some t := by
  have hp := List.mem_range.1 (search_sublist.subset h)
  exact ⟨_, List.getElem?_eq_getElem hp⟩

theorem length_search_le {limit : Nat} : (store.search label limit).length ≤ limit := by
  have hneg : ¬ (limit : Int) < 0 := by omega
  simp only [search, hneg, if_false, Int.toNat_natCast, List.length_take]
  exact Nat.min_le_left _ _

theorem carrying_eq_filter : store.carrying label = (List.range store.threads.length).filter
    fun p => (store.threads[p]?).any fun t => t.labels.contains label := by
  have hplaces : List.range store.threads.length = store.threads.zipIdx.map Prod.snd := by
    rw [List.zipIdx_map_snd, List.range_eq_range']
  rw [hplaces, List.filter_map, carrying]
  congr 1
  apply List.filter_congr
  rintro ⟨t, p⟩ hp
  have ht : store.threads[p]? = some t := List.mem_zipIdx_iff_getElem?.1 hp
  simp [ht]

theorem nodup_carrying : (store.carrying label).Nodup := by
  rw [carrying_eq_filter]
  exact List.nodup_range.filter _

theorem search_natCast : store.search label m = (store.carrying label).take m := by
  have hneg : ¬ (m : Int) < 0 := by omega
  simp only [search, hneg, if_false, Int.toNat_natCast]

theorem mem_labels_of_mem_search {t : Thread} (h : p ∈ store.search label limit)
    (ht : store.threads[p]? = some t) : label ∈ t.labels := by
  have hp : p ∈ store.carrying label := List.mem_of_mem_take h
  rw [carrying_eq_filter, List.mem_filter, ht] at hp
  simpa using hp.2

/-- Where some threads have lost a label and the others are as before, the others are those that carry
it. -/
theorem carrying_of_lost (hlength : store'.threads.length = store.threads.length)
    (hothers : ∀ p ∉ places, store'.threads[p]? = store.threads[p]?)
    (hlost : ∀ p ∈ places, ∀ t, store'.threads[p]? = some t → label ∉ t.labels) :
    store'.carrying label = (store.carrying label).filter (· ∉ places) := by
  rw [carrying_eq_filter, carrying_eq_filter, hlength, List.filter_filter]
  apply List.filter_congr
  intro p _
  by_cases hp : p ∈ places
  · cases ht : store'.threads[p]? with
    | none => simp [hp]
    | some t => simp [hp, hlost p hp t ht]
  · simp [hp, hothers p hp]

theorem search_of_lost (hlength : store'.threads.length = store.threads.length)
    (hothers : ∀ p ∉ store.search label m, store'.threads[p]? = store.threads[p]?)
    (hlost : ∀ p ∈ store.search label m, ∀ t, store'.threads[p]? = some t → label ∉ t.labels) :
    store.search label (m + n : Nat) = store.search label m ++ store'.search label n := by
  have hdrop : store'.carrying label = (store.carrying label).drop m := by
    rw [carrying_of_lost hlength hothers hlost, search_natCast]
    have hnodup : ((store.carrying label).take m ++ (store.carrying label).drop m).Nodup := by
      rw [List.take_append_drop]
      exact nodup_carrying
    have hdisjoint := List.disjoint_of_nodup_append hnodup
    conv_lhs => rw [← List.take_append_drop m (store.carrying label)]
    rw [List.filter_append, List.filter_eq_nil_iff.2 (by simp), List.nil_append]
    apply List.filter_eq_self.2
    intro p hp
    simpa using fun hp' => hdisjoint hp' hp
  rw [search_natCast, search_natCast, search_natCast, hdrop, List.take_add]

end Store

variable {s : Session} {store : Store} {places : List Nat}

theorem pendingAt_eq_error_iff : Batch.pendingAt s store places = .error .outOfRange ↔
    ∃ p ∈ places, ∃ t, store.threads[p]? = some t ∧ s.pending t = .error .outOfRange := by
  induction places with
  | nil => simp [Batch.pendingAt]
  | cons p places ih =>
    rw [List.exists_mem_cons_iff, ← ih, Batch.pendingAt]
    cases hp : store.threads[p]? with
    | none => simp
    | some t =>
      cases ht : s.pending t with
      | error e =>
        cases e
        simp [bind, Except.bind, ht]
      | ok x =>
        cases Batch.pendingAt s store places <;> simp [bind, Except.bind, pure, Except.pure, ht]

variable {store' : Store} {places' : List Nat} {ps ps' : List (Nat × PendingThread)}

theorem pendingAt_eq_ok (hplaces : ∀ p ∈ places, ∃ t, store.threads[p]? = some t)
    (h : Batch.pendingAt s store places = .ok ps) : ps.map (·.1) = places ∧
      ∀ x ∈ ps, ∃ t, store.threads[x.1]? = some t ∧ s.pending t = .ok x.2 := by
  induction places generalizing ps with
  | nil =>
    cases h
    simp
  | cons p places ih =>
    rw [List.forall_mem_cons] at hplaces
    obtain ⟨t, ht⟩ := hplaces.1
    rw [Batch.pendingAt, ht] at h
    dsimp only at h
    cases hx : s.pending t with
    | error e =>
      rw [hx] at h
      cases h
    | ok x =>
      cases hrest : Batch.pendingAt s store places with
      | error e =>
        rw [hx, hrest] at h
        cases h
      | ok rest =>
        rw [hx, hrest] at h
        cases h
        obtain ⟨hmap, hall⟩ := ih hplaces.2 hrest
        refine ⟨by rw [List.map_cons, hmap], List.forall_mem_cons.2 ⟨⟨t, ht, hx⟩, hall⟩⟩

theorem pendingAt_append (h : Batch.pendingAt s store places = .ok ps)
    (h' : Batch.pendingAt s store places' = .ok ps') :
    Batch.pendingAt s store (places ++ places') = .ok (ps ++ ps') := by
  induction places generalizing ps with
  | nil =>
    cases h
    exact h'
  | cons p places ih =>
    rw [List.cons_append, Batch.pendingAt]
    rw [Batch.pendingAt] at h
    cases ht : store.threads[p]? with
    | none =>
      rw [ht] at h
      exact ih h
    | some t =>
      rw [ht] at h
      dsimp only at h ⊢
      cases hx : s.pending t with
      | error e =>
        rw [hx] at h
        cases h
      | ok x =>
        cases hrest : Batch.pendingAt s store places with
        | error e =>
          rw [hx, hrest] at h
          cases h
        | ok rest =>
          rw [hx, hrest] at h
          cases h
          rw [ih hrest]
          rfl

theorem pendingAt_congr (h : ∀ p ∈ places, store.threads[p]? = store'.threads[p]?) :
    Batch.pendingAt s store places = Batch.pendingAt s store' places := by
  induction places with
  | nil => rfl
  | cons p places ih =>
    rw [List.forall_mem_cons] at h
    rw [Batch.pendingAt, Batch.pendingAt, h.1, ih h.2]

end MailTriage
