import Mathlib.Data.List.Induction
import Mathlib.Data.List.Nodup
import MailTriage.Batch.Plan

namespace MailTriage.Plan

/-- The threads whose action has a property, in the order in which they came. -/
def placesOf (items : List (Nat × Action)) (q : Action → Bool) : List Nat :=
  (items.filter (q ·.2)).map (·.1)

variable {items : List (Nat × Action)} {q : Action → Bool} {a : Action} {p : Nat}

theorem placesOf_cons (i : Nat × Action) :
    placesOf (i :: items) q = (if q i.2 then [i.1] else []) ++ placesOf items q := by
  by_cases h : q i.2
  · simp [placesOf, h]
  · simp [placesOf, h]

theorem placesOf_sublist : (placesOf items q).Sublist (items.map (·.1)) :=
  List.filter_sublist.map _

theorem mem_placesOf (hd : (items.map (·.1)).Nodup) (hp : (p, a) ∈ items) :
    p ∈ placesOf items q ↔ q a := by
  simp only [placesOf, List.mem_map, List.mem_filter]
  constructor
  · rintro ⟨i, ⟨hi, hq⟩, rfl⟩
    have : i = (i.1, a) := List.inj_on_of_nodup_map hd hi hp rfl
    rw [this] at hq
    exact hq
  · intro hq
    exact ⟨(p, a), ⟨hp, hq⟩, rfl⟩

theorem foldl_addUnder {α : Type} [DecidableEq α] (f : Action → α) (groups : α → List Nat) (v : α) :
    items.foldl (fun g i => addUnder (f i.2) i.1 g) groups v =
      groups v ++ placesOf items (f · = v) := by
  induction items generalizing groups with
  | nil => simp [placesOf]
  | cons i items ih =>
    rw [List.foldl_cons, ih, placesOf_cons, ← List.append_assoc]
    congr 1
    by_cases h : v = f i.2
    · simp [addUnder, h]
    · simp [addUnder, h, Ne.symm h]

theorem moves_ofActions (items : List (Nat × Action)) (d : Destination) :
    (ofActions items).moves d = placesOf items (·.moveTo = d) := by
  have h : (ofActions items).moves = items.foldl (fun g i => addUnder i.2.moveTo i.1 g) fun _ => [] :=
    (List.foldl_hom Plan.moves fun _ _ => rfl).symm
  rw [h, foldl_addUnder, List.nil_append]

theorem important_ofActions (items : List (Nat × Action)) (s : Switch) :
    (ofActions items).important s = placesOf items (·.important = s) := by
  have h : (ofActions items).important =
      items.foldl (fun g i => addUnder i.2.important i.1 g) fun _ => [] :=
    (List.foldl_hom Plan.important fun _ _ => rfl).symm
  rw [h, foldl_addUnder, List.nil_append]

theorem read_ofActions (items : List (Nat × Action)) (s : Switch) :
    (ofActions items).read s = placesOf items (·.read = s) := by
  have h : (ofActions items).read = items.foldl (fun g i => addUnder i.2.read i.1 g) fun _ => [] :=
    (List.foldl_hom Plan.read fun _ _ => rfl).symm
  rw [h, foldl_addUnder, List.nil_append]

theorem label?_of_mem_operations {plan : Plan} : ∀ o ∈ plan.operations, o.1.label? = none := by
  intro o ho
  replace ho := (List.mem_filter.1 ho).1
  simp only [List.mem_cons, List.not_mem_nil, or_false] at ho
  rcases ho with rfl | rfl | rfl | rfl | rfl | rfl | rfl <;> rfl

def under (groups : List (String × List Nat)) (name : String) : List Nat :=
  (groups.lookup name).getD []

variable {groups : List (String × List Nat)} {thread : Nat} {name n : String} {places : List Nat}
  {names : List String}

theorem under_cons (g : String × List Nat) :
    under (g :: groups) n = if n = g.1 then g.2 else under groups n := by
  obtain ⟨m, threads⟩ := g
  by_cases h : n = m
  · subst h
    simp [under]
  · rw [if_neg h]
    have hb : (n == m) = false := beq_eq_false_iff_ne.2 h
    simp [under, List.lookup_cons, hb]

theorem under_addToGroup :
    under (addToGroup thread name groups) n = under groups n ++ if n = name then [thread] else [] := by
  induction groups with
  | nil =>
    rw [addToGroup, under_cons]
    simp [under]
  | cons g groups ih =>
    unfold addToGroup
    by_cases h : g.1 = name
    · rw [if_pos h, under_cons, under_cons, h]
      by_cases hn : n = name <;> simp [hn]
    · rw [if_neg h, under_cons, under_cons, ih]
      by_cases hn : n = g.1
      · simp [hn, h]
      · simp [hn]

theorem keys_addToGroup : (addToGroup thread name groups).map (·.1) =
    if name ∈ groups.map (·.1) then groups.map (·.1) else groups.map (·.1) ++ [name] := by
  induction groups with
  | nil => simp [addToGroup]
  | cons g groups ih =>
    unfold addToGroup
    by_cases h : g.1 = name
    · simp [h]
    · rw [if_neg h, List.map_cons, ih]
      by_cases hmem : name ∈ groups.map (·.1)
      · simp only [List.map_cons, List.mem_cons, hmem, or_true, if_true]
      · simp only [List.map_cons, List.mem_cons, hmem, Ne.symm h, or_false, if_false,
          List.cons_append]

theorem nodup_eraseDups (names : List String) : names.eraseDups.Nodup := by
  induction names using List.reverseRecOn with
  | nil => exact List.nodup_nil
  | append_singleton names name ih =>
    rw [List.eraseDups_append]
    by_cases hname : name ∈ names
    · simpa [List.removeAll, hname] using ih
    · have hnew : ([name].removeAll names).eraseDups = [name] := by
        simp [List.removeAll, hname, List.eraseDups_cons]
      rw [hnew]
      exact ih.append (List.nodup_singleton _) (by simpa using hname)

/-- A group that is new stands behind the others, as a name does that comes for the first time. -/
theorem keys_addToGroup_of_eraseDups (h : groups.map (·.1) = names.eraseDups) :
    (addToGroup thread name groups).map (·.1) = (names ++ [name]).eraseDups := by
  rw [keys_addToGroup, h, List.eraseDups_append]
  by_cases hname : name ∈ names <;> simp [List.removeAll, hname, List.eraseDups_cons]

def addToGroups (groups : List (String × List Nat)) (i : Nat × Action) : List (String × List Nat) :=
  i.2.labels.names.foldl (fun groups name => addToGroup i.1 name groups) groups

theorem under_foldl_addToGroup (hd : names.Nodup) :
    under (names.foldl (fun groups name => addToGroup thread name groups) groups) n =
      under groups n ++ if n ∈ names then [thread] else [] := by
  induction names generalizing groups with
  | nil => simp
  | cons name names ih =>
    rw [List.nodup_cons] at hd
    rw [List.foldl_cons, ih hd.2, under_addToGroup, List.append_assoc]
    congr 1
    by_cases h : n = name
    · simp [h, hd.1]
    · simp [h]

theorem keys_foldl_addToGroup {names' : List String} (h : groups.map (·.1) = names'.eraseDups) :
    (names.foldl (fun groups name => addToGroup thread name groups) groups).map (·.1) =
      (names' ++ names).eraseDups := by
  induction names generalizing groups names' with
  | nil => rwa [List.append_nil]
  | cons name names ih =>
    rw [List.foldl_cons, ih (keys_addToGroup_of_eraseDups h), List.append_assoc, List.singleton_append]

theorem labels_ofActions (items : List (Nat × Action)) :
    (ofActions items).labels = items.foldl addToGroups [] :=
  (List.foldl_hom Plan.labels fun _ _ => rfl).symm

theorem under_foldl_addToGroups :
    under (items.foldl addToGroups groups) n = under groups n ++ placesOf items (n ∈ ·.labels) := by
  induction items generalizing groups with
  | nil => simp [placesOf]
  | cons i items ih =>
    have hd : i.2.labels.names.Nodup := i.2.labels.sorted.imp String.ne_of_lt
    rw [List.foldl_cons, ih, placesOf_cons, addToGroups, under_foldl_addToGroup hd, List.append_assoc]
    simp

/-- The labels that threads ask for: thread by thread, those of one thread in the order of their
characters. -/
def requests (items : List (Nat × Action)) : List String :=
  items.flatMap (·.2.labels.names)

theorem mem_requests : n ∈ requests items ↔ ∃ i ∈ items, n ∈ i.2.labels := by
  simp [requests]

theorem keys_foldl_addToGroups (h : groups.map (·.1) = names.eraseDups) :
    (items.foldl addToGroups groups).map (·.1) = (names ++ requests items).eraseDups := by
  induction items generalizing groups names with
  | nil => simpa [requests] using h
  | cons i items ih =>
    have hone : (addToGroups groups i).map (·.1) = (names ++ i.2.labels.names).eraseDups :=
      keys_foldl_addToGroup h
    rw [List.foldl_cons, ih hone, List.append_assoc]
    rfl

theorem under_of_mem (h : (groups.map (·.1)).Nodup) (hg : (n, places) ∈ groups) :
    under groups n = places := by
  induction groups with
  | nil => exact absurd hg List.not_mem_nil
  | cons g groups ih =>
    rw [List.map_cons, List.nodup_cons] at h
    rw [under_cons]
    obtain hg | hg := List.mem_cons.1 hg
    · simp [← hg]
    · have hne : n ≠ g.1 := fun hn => h.1 (List.mem_map.2 ⟨_, hg, hn⟩)
      rw [if_neg hne, ih h.2 hg]

theorem keys_ofActions (items : List (Nat × Action)) :
    (ofActions items).labels.map (·.1) = (requests items).eraseDups := by
  have hnone : ([] : List (String × List Nat)).map (·.1) = ([] : List String).eraseDups := rfl
  rw [labels_ofActions]
  exact keys_foldl_addToGroups hnone

theorem nodup_keys_ofActions (items : List (Nat × Action)) :
    ((ofActions items).labels.map (·.1)).Nodup := by
  rw [keys_ofActions]
  exact nodup_eraseDups (requests items)

theorem eq_map_under (h : (groups.map (·.1)).Nodup) :
    groups = (groups.map (·.1)).map fun n => (n, under groups n) := by
  have hself : ∀ g ∈ groups, (g.1, under groups g.1) = id g := fun g hg => by rw [under_of_mem h hg, id]
  rw [List.map_map]
  exact ((List.map_congr_left hself).trans (List.map_id groups)).symm

theorem labels_ofActions_eq (items : List (Nat × Action)) :
    (ofActions items).labels =
      (requests items).eraseDups.map fun n => (n, placesOf items (n ∈ ·.labels)) := by
  have hunder (n : String) : under (ofActions items).labels n = placesOf items (n ∈ ·.labels) := by
    rw [labels_ofActions, under_foldl_addToGroups]
    rfl
  rw [eq_map_under (nodup_keys_ofActions items), keys_ofActions]
  simp only [hunder]

theorem mem_labels_ofActions : (n, places) ∈ (ofActions items).labels ↔
    (∃ i ∈ items, n ∈ i.2.labels) ∧ places = placesOf items (n ∈ ·.labels) := by
  simp only [labels_ofActions_eq, List.mem_map, List.mem_eraseDups, mem_requests, Prod.mk.injEq]
  constructor
  · rintro ⟨n, hn, rfl, rfl⟩
    exact ⟨hn, rfl⟩
  · rintro ⟨hn, rfl⟩
    exact ⟨n, hn, rfl, rfl⟩

theorem flatMap_placesOf_perm {α : Type} [DecidableEq α] (f : Action → α) {values : List α}
    (hd : values.Nodup) :
    (values.flatMap fun v => placesOf items (f · = v)).Perm (placesOf items (f · ∈ values)) := by
  induction values with
  | nil => simp [placesOf]
  | cons v values ih =>
    rw [List.nodup_cons] at hd
    have hsplit := List.filter_append_perm (fun i : Nat × Action => decide (f i.2 = v))
      (items.filter (f ·.2 ∈ v :: values))
    have hv : (items.filter (f ·.2 ∈ v :: values)).filter (f ·.2 = v) = items.filter (f ·.2 = v) := by
      rw [List.filter_filter]
      refine List.filter_congr fun i _ => ?_
      by_cases h : f i.2 = v <;> simp [h]
    have hrest : (items.filter (f ·.2 ∈ v :: values)).filter (fun i => !decide (f i.2 = v)) =
        items.filter (f ·.2 ∈ values) := by
      rw [List.filter_filter]
      refine List.filter_congr fun i _ => ?_
      by_cases h : f i.2 = v
      · simp [h, hd.1]
      · simp [h]
    rw [hv, hrest] at hsplit
    have hmap := hsplit.map (·.1)
    rw [List.map_append] at hmap
    exact ((ih hd.2).append_left _).trans hmap

theorem flatMap_placesOf_perm_of_forall {α : Type} [DecidableEq α] (f : Action → α) {values : List α}
    (hd : values.Nodup) (hall : ∀ v, v ∈ values) :
    (values.flatMap fun v => placesOf items (f · = v)).Perm (items.map (·.1)) := by
  have heq : placesOf items (f · ∈ values) = items.map (·.1) := by simp [placesOf, hall]
  rw [← heq]
  exact flatMap_placesOf_perm f hd

/-- A plan loses no thread and no label and holds none twice: every label that is asked for has one group,
in the order of the requests, and every thread stands in one group of each setting. In a group the threads
stand in the order in which they came. -/
theorem ofActions_groups (items : List (Nat × Action)) :
    let plan := ofActions items
    (plan.labels.map (·.1) = (requests items).eraseDups ∧ (plan.labels.map (·.1)).Nodup ∧
        ∀ n places, (n, places) ∈ plan.labels ↔
          (∃ i ∈ items, n ∈ i.2.labels) ∧ places = placesOf items (n ∈ ·.labels)) ∧
      ((∀ d, plan.moves d = placesOf items (·.moveTo = d)) ∧
        (Destination.every.flatMap plan.moves).Perm (items.map (·.1))) ∧
      ((∀ v, plan.important v = placesOf items (·.important = v)) ∧
        (Switch.every.flatMap plan.important).Perm (items.map (·.1))) ∧
      (∀ v, plan.read v = placesOf items (·.read = v)) ∧
        (Switch.every.flatMap plan.read).Perm (items.map (·.1)) := by
  intro plan
  have hdestinations : Destination.every.Nodup ∧ ∀ d, d ∈ Destination.every :=
    ⟨by decide, fun d => by cases d <;> decide⟩
  have hswitches : Switch.every.Nodup ∧ ∀ v, v ∈ Switch.every :=
    ⟨by decide, fun v => by cases v <;> decide⟩
  have hmoves (d : Destination) : plan.moves d = placesOf items (·.moveTo = d) := moves_ofActions items d
  have himportant (v : Switch) : plan.important v = placesOf items (·.important = v) :=
    important_ofActions items v
  have hread (v : Switch) : plan.read v = placesOf items (·.read = v) := read_ofActions items v
  refine ⟨⟨keys_ofActions items, nodup_keys_ofActions items, fun n places => mem_labels_ofActions⟩,
    ⟨hmoves, ?_⟩, ⟨himportant, ?_⟩, hread, ?_⟩
  · rw [funext hmoves]
    exact flatMap_placesOf_perm_of_forall (·.moveTo) hdestinations.1 hdestinations.2
  · rw [funext himportant]
    exact flatMap_placesOf_perm_of_forall (·.important) hswitches.1 hswitches.2
  · rw [funext hread]
    exact flatMap_placesOf_perm_of_forall (·.read) hswitches.1 hswitches.2

end MailTriage.Plan
