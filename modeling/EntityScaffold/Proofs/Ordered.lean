import EntityScaffold.Ordered
import Mathlib.Data.List.Induction

/-
What an ordered mapping holds, told by the entries it was made of: its keys are theirs, each where it
came first, and under a key stands the last value that was put there.
-/

namespace EntityScaffold.Ordered

section

variable {κ ν : Type} {same : κ → κ → Bool} {key other : κ} {value : ν} {entries built : List (κ × ν)}

theorem ofListBy_concat (entries : List (κ × ν)) (entry : κ × ν) :
    ofListBy same (entries ++ [entry]) = insertBy same entry.1 entry.2 (ofListBy same entries) := by
  rw [ofListBy, List.foldl_append]
  rfl

theorem insertBy_of_new (new : ∀ entry ∈ built, same entry.1 key = false) :
    insertBy same key value built = built ++ [(key, value)] := by
  induction built with
  | nil => rfl
  | cons entry rest ih =>
      obtain ⟨here, later⟩ := List.forall_mem_cons.mp new
      rw [insertBy, here, if_neg Bool.false_ne_true, ih later, List.cons_append]

theorem keys_insertBy_of_known (known : ∃ entry ∈ built, same entry.1 key = true) :
    (insertBy same key value built).map Prod.fst = built.map Prod.fst := by
  induction built with
  | nil =>
      obtain ⟨entry, member, _⟩ := known
      cases member
  | cons entry rest ih =>
      rw [insertBy]
      cases here : same entry.1 key with
      | true => rfl
      | false =>
          have later : ∃ entry ∈ rest, same entry.1 key = true := by
            simpa [here] using known
          rw [if_neg Bool.false_ne_true, List.map_cons, List.map_cons, ih later]

theorem mem_insertBy {entry : κ × ν} (member : entry ∈ insertBy same key value built) :
    (entry.1 = key ∨ entry.1 ∈ built.map Prod.fst) ∧
      (entry.2 = value ∨ entry.2 ∈ built.map Prod.snd) := by
  induction built with
  | nil =>
      cases List.mem_singleton.mp member
      exact ⟨Or.inl rfl, Or.inl rfl⟩
  | cons first rest ih =>
      rw [insertBy] at member
      split at member
      · rcases List.mem_cons.mp member with rfl | later
        · exact ⟨Or.inr List.mem_cons_self, Or.inl rfl⟩
        · exact ⟨Or.inr (List.mem_cons_of_mem _ (List.mem_map_of_mem later)),
            Or.inr (List.mem_cons_of_mem _ (List.mem_map_of_mem later))⟩
      · rcases List.mem_cons.mp member with rfl | later
        · exact ⟨Or.inr List.mem_cons_self, Or.inr List.mem_cons_self⟩
        · obtain ⟨ofKey, ofValue⟩ := ih later
          exact ⟨ofKey.imp_right (List.mem_cons_of_mem _), ofValue.imp_right (List.mem_cons_of_mem _)⟩

theorem mem_of_mem_ofListBy {entry : κ × ν} (member : entry ∈ ofListBy same entries) :
    entry.1 ∈ entries.map Prod.fst ∧ entry.2 ∈ entries.map Prod.snd := by
  induction entries using List.reverseRecOn generalizing entry with
  | nil => cases member
  | append_singleton entries last ih =>
      rw [ofListBy_concat] at member
      obtain ⟨ofKey, ofValue⟩ := mem_insertBy member
      simp only [List.map_append, List.map_singleton, List.mem_append, List.mem_singleton]
      constructor
      · rcases ofKey with isLast | before
        · exact Or.inr isLast
        · obtain ⟨kept, listed, same⟩ := List.mem_map.mp before
          exact Or.inl (same ▸ (ih listed).1)
      · rcases ofValue with isLast | before
        · exact Or.inr isLast
        · obtain ⟨kept, listed, same⟩ := List.mem_map.mp before
          exact Or.inl (same ▸ (ih listed).2)

theorem ofListBy_of_distinct
    (distinct : entries.Pairwise fun left right => same left.1 right.1 = false) :
    ofListBy same entries = entries := by
  induction entries using List.reverseRecOn with
  | nil => rfl
  | append_singleton entries entry ih =>
      obtain ⟨before, _, apart⟩ := List.pairwise_append.mp distinct
      rw [ofListBy_concat, ih before]
      exact insertBy_of_new fun other member => apart other member entry List.mem_cons_self

section

variable {κ' ν' : Type} {same' : κ' → κ' → Bool} {onKey : κ → κ'} {onValue : ν → ν'}

theorem insertBy_map (agree : ∀ entry ∈ built, same' (onKey entry.1) (onKey key) = same entry.1 key) :
    insertBy same' (onKey key) (onValue value) (built.map (Prod.map onKey onValue)) =
      (insertBy same key value built).map (Prod.map onKey onValue) := by
  induction built with
  | nil => rfl
  | cons entry rest ih =>
      obtain ⟨here, later⟩ := List.forall_mem_cons.mp agree
      rw [List.map_cons, insertBy, insertBy, Prod.map_fst, here, ih later]
      split <;> rfl

/-- Keys and values may be changed before or after a mapping is made, if the same keys stay one. -/
theorem ofListBy_map (agree : entries.Pairwise fun left right =>
      same' (onKey left.1) (onKey right.1) = same left.1 right.1) :
    ofListBy same' (entries.map (Prod.map onKey onValue)) =
      (ofListBy same entries).map (Prod.map onKey onValue) := by
  induction entries using List.reverseRecOn with
  | nil => rfl
  | append_singleton entries entry ih =>
      obtain ⟨before, _, here⟩ := List.pairwise_append.mp agree
      have known (other : κ × ν) (member : other ∈ ofListBy same entries) :
          same' (onKey other.1) (onKey entry.1) = same other.1 entry.1 := by
        obtain ⟨origin, listed, named⟩ := List.mem_map.mp (mem_of_mem_ofListBy member).1
        rw [← named]
        exact here origin listed entry List.mem_cons_self
      rw [List.map_append, List.map_singleton, ofListBy_concat, ofListBy_concat, ih before]
      exact insertBy_map known

end

end

/-! ### Keys that are one only if they are equal -/

section

variable {α β : Type} [BEq α] [LawfulBEq α] [BEq β] [LawfulBEq β] {items : List α} {item : α}

theorem eraseDups_concat_of_mem (known : item ∈ items) :
    (items ++ [item]).eraseDups = items.eraseDups := by
  simp [List.eraseDups_append, List.removeAll, known]

theorem eraseDups_concat_of_not_mem (new : item ∉ items) :
    (items ++ [item]).eraseDups = items.eraseDups ++ [item] := by
  simp [List.eraseDups_append, List.removeAll, new, List.eraseDups_cons]

theorem nodup_eraseDups (items : List α) : items.eraseDups.Nodup := by
  induction items using List.reverseRecOn with
  | nil => exact List.nodup_nil
  | append_singleton items item ih =>
      by_cases known : item ∈ items
      · rwa [eraseDups_concat_of_mem known]
      · rw [eraseDups_concat_of_not_mem known, List.nodup_append]
        refine ⟨ih, List.pairwise_singleton _ item, fun left inLeft right inRight same => known ?_⟩
        rw [← List.mem_singleton.mp inRight, ← same]
        exact List.mem_eraseDups.mp inLeft

/-- Items that are one may be left out before or after a change. -/
theorem eraseDups_map_eraseDups (change : α → β) (items : List α) :
    (items.eraseDups.map change).eraseDups = (items.map change).eraseDups := by
  induction items using List.reverseRecOn with
  | nil => rfl
  | append_singleton items item ih =>
      rw [List.map_append, List.map_singleton]
      by_cases known : item ∈ items
      · rw [eraseDups_concat_of_mem known, ih, eraseDups_concat_of_mem (List.mem_map_of_mem known)]
      · rw [eraseDups_concat_of_not_mem known, List.map_append, List.map_singleton]
        have sameItems : change item ∈ items.eraseDups.map change ↔ change item ∈ items.map change := by
          simp only [List.mem_map, List.mem_eraseDups]
        by_cases met : change item ∈ items.map change
        · rw [eraseDups_concat_of_mem (sameItems.mpr met), eraseDups_concat_of_mem met, ih]
        · rw [eraseDups_concat_of_not_mem (mt sameItems.mp met), eraseDups_concat_of_not_mem met, ih]

end

theorem ofList_concat {κ ν : Type} [BEq κ] (entries : List (κ × ν)) (entry : κ × ν) :
    ofList (entries ++ [entry]) = insert entry.1 entry.2 (ofList entries) :=
  ofListBy_concat entries entry

section

variable {κ ν : Type} [BEq κ] [LawfulBEq κ] {key other : κ} {value : ν} {entries : List (κ × ν)}

theorem insert_of_new (new : key ∉ entries.map Prod.fst) :
    insert key value entries = entries ++ [(key, value)] := by
  refine insertBy_of_new fun entry member => beq_eq_false_iff_ne.mpr fun same => new ?_
  exact same ▸ List.mem_map_of_mem (f := Prod.fst) member

theorem lookup_of_mem (distinct : (entries.map Prod.fst).Nodup)
    (listed : (key, value) ∈ entries) : entries.lookup key = some value := by
  induction entries with
  | nil => cases listed
  | cons entry entries ih =>
      rw [List.map_cons, List.nodup_cons] at distinct
      rw [List.lookup_cons]
      rcases List.mem_cons.1 listed with rfl | behind
      · rw [beq_self_eq_true]
      · have other : (key == entry.1) = false := beq_eq_false_iff_ne.2 fun same =>
          distinct.1 (same ▸ List.mem_map_of_mem (f := Prod.fst) behind)
        rw [other]
        exact ih distinct.2 behind

theorem insert_keys_of_mem (known : key ∈ entries.map Prod.fst) :
    (insert key value entries).map Prod.fst = entries.map Prod.fst := by
  obtain ⟨entry, listed, rfl⟩ := List.mem_map.mp known
  exact keys_insertBy_of_known ⟨entry, listed, beq_self_eq_true entry.1⟩

theorem lookup_insert (entries : List (κ × ν)) :
    (insert key value entries).lookup other =
      if other == key then some value else entries.lookup other := by
  induction entries with
  | nil =>
      change List.lookup other [(key, value)] = _
      rw [List.lookup_cons]
      cases other == key <;> rfl
  | cons entry rest ih =>
      change (if (entry.1 == key) = true then (entry.1, value) :: rest
        else entry :: insert key value rest).lookup other = _
      by_cases here : entry.1 = key
      · subst here
        rw [beq_self_eq_true, if_pos rfl, List.lookup_cons, List.lookup_cons]
        cases other == entry.1 <;> rfl
      · rw [beq_eq_false_iff_ne.mpr here, if_neg Bool.false_ne_true, List.lookup_cons,
          List.lookup_cons, ih]
        by_cases asked : other = entry.1
        · have apart : (other == key) = false := beq_eq_false_iff_ne.mpr (asked ▸ here)
          rw [apart, if_neg Bool.false_ne_true, if_neg Bool.false_ne_true]
        · rw [beq_eq_false_iff_ne.mpr asked]

/-- The keys of a mapping are those of its entries, each where it came first. -/
theorem keys_ofList (entries : List (κ × ν)) :
    (ofList entries).map Prod.fst = (entries.map Prod.fst).eraseDups := by
  induction entries using List.reverseRecOn with
  | nil => rfl
  | append_singleton entries entry ih =>
      rw [ofList_concat, List.map_append, List.map_singleton]
      by_cases known : entry.1 ∈ entries.map Prod.fst
      · have kept : entry.1 ∈ (ofList entries).map Prod.fst := by
          rwa [ih, List.mem_eraseDups]
        rw [insert_keys_of_mem kept, eraseDups_concat_of_mem known, ih]
      · have new : entry.1 ∉ (ofList entries).map Prod.fst := by
          rwa [ih, List.mem_eraseDups]
        rw [insert_of_new new, eraseDups_concat_of_not_mem known, List.map_append, ih,
          List.map_singleton]

/-- Under a key of a mapping stands the last value that was put there. -/
theorem lookup_ofList (entries : List (κ × ν)) (key : κ) :
    (ofList entries).lookup key = entries.reverse.lookup key := by
  induction entries using List.reverseRecOn with
  | nil => rfl
  | append_singleton entries entry ih =>
      rw [ofList_concat, lookup_insert, ih, List.reverse_append, List.reverse_singleton,
        List.singleton_append, List.lookup_cons]
      cases key == entry.1 <;> rfl

theorem nodup_keys_ofList (entries : List (κ × ν)) : ((ofList entries).map Prod.fst).Nodup :=
  keys_ofList entries ▸ nodup_eraseDups (entries.map Prod.fst)

theorem ofList_of_nodup (distinct : (entries.map Prod.fst).Nodup) : ofList entries = entries :=
  ofListBy_of_distinct ((List.pairwise_map.mp distinct).imp beq_eq_false_iff_ne.mpr)

theorem mem_of_mem_ofList {entry : κ × ν} (kept : entry ∈ ofList entries) : entry ∈ entries := by
  have found := lookup_of_mem (nodup_keys_ofList entries) kept
  rw [lookup_ofList] at found
  obtain ⟨front, behind, split, _⟩ := List.lookup_eq_some_iff.mp found
  rw [← List.mem_reverse, split]
  exact List.mem_append_right front List.mem_cons_self

theorem map_lookup (distinct : (entries.map Prod.fst).Nodup) :
    (entries.map Prod.fst).map (fun key => (key, entries.lookup key)) =
      entries.map fun entry => (entry.1, some entry.2) := by
  rw [List.map_map]
  exact List.map_congr_left fun entry listed => Prod.ext rfl (lookup_of_mem distinct listed)

/-- Mappings with the same keys in the same places are one if they have the same values. -/
theorem eq_of_lookup_eq {left right : List (κ × ν)} (distinct : (left.map Prod.fst).Nodup)
    (keys : left.map Prod.fst = right.map Prod.fst)
    (values : ∀ key, left.lookup key = right.lookup key) : left = right := by
  have told := map_lookup distinct
  simp only [keys, values] at told
  rw [map_lookup (keys ▸ distinct)] at told
  exact ((List.map_inj_right (by simp [Prod.ext_iff])).mp told).symm

theorem lookup_eq_head?_filter (entries : List (κ × ν)) (key : κ) :
    entries.lookup key = (entries.filter (·.1 == key)).head?.map Prod.snd := by
  induction entries with
  | nil => rfl
  | cons entry rest ih =>
      rw [List.lookup_cons, List.filter_cons, BEq.comm]
      cases entry.1 == key with
      | true => rfl
      | false => exact ih

theorem lookup_reverse (entries : List (κ × ν)) (key : κ) :
    entries.reverse.lookup key = (entries.filter (·.1 == key)).getLast?.map Prod.snd := by
  rw [lookup_eq_head?_filter, List.filter_reverse, List.head?_reverse]

theorem filter_insert (keep : κ → Bool) (entries : List (κ × ν)) :
    (insert key value entries).filter (keep ·.1) =
      if keep key then insert key value (entries.filter (keep ·.1)) else entries.filter (keep ·.1) := by
  induction entries with
  | nil =>
      change [(key, value)].filter (keep ·.1) = _
      rw [List.filter_cons]
      rfl
  | cons entry rest ih =>
      change (if (entry.1 == key) = true then (entry.1, value) :: rest
        else entry :: insert key value rest).filter (keep ·.1) = _
      by_cases here : entry.1 = key
      · subst here
        rw [beq_self_eq_true, if_pos rfl, List.filter_cons, List.filter_cons]
        cases keep entry.1 with
        | true =>
            change _ = if (entry.1 == entry.1) = true then _ else _
            rw [beq_self_eq_true]
            rfl
        | false => rfl
      · rw [beq_eq_false_iff_ne.mpr here, if_neg Bool.false_ne_true, List.filter_cons, ih,
          List.filter_cons]
        cases keep entry.1 with
        | true =>
            cases keep key with
            | true =>
                change _ = if (entry.1 == key) = true then _ else _
                rw [beq_eq_false_iff_ne.mpr here]
                rfl
            | false => rfl
        | false => rfl

/-- Entries may be left out by their keys before or after a mapping is made. -/
theorem filter_ofList (keep : κ → Bool) (entries : List (κ × ν)) :
    (ofList entries).filter (keep ·.1) = ofList (entries.filter (keep ·.1)) := by
  induction entries using List.reverseRecOn with
  | nil => rfl
  | append_singleton entries entry ih =>
      rw [ofList_concat, filter_insert, ih, List.filter_append, List.filter_cons, List.filter_nil]
      cases keep entry.1 with
      | true => exact (ofList_concat (entries.filter (keep ·.1)) entry).symm
      | false => exact congrArg ofList (List.append_nil (entries.filter (keep ·.1))).symm

/-- The last value of a mapping is that under the key which was new last. -/
theorem getLast?_ofList (entries : List (κ × ν)) :
    (ofList entries).getLast?.map Prod.snd =
      (entries.map Prod.fst).eraseDups.getLast?.bind fun key => entries.reverse.lookup key := by
  rw [← keys_ofList, List.getLast?_map]
  simp only [← lookup_ofList]
  cases last : (ofList entries).getLast? with
  | none => rfl
  | some entry =>
      exact (lookup_of_mem (nodup_keys_ofList entries) (List.mem_of_getLast? last)).symm

/-- A mapping holds what its entries say: each key stands where it came first, with the value that came
last. -/
structure IsMadeOf (mapping entries : List (κ × ν)) : Prop where
  keys : mapping.map Prod.fst = (entries.map Prod.fst).eraseDups
  values : ∀ key, mapping.lookup key = entries.reverse.lookup key

theorem isMadeOf_ofList (entries : List (κ × ν)) : IsMadeOf (ofList entries) entries :=
  ⟨keys_ofList entries, lookup_ofList entries⟩

end

end EntityScaffold.Ordered
