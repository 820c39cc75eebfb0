namespace QueryDraft

abbrev Keyed (α : Type) := List (String × α)

namespace Keyed

variable {α : Type}

/-- A repeated name keeps its first position and takes the last value. -/
def put (key : String) (value : α) : Keyed α → Keyed α
  | [] => [(key, value)]
  | (k, v) :: rest => if k = key then (key, value) :: rest else (k, v) :: put key value rest

def update (base news : Keyed α) : Keyed α := news.foldl (fun acc x => put x.1 x.2 acc) base

def ofList (xs : List (String × α)) : Keyed α := update [] xs

theorem lookup_cons (x : String × α) (xs : Keyed α) (k : String) :
    List.lookup k (x :: xs) = if k = x.1 then some x.2 else List.lookup k xs := by
  rw [List.lookup_cons]
  by_cases h : k = x.1
  · simp [h]
  · simp [h, beq_eq_false_iff_ne.mpr h]

theorem lookup_put (key : String) (value : α) (xs : Keyed α) (k : String) :
    List.lookup k (put key value xs) = if k = key then some value else List.lookup k xs := by
  induction xs with
  | nil => simp only [put, lookup_cons]
  | cons x rest ih =>
    obtain ⟨k', v⟩ := x
    by_cases h' : k' = key
    · simp only [put, h', if_true, lookup_cons]
      split <;> simp_all
    · simp only [put, h', if_false, lookup_cons, ih]
      by_cases h : k = k'
      · simp [h, h']
      · simp [h]

theorem lookup_update (base news : Keyed α) (k : String) :
    List.lookup k (update base news) = (List.lookup k news.reverse).or (List.lookup k base) := by
  induction news generalizing base with
  | nil => rfl
  | cons x rest ih =>
    have hu : update base (x :: rest) = update (put x.1 x.2 base) rest := rfl
    rw [hu, ih, lookup_put, List.reverse_cons, List.lookup_append, Option.or_assoc, lookup_cons]
    by_cases h : k = x.1
    · simp [h]
    · simp [h]

theorem lookup_eq_none {xs : Keyed α} {k : String} (h : k ∉ xs.map Prod.fst) :
    List.lookup k xs = none := by
  rw [List.lookup_eq_none_iff]
  intro x hx
  rw [bne_iff_ne]
  exact fun he => h (he ▸ List.mem_map_of_mem hx)

theorem lookup_reverse {xs : Keyed α} (h : (xs.map Prod.fst).Nodup) (k : String) :
    List.lookup k xs.reverse = List.lookup k xs := by
  induction xs with
  | nil => rfl
  | cons x rest ih =>
    obtain ⟨hx, hr⟩ := List.nodup_cons.mp h
    rw [List.reverse_cons, List.lookup_append, ih hr, lookup_cons, lookup_cons]
    by_cases he : k = x.1
    · rw [if_pos he, if_pos he, lookup_eq_none (he ▸ hx), Option.none_or]
    · rw [if_neg he, if_neg he, List.lookup_nil, Option.or_none]

theorem keys_put (key : String) (value : α) (xs : Keyed α) :
    (put key value xs).map Prod.fst =
      if key ∈ xs.map Prod.fst then xs.map Prod.fst else xs.map Prod.fst ++ [key] := by
  induction xs with
  | nil => simp [put]
  | cons x rest ih =>
    obtain ⟨k', v⟩ := x
    by_cases h : k' = key
    · simp [put, h]
    · have h' : ¬ key = k' := fun e => h e.symm
      simp only [put, h, if_false, List.map_cons, ih, List.mem_cons, h', false_or]
      by_cases hm : key ∈ rest.map Prod.fst <;> simp [hm]

theorem nodup_keys_put (key : String) (value : α) {xs : Keyed α} (h : (xs.map Prod.fst).Nodup) :
    ((put key value xs).map Prod.fst).Nodup := by
  rw [keys_put]
  split
  · exact h
  · next hk =>
    refine List.nodup_append.mpr ⟨h, by simp, ?_⟩
    intro k hm k' hm'
    obtain rfl := List.mem_singleton.mp hm'
    exact fun he => hk (he ▸ hm)

theorem nodup_keys_update {base : Keyed α} (h : (base.map Prod.fst).Nodup) (news : Keyed α) :
    ((update base news).map Prod.fst).Nodup := by
  induction news generalizing base with
  | nil => exact h
  | cons x rest ih => exact ih (nodup_keys_put x.1 x.2 h)

theorem nodup_keys_ofList (xs : List (String × α)) : ((ofList xs).map Prod.fst).Nodup :=
  @nodup_keys_update α [] List.nodup_nil xs

theorem mem_put {key : String} {value : α} {xs : Keyed α} {x : String × α}
    (h : x ∈ put key value xs) : x = (key, value) ∨ x ∈ xs := by
  induction xs with
  | nil => exact .inl (List.mem_singleton.mp h)
  | cons y rest ih =>
    by_cases hk : y.1 = key
    · rw [put, if_pos hk] at h
      rcases List.mem_cons.mp h with h | h
      · exact .inl h
      · exact .inr (List.mem_cons_of_mem y h)
    · rw [put, if_neg hk] at h
      rcases List.mem_cons.mp h with h | h
      · exact .inr (h ▸ List.mem_cons_self)
      · exact (ih h).imp_right (List.mem_cons_of_mem y)

theorem mem_update {base news : Keyed α} {x : String × α} (h : x ∈ update base news) :
    x ∈ base ∨ x ∈ news := by
  induction news generalizing base with
  | nil => exact .inl h
  | cons y rest ih =>
    rcases ih h with h | h
    · rcases mem_put h with h | h
      · exact .inr (List.mem_cons.mpr (.inl h))
      · exact .inl h
    · exact .inr (List.mem_cons_of_mem y h)

theorem mem_ofList {xs : List (String × α)} {x : String × α} (h : x ∈ ofList xs) : x ∈ xs :=
  (mem_update h).resolve_left List.not_mem_nil

end Keyed

end QueryDraft
