import Mathlib.Data.List.Basic

namespace Termite.Go

/-!
# Go maps as association lists

A Go `map[K]V` is modelled by a list of key/value pairs read with `List.lookup`.  The two
writes the code performs are `mapSet` (`m[k] = v`) and `mapDelete` (`delete(m, k)`); both keep
at most one entry per key, and `lookup_mapSet` / `lookup_mapDelete` are all later proofs use.
Iteration order, which Go leaves unspecified, is the list order.
-/

section Defs

variable {α β : Type} [BEq α]

/-- `m[k] = v`. -/
def mapSet (k : α) (v : β) (m : List (α × β)) : List (α × β) :=
  (k, v) :: m.filter (fun p => p.1 != k)

/-- `delete(m, k)`. -/
def mapDelete (k : α) (m : List (α × β)) : List (α × β) :=
  m.filter (fun p => p.1 != k)

theorem lookup_append (l₁ l₂ : List (α × β)) (k : α) :
    (l₁ ++ l₂).lookup k = (l₁.lookup k).or (l₂.lookup k) := by
  induction l₁ with
  | nil => rfl
  | cons p l ih =>
    obtain ⟨k', v⟩ := p
    simp only [List.cons_append, List.lookup_cons]
    split <;> simp [ih]

end Defs

/-! The key type's `==` is lawful; the lemmas read it back as `=`. -/

variable {α β : Type} [BEq α] [LawfulBEq α]

theorem lookup_cons_ne {k m : α} {v : β} {l : List (α × β)} (h : m ≠ k) :
    ((k, v) :: l).lookup m = l.lookup m := by
  simp only [List.lookup_cons, beq_false_of_ne h]

/-- Writing entries with distinct keys, none already present, prepends them. -/
theorem foldl_mapSet (l acc : List (α × β)) (h : (l.map Prod.fst ++ acc.map Prod.fst).Nodup) :
    l.foldl (fun m p => mapSet p.1 p.2 m) acc = l.reverse ++ acc := by
  induction l generalizing acc with
  | nil => rfl
  | cons p l ih =>
    have hp : p.1 ∉ l.map Prod.fst ++ acc.map Prod.fst := (List.nodup_cons.mp h).1
    have hacc : acc.filter (fun q => q.1 != p.1) = acc := by
      refine List.filter_eq_self.mpr fun q hq => ?_
      have : q.1 ≠ p.1 := fun hq' => hp (List.mem_append_right _ (hq' ▸ List.mem_map_of_mem _ hq))
      simpa using this
    rw [List.foldl_cons, mapSet, hacc, ih]
    · simp
    · simp only [List.map_cons, List.cons_append] at h ⊢
      exact List.perm_middle.nodup_iff.mpr h

variable [DecidableEq α]

@[simp] theorem lookup_mapDelete (k m : α) (l : List (α × β)) :
    (mapDelete k l).lookup m = if m = k then none else l.lookup m := by
  induction l with
  | nil => simp [mapDelete]
  | cons p l ih =>
    obtain ⟨k', v⟩ := p
    unfold mapDelete at ih ⊢
    by_cases h1 : k' = k
    · subst h1
      rw [List.filter_cons_of_neg (by simp), ih]
      split <;> simp_all [lookup_cons_ne]
    · rw [List.filter_cons_of_pos (by simpa using h1)]
      by_cases h2 : m = k'
      · subst h2; simp [h1]
      · rw [lookup_cons_ne h2, ih, lookup_cons_ne h2]

@[simp] theorem lookup_mapSet (k m : α) (v : β) (l : List (α × β)) :
    (mapSet k v l).lookup m = if m = k then some v else l.lookup m := by
  by_cases h : m = k
  · subst h; simp [mapSet]
  · rw [mapSet, lookup_cons_ne h]
    exact (lookup_mapDelete k m l).trans (if_neg h) |>.trans (if_neg h).symm

/-- After a run of writes, a key holds the value of its last write, or what it held before. -/
theorem lookup_foldl_mapSet (l acc : List (α × β)) (k : α) :
    (l.foldl (fun m p => mapSet p.1 p.2 m) acc).lookup k =
      ((l.reverse.find? fun p => p.1 == k).map Prod.snd).or (acc.lookup k) := by
  induction l generalizing acc with
  | nil => rfl
  | cons p l ih =>
    rw [List.foldl_cons, ih, lookup_mapSet, List.reverse_cons, List.find?_append, List.find?_singleton]
    cases hl : l.reverse.find? fun p => p.1 == k
    · by_cases h : k = p.1
      · simp [h]
      · simp [h, Ne.symm h]
    · rfl

/-- **Every write survives a run** iff no two writes of the run give one key two values. -/
theorem foldl_mapSet_keeps_iff (l acc : List (α × β)) :
    (∀ p ∈ l, (l.foldl (fun m p => mapSet p.1 p.2 m) acc).lookup p.1 = some p.2) ↔
      ∀ p ∈ l, ∀ q ∈ l, p.1 = q.1 → p.2 = q.2 := by
  constructor
  · intro h p hp q hq hpq
    have := h q hq
    rwa [← hpq, h p hp, Option.some.injEq] at this
  · intro h p hp
    rw [lookup_foldl_mapSet]
    -- the last write of `p`'s key gives it `p`'s value
    obtain ⟨q, hq⟩ : ∃ q, (l.reverse.find? fun q => q.1 == p.1) = some q :=
      Option.isSome_iff_exists.mp (List.find?_isSome.mpr ⟨p, List.mem_reverse.mpr hp, by simp⟩)
    have hkey : q.1 = p.1 := by simpa using List.find?_some hq
    rw [hq, Option.map_some', Option.or_some, h q (List.mem_reverse.mp (List.mem_of_find?_eq_some hq)) p hp hkey]

end Termite.Go
