import Termite.Go.Regexp

namespace Termite.Go

/-!
# What `MatchString` decides

`Sem r b w e` is the language of a regular expression with its two anchors: `r` matches the
text `w` at a position that is the start of the whole text iff `b` and that ends where the
whole text ends iff `e`.  The derivative matcher of `Termite.Go.Regexp` decides it:

* `nullable_iff` and `deriv_iff` — one step of the matcher, per constructor.
* `matchPrefix_iff`, `search_iff` — the loops, by induction on the text.
* `matchString_iff` — `MatchString(s)` holds iff some substring of `s` matches, in its context.
-/

namespace Regexp

/-- The language of `r` in context: `Sem r b w e` when `r` matches `w` at a position that is the
    start of the text iff `b` and whose end is the end of the text iff `e`.  A starred iteration
    is non-empty. -/
inductive Sem : Regexp → Bool → List Char → Bool → Prop
  | emptyMatch (b e : Bool) : Sem .emptyMatch b [] e
  | literal (c : Char) (b e : Bool) : Sem (.literal c) b [c] e
  | anyCharNotNL {c : Char} (b e : Bool) (h : c ≠ '\n') : Sem .anyCharNotNL b [c] e
  | charClass {neg : Bool} {rs : List (Char × Char)} {c : Char} (b e : Bool)
      (h : (inRanges c rs != neg) = true) : Sem (.charClass neg rs) b [c] e
  | beginText (e : Bool) : Sem .beginText true [] e
  | endText (b : Bool) : Sem .endText b [] true
  | concat {r s : Regexp} {b e : Bool} {u v : List Char} :
      Sem r b u (e && v.isEmpty) → Sem s (b && u.isEmpty) v e → Sem (.concat r s) b (u ++ v) e
  | alternateLeft {r s : Regexp} {b e : Bool} {w : List Char} : Sem r b w e → Sem (.alternate r s) b w e
  | alternateRight {r s : Regexp} {b e : Bool} {w : List Char} : Sem s b w e → Sem (.alternate r s) b w e
  | starNil (r : Regexp) (b e : Bool) : Sem (.star r) b [] e
  | starCons {r : Regexp} {b e : Bool} {u v : List Char} : u ≠ [] →
      Sem r b u (e && v.isEmpty) → Sem (.star r) false v e → Sem (.star r) b (u ++ v) e
  | plus {r : Regexp} {b e : Bool} {w : List Char} : Sem (.concat r (.star r)) b w e → Sem (.plus r) b w e
  | questNil (r : Regexp) (b e : Bool) : Sem (.quest r) b [] e
  | questSome {r : Regexp} {b e : Bool} {w : List Char} : Sem r b w e → Sem (.quest r) b w e

/-! ### Inversion, one constructor at a time -/

@[simp] theorem isEmpty_append (u v : List Char) : (u ++ v).isEmpty = (u.isEmpty && v.isEmpty) := by
  cases u <;> rfl

@[simp] theorem sem_noMatch_iff {b e : Bool} {w : List Char} : Sem .noMatch b w e ↔ False :=
  iff_false_intro fun h => by cases h

@[simp] theorem sem_emptyMatch_iff {b e : Bool} {w : List Char} : Sem .emptyMatch b w e ↔ w = [] :=
  ⟨fun h => by cases h; rfl, fun h => h ▸ Sem.emptyMatch b e⟩

@[simp] theorem sem_literal_iff {c : Char} {b e : Bool} {w : List Char} :
    Sem (.literal c) b w e ↔ w = [c] :=
  ⟨fun h => by cases h; rfl, fun h => h ▸ Sem.literal c b e⟩

@[simp] theorem sem_anyCharNotNL_iff {b e : Bool} {w : List Char} :
    Sem .anyCharNotNL b w e ↔ ∃ c, w = [c] ∧ c ≠ '\n' :=
  ⟨fun h => by cases h with | anyCharNotNL _ _ h => exact ⟨_, rfl, h⟩,
    fun ⟨_, hw, hc⟩ => hw ▸ Sem.anyCharNotNL b e hc⟩

@[simp] theorem sem_charClass_iff {neg : Bool} {rs : List (Char × Char)} {b e : Bool} {w : List Char} :
    Sem (.charClass neg rs) b w e ↔ ∃ c, w = [c] ∧ (inRanges c rs != neg) = true :=
  ⟨fun h => by cases h with | charClass _ _ h => exact ⟨_, rfl, h⟩,
    fun ⟨_, hw, hc⟩ => hw ▸ Sem.charClass b e hc⟩

@[simp] theorem sem_beginText_iff {b e : Bool} {w : List Char} :
    Sem .beginText b w e ↔ b = true ∧ w = [] :=
  ⟨fun h => by cases h; exact ⟨rfl, rfl⟩, fun ⟨hb, hw⟩ => hb ▸ hw ▸ Sem.beginText e⟩

@[simp] theorem sem_endText_iff {b e : Bool} {w : List Char} :
    Sem .endText b w e ↔ e = true ∧ w = [] :=
  ⟨fun h => by cases h; exact ⟨rfl, rfl⟩, fun ⟨he, hw⟩ => he ▸ hw ▸ Sem.endText b⟩

theorem sem_concat_iff {r s : Regexp} {b e : Bool} {w : List Char} :
    Sem (.concat r s) b w e ↔
      ∃ u v, w = u ++ v ∧ Sem r b u (e && v.isEmpty) ∧ Sem s (b && u.isEmpty) v e :=
  ⟨fun h => by cases h with | concat hr hs => exact ⟨_, _, rfl, hr, hs⟩,
    fun ⟨_, _, hw, hr, hs⟩ => hw ▸ Sem.concat hr hs⟩

theorem sem_alternate_iff {r s : Regexp} {b e : Bool} {w : List Char} :
    Sem (.alternate r s) b w e ↔ Sem r b w e ∨ Sem s b w e :=
  ⟨fun h => by cases h with
    | alternateLeft h => exact Or.inl h
    | alternateRight h => exact Or.inr h,
   fun h => h.elim Sem.alternateLeft Sem.alternateRight⟩

theorem sem_plus_iff {r : Regexp} {b e : Bool} {w : List Char} :
    Sem (.plus r) b w e ↔ Sem (.concat r (.star r)) b w e :=
  ⟨fun h => by cases h with | plus h => exact h, Sem.plus⟩

theorem sem_quest_iff {r : Regexp} {b e : Bool} {w : List Char} :
    Sem (.quest r) b w e ↔ w = [] ∨ Sem r b w e :=
  ⟨fun h => by cases h with
    | questNil => exact Or.inl rfl
    | questSome h => exact Or.inr h,
   fun h => h.elim (fun hw => hw ▸ Sem.questNil r b e) Sem.questSome⟩

/-- A non-empty text matches a star iff a non-empty first iteration does and the star matches
    the rest. -/
theorem sem_star_cons_iff {r : Regexp} {b e : Bool} {c : Char} {w : List Char} :
    Sem (.star r) b (c :: w) e ↔
      ∃ u v, w = u ++ v ∧ Sem r b (c :: u) (e && v.isEmpty) ∧ Sem (.star r) false v e := by
  constructor
  · intro h
    generalize hw : c :: w = w' at h
    cases h with
    | starNil => cases hw
    | @starCons _ _ _ u v hu hr hs =>
      cases u with
      | nil => exact absurd rfl hu
      | cons c' u' =>
        simp only [List.cons_append, List.cons.injEq] at hw
        obtain ⟨rfl, rfl⟩ := hw
        exact ⟨u', v, rfl, hr, hs⟩
  · rintro ⟨u, v, rfl, hr, hs⟩
    exact Sem.starCons (List.cons_ne_nil c u) hr hs

/-- A concatenation matching a non-empty text: its first part matches the empty text there, or
    it takes the first character. -/
theorem sem_concat_cons_iff {r s : Regexp} {b e : Bool} {c : Char} {w : List Char} :
    Sem (.concat r s) b (c :: w) e ↔
      (Sem r b [] false ∧ Sem s b (c :: w) e) ∨
        ∃ u v, w = u ++ v ∧ Sem r b (c :: u) (e && v.isEmpty) ∧ Sem s false v e := by
  rw [sem_concat_iff]
  constructor
  · rintro ⟨_ | ⟨d, u⟩, v, huv, hr, hs⟩
    · simp only [List.nil_append] at huv
      subst huv
      exact Or.inl ⟨by simpa using hr, by simpa using hs⟩
    · simp only [List.cons_append, List.cons.injEq] at huv
      obtain ⟨rfl, rfl⟩ := huv
      exact Or.inr ⟨u, v, rfl, hr, by simpa using hs⟩
  · rintro (⟨hr, hs⟩ | ⟨u, v, rfl, hr, hs⟩)
    · exact ⟨[], c :: w, rfl, by simpa using hr, by simpa using hs⟩
    · exact ⟨c :: u, v, rfl, hr, by simpa using hs⟩

/-! ### One step of the matcher -/

theorem nullable_iff (r : Regexp) (b e : Bool) : r.nullable b e = true ↔ Sem r b [] e := by
  induction r generalizing b e with
  | noMatch => simp only [nullable, Bool.false_eq_true, false_iff]; intro h; cases h
  | emptyMatch => exact ⟨fun _ => Sem.emptyMatch b e, fun _ => rfl⟩
  | literal => simp only [nullable, Bool.false_eq_true, false_iff]; intro h; cases h
  | anyCharNotNL => simp only [nullable, Bool.false_eq_true, false_iff]; intro h; cases h
  | charClass => simp only [nullable, Bool.false_eq_true, false_iff]; intro h; cases h
  | beginText =>
    simp only [nullable]
    exact ⟨fun h => h ▸ Sem.beginText e, fun h => by cases h; rfl⟩
  | endText =>
    simp only [nullable]
    exact ⟨fun h => h ▸ Sem.endText b, fun h => by cases h; rfl⟩
  | concat r s ihr ihs =>
    rw [nullable, Bool.and_eq_true, ihr, ihs, sem_concat_iff]
    constructor
    · rintro ⟨hr, hs⟩; exact ⟨[], [], rfl, by simpa using hr, by simpa using hs⟩
    · rintro ⟨u, v, huv, hr, hs⟩
      obtain ⟨rfl, rfl⟩ := List.append_eq_nil.mp huv.symm
      exact ⟨by simpa using hr, by simpa using hs⟩
  | alternate r s ihr ihs => rw [nullable, Bool.or_eq_true, ihr, ihs, sem_alternate_iff]
  | star r => exact ⟨fun _ => Sem.starNil r b e, fun _ => rfl⟩
  | plus r ih =>
    rw [nullable, ih, sem_plus_iff, sem_concat_iff]
    constructor
    · intro h; exact ⟨[], [], rfl, by simpa using h, Sem.starNil r _ e⟩
    · rintro ⟨u, v, huv, hr, _⟩
      obtain ⟨rfl, rfl⟩ := List.append_eq_nil.mp huv.symm
      simpa using hr
  | quest r => exact ⟨fun _ => Sem.questNil r b e, fun _ => rfl⟩

/-- The derivative of a star, from the derivative of its operand. -/
theorem sem_deriv_star {r : Regexp} {b e : Bool} {c : Char} {w : List Char}
    (ih : ∀ w e, Sem (r.deriv b c) false w e ↔ Sem r b (c :: w) e) :
    Sem (.concat (r.deriv b c) (.star r)) false w e ↔ Sem (.star r) b (c :: w) e := by
  rw [sem_concat_iff, sem_star_cons_iff]
  simp only [Bool.false_and, ih]

theorem deriv_iff (r : Regexp) (b : Bool) (c : Char) (w : List Char) (e : Bool) :
    Sem (r.deriv b c) false w e ↔ Sem r b (c :: w) e := by
  induction r generalizing b w e with
  | noMatch | emptyMatch | beginText | endText => simp [deriv]
  | literal _ | anyCharNotNL | charClass _ _ => simp only [deriv]; split <;> simp_all [and_assoc]
  | concat r s ihr ihs =>
    have hstep : Sem (.concat (r.deriv b c) s) false w e ↔
        ∃ u v, w = u ++ v ∧ Sem r b (c :: u) (e && v.isEmpty) ∧ Sem s false v e := by
      simp only [sem_concat_iff, ihr, Bool.false_and]
    rw [deriv, sem_concat_cons_iff, ← hstep, ← nullable_iff]
    split
    · rw [sem_alternate_iff, ihs]; simp only [*, true_and]; exact or_comm
    · simp only [*, Bool.false_eq_true, false_and, false_or]
  | alternate r s ihr ihs => rw [deriv, sem_alternate_iff, sem_alternate_iff, ihr, ihs]
  | star r ih => exact sem_deriv_star fun w e => ih b w e
  | plus r ih =>
    rw [deriv, sem_deriv_star fun w e => ih b w e, sem_plus_iff, sem_concat_cons_iff, sem_star_cons_iff]
    exact ⟨Or.inr, fun h => h.elim And.right id⟩
  | quest r ih =>
    rw [deriv, ih, sem_quest_iff]
    exact ⟨Or.inr, fun h => h.elim (fun h => absurd h (List.cons_ne_nil c w)) id⟩

/-! ### The loops -/

/-- **The prefix loop.** `matchPrefix r b cs` holds iff a prefix of `cs` matches, ending the text
    iff it is all of `cs`. -/
theorem matchPrefix_iff (r : Regexp) (b : Bool) (cs : List Char) :
    r.matchPrefix b cs = true ↔ ∃ u v, cs = u ++ v ∧ Sem r b u v.isEmpty := by
  induction cs generalizing r b with
  | nil =>
    rw [matchPrefix, nullable_iff]
    constructor
    · intro h; exact ⟨[], [], rfl, h⟩
    · rintro ⟨u, v, huv, h⟩
      obtain ⟨rfl, rfl⟩ := List.append_eq_nil.mp huv.symm
      exact h
  | cons c cs ih =>
    rw [matchPrefix, Bool.or_eq_true, nullable_iff, ih]
    constructor
    · rintro (h | ⟨u, v, rfl, h⟩)
      · exact ⟨[], c :: cs, rfl, h⟩
      · exact ⟨c :: u, v, rfl, (deriv_iff r b c u _).mp h⟩
    · rintro ⟨u, v, huv, h⟩
      cases u with
      | nil => simp only [List.nil_append] at huv; subst huv; exact Or.inl h
      | cons d u' =>
        simp only [List.cons_append, List.cons.injEq] at huv
        obtain ⟨rfl, rfl⟩ := huv
        exact Or.inr ⟨u', v, rfl, (deriv_iff r b c u' _).mpr h⟩

/-- **The search loop.** `search r b cs` holds iff some substring of `cs` matches in its context;
    `b` says whether `cs` starts the text. -/
theorem search_iff (r : Regexp) (b : Bool) (cs : List Char) :
    r.search b cs = true ↔ ∃ p u v, cs = p ++ u ++ v ∧ Sem r (b && p.isEmpty) u v.isEmpty := by
  induction cs generalizing b with
  | nil =>
    rw [search, matchPrefix_iff]
    constructor
    · rintro ⟨u, v, huv, h⟩; exact ⟨[], u, v, huv, by simpa using h⟩
    · rintro ⟨p, u, v, huv, h⟩
      obtain ⟨hp, rfl, rfl⟩ : p = [] ∧ u = [] ∧ v = [] := by simpa using huv.symm
      subst hp
      exact ⟨[], [], rfl, by simpa using h⟩
  | cons c cs ih =>
    rw [search, Bool.or_eq_true, matchPrefix_iff, ih]
    constructor
    · rintro (⟨u, v, huv, h⟩ | ⟨p, u, v, rfl, h⟩)
      · exact ⟨[], u, v, huv, by simpa using h⟩
      · exact ⟨c :: p, u, v, rfl, by simpa using h⟩
    · rintro ⟨p, u, v, huv, h⟩
      cases p with
      | nil => exact Or.inl ⟨u, v, huv, by simpa using h⟩
      | cons d p' =>
        simp only [List.cons_append, List.cons.injEq] at huv
        obtain ⟨rfl, rfl⟩ := huv
        exact Or.inr ⟨p', u, v, rfl, by simpa using h⟩

/-- **`MatchString`.** `r` matches `s` iff some substring of `s` matches it, starting the text
    iff nothing comes before it and ending it iff nothing comes after. -/
theorem matchString_iff (r : Regexp) (s : String) :
    r.matchString s = true ↔ ∃ p u v, s.data = p ++ u ++ v ∧ Sem r p.isEmpty u v.isEmpty := by
  rw [matchString, search_iff]
  simp only [Bool.true_and]

end Regexp

end Termite.Go
