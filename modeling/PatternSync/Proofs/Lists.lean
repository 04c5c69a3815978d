import Mathlib.Data.List.Forall2

/-!
# Lists, optional values and texts

General facts: a result that is known to be there, related optional values and lists, a list that
got one more entry at its end, and the character with which a text ends.
-/

namespace PatternSync

/-! ## Results -/

theorem exists_ok_of_isOk {ε α : Type} {r : Except ε α} (h : r.isOk = true) : ∃ a, r = .ok a := by
  cases r with
  | ok a => exact ⟨a, rfl⟩
  | error e => cases h

/-! ## Optional values -/

theorem optionRel_refl {α : Type} {R : α → α → Prop} (h : ∀ a, R a a) (o : Option α) :
    Option.Rel R o o := by
  cases o with
  | none => exact .none
  | some a => exact .some (h a)

theorem isSome_eq_of_rel {α β : Type} {R : α → β → Prop} {a : Option α} {b : Option β}
    (h : Option.Rel R a b) : a.isSome = b.isSome := by
  cases h with
  | some _ => rfl
  | none => rfl

theorem optionRel_imp_map {α β γ δ : Type} {R : β → γ → Prop} {S : α → δ → Prop} {f : α → β}
    {g : γ → δ} {a : Option α} {b : Option γ} (h : Option.Rel R (a.map f) b)
    (himp : ∀ x ∈ a, ∀ y ∈ b, R (f x) y → S x (g y)) : Option.Rel S a (b.map g) := by
  cases a with
  | none =>
    cases h
    exact .none
  | some x =>
    cases h with
    | some hxy => exact .some (himp x rfl _ rfl hxy)

/-! ## Lists -/

theorem getElem?_of_forall₂ {α β : Type} {R : α → β → Prop} {as : List α} {bs : List β}
    (h : List.Forall₂ R as bs) (i : Nat) : Option.Rel R as[i]? bs[i]? := by
  induction h generalizing i with
  | nil => exact .none
  | cons hab _ ih =>
    cases i with
    | zero => exact .some hab
    | succ i => exact ih i

theorem forall₂_imp_map {α β γ δ : Type} {R : β → γ → Prop} {S : α → δ → Prop} {f : α → β}
    {g : γ → δ} {as : List α} {bs : List γ} (h : List.Forall₂ R (as.map f) bs)
    (himp : ∀ x ∈ as, ∀ y ∈ bs, R (f x) y → S x (g y)) : List.Forall₂ S as (bs.map g) := by
  induction as generalizing bs with
  | nil =>
    cases h
    exact .nil
  | cons x rest ih =>
    cases h with
    | cons hxy hrest =>
      refine .cons (himp x List.mem_cons_self _ List.mem_cons_self hxy) (ih hrest ?_)
      exact fun x hx y hy => himp x (List.mem_cons_of_mem _ hx) y (List.mem_cons_of_mem _ hy)

/-- Where entries without a value may get one, and others keep theirs, the values stay in order. -/
theorem sublist_filterMap {α β : Type} {f : α → Option β} {before after : List α}
    (h : List.Forall₂ (fun a b => f a = none ∨ f b = f a) before after) :
    (before.filterMap f).Sublist (after.filterMap f) := by
  induction h with
  | nil => exact .slnil
  | @cons a b _ rest hab _ ih =>
    rcases hab with hnone | heq
    · rw [List.filterMap_cons_none hnone]
      exact ih.trans ((List.sublist_cons_self b rest).filterMap f)
    · rw [List.filterMap_cons, List.filterMap_cons, heq]
      cases f a with
      | none => exact ih
      | some x => exact ih.cons_cons x

/-- Where a list that got one more entry is split at an entry. -/
theorem concat_split {α : Type} {items earlier later : List α} {a b : α}
    (h : items ++ [a] = earlier ++ b :: later) :
    (items = earlier ∧ a = b ∧ later = [])
      ∨ ∃ rest, items = earlier ++ b :: rest ∧ later = rest ++ [a] := by
  rcases List.eq_nil_or_concat later with rfl | ⟨rest, last, rfl⟩
  · obtain ⟨hitems, hab⟩ := List.append_inj' h rfl
    exact .inl ⟨hitems, List.singleton_inj.1 hab, rfl⟩
  · have hsnoc : items ++ [a] = (earlier ++ b :: rest) ++ [last] := by
      rw [h]
      simp only [List.concat_eq_append, List.append_assoc, List.cons_append]
    obtain ⟨hitems, hlast⟩ := List.append_inj' hsnoc rfl
    refine .inr ⟨rest, hitems, ?_⟩
    rw [List.concat_eq_append, List.singleton_inj.1 hlast]

theorem eraseDups_of_nodup {names : List String} (h : names.Nodup) : names.eraseDups = names := by
  induction names with
  | nil => rfl
  | cons name rest ih =>
    obtain ⟨hname, hrest⟩ := List.nodup_cons.1 h
    have hothers : rest.filter (fun other => !other == name) = rest :=
      List.filter_eq_self.2 fun other hother => by
        simpa using fun heq : other = name => hname (heq ▸ hother)
    rw [List.eraseDups_cons, hothers, ih hrest]

/-! ## Ends of texts -/

theorem getLast?_toList_append {a b : String} {c : Char} (h : b.toList.getLast? = some c) :
    (a ++ b).toList.getLast? = some c := by
  rw [String.toList_append, List.getLast?_append, h, Option.some_or]

theorem getLast?_intercalate (separator : String) {parts : List String} {c : Char}
    (hne : parts ≠ []) (h : ∀ part ∈ parts, part.toList.getLast? = some c) :
    (separator.intercalate parts).toList.getLast? = some c := by
  induction parts with
  | nil => exact absurd rfl hne
  | cons part rest ih =>
    obtain ⟨hpart, hrest⟩ := List.forall_mem_cons.1 h
    by_cases hnil : rest = []
    · rw [hnil, String.intercalate_singleton, hpart]
    · rw [String.intercalate_cons_of_ne_nil hnil]
      exact getLast?_toList_append (ih hnil hrest)

theorem not_suffix_of_getLast? {s t : List Char} {c d : Char} (hs : s.getLast? = some c)
    (ht : t.getLast? = some d) (h : c ≠ d) : ¬ s <:+ t := by
  rintro ⟨before, rfl⟩
  rw [List.getLast?_append, hs, Option.some_or] at ht
  exact h (Option.some.inj ht)

end PatternSync
