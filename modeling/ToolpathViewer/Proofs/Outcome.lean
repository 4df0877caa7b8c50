import Mathlib.Tactic

/-!
# Outcomes

Computations that may fail, taken apart: one step that succeeded, and a pass of steps that succeeded; and when they succeed at all. Two
computations correspond when they fail together, or succeed with related results.
-/

namespace ToolpathViewer

variable {ε ε' α α' β β' : Type}

/-- A computation behind a result goes on with the result. -/
theorem ok_bind (a : α) (f : α → Except ε β) : (Except.ok a >>= f) = f a := rfl

/-- Two computations in a row succeed when both of them do. -/
theorem bind_eq_ok {x : Except ε α} {f : α → Except ε β} {b : β} :
    (x >>= f) = .ok b ↔ ∃ a, x = .ok a ∧ f a = .ok b := by
  constructor
  · intro h
    cases x with
    | error e => cases h
    | ok a => exact ⟨a, rfl, h⟩
  · rintro ⟨a, rfl, h⟩
    exact h

/-- Renaming failures keeps the results. -/
theorem mapError_eq_ok {δ : Type} {x : Except ε α} {f : ε → δ} {a : α} : x.mapError f = .ok a ↔ x = .ok a := by
  cases x <;> simp [Except.mapError]

/-- A result that is there was returned. -/
theorem eq_ok_of_toOption {x : Except ε α} {a : α} (h : x.toOption = some a) : x = .ok a := by
  cases x with
  | error e => cases h
  | ok b => exact congrArg Except.ok (Option.some.inj h)

/-- A computation that fails does so for one of certain reasons. -/
def FailsOnly (P : ε → Prop) (x : Except ε α) : Prop := ∀ e, x = .error e → P e

namespace FailsOnly

variable {P : ε → Prop}

/-- A result is no failure. -/
theorem ok (a : α) : FailsOnly P (.ok a : Except ε α) := nofun

/-- A failure with the property is such a failure. -/
theorem error {e : ε} (h : P e) : FailsOnly P (.error e : Except ε α) := fun _ heq => Except.error.inj heq ▸ h

/-- Two computations in a row fail only as each of them does. -/
theorem bind {x : Except ε α} {f : α → Except ε β} (h : FailsOnly P x) (hf : ∀ a, FailsOnly P (f a)) : FailsOnly P (x >>= f) := by
  intro e heq
  cases x with
  | error e' => exact h e (congrArg Except.error (Except.error.inj heq))
  | ok a => exact hf a e heq

/-- A pass over a list fails only as its steps do. -/
theorem foldlM {f : β → α → Except ε β} (hf : ∀ b a, FailsOnly P (f b a)) (as : List α) (b : β) : FailsOnly P (as.foldlM f b) := by
  induction as generalizing b with
  | nil => exact ok b
  | cons a as ih =>
    rw [List.foldlM_cons]
    exact (hf b a).bind ih

end FailsOnly

/-- What holds of the items so far and the state, and is kept by every step that succeeds, is kept by a pass. -/
theorem foldlM_invariant_from {f : β → α → Except ε β} (P : List α → β → Prop) {as : List α}
    (step : ∀ a ∈ as, ∀ seen b b', P seen b → f b a = .ok b' → P (seen ++ [a]) b') {seen : List α} {b b' : β}
    (h : P seen b) (hf : as.foldlM f b = .ok b') : P (seen ++ as) b' := by
  induction as generalizing seen b with
  | nil =>
    obtain rfl := Except.ok.inj hf
    rwa [List.append_nil]
  | cons a as ih =>
    obtain ⟨c, hc, hrest⟩ := bind_eq_ok.1 (List.foldlM_cons (m := Except ε) ▸ hf)
    have hnext := step a List.mem_cons_self seen b c h hc
    have hlast := ih (fun x hx => step x (List.mem_cons_of_mem a hx)) hnext hrest
    rwa [List.append_assoc, List.singleton_append] at hlast

/-- What holds before any item, and is kept by every step that succeeds, holds at the end of a pass. -/
theorem foldlM_invariant {f : β → α → Except ε β} (P : List α → β → Prop) {as : List α}
    (step : ∀ a ∈ as, ∀ seen b b', P seen b → f b a = .ok b' → P (seen ++ [a]) b') {b b' : β}
    (h : P [] b) (hf : as.foldlM f b = .ok b') : P as b' :=
  foldlM_invariant_from P step h hf

/-- What a step gives for each item, where every step succeeds. -/
theorem forall₂_of_mapM {f : α → Except ε β} {as : List α} {bs : List β} (h : as.mapM f = .ok bs) :
    List.Forall₂ (fun a b => f a = .ok b) as bs := by
  induction as generalizing bs with
  | nil =>
    obtain rfl := Except.ok.inj h
    exact .nil
  | cons a as ih =>
    rw [List.mapM_cons] at h
    obtain ⟨b, hb, h⟩ := bind_eq_ok.1 h
    obtain ⟨rest, hrest, h⟩ := bind_eq_ok.1 h
    obtain rfl := Except.ok.inj h
    exact .cons hb (ih hrest)

/-- Where every step succeeds, some item gave what was given. -/
theorem exists_of_mem_mapM {f : α → Except ε β} {as : List α} {bs : List β} (h : as.mapM f = .ok bs) {b : β} (hb : b ∈ bs) :
    ∃ a ∈ as, f a = .ok b := by
  have hpairs := forall₂_of_mapM h
  clear h
  induction hpairs with
  | nil => cases hb
  | cons hgave _ ih =>
    rcases List.mem_cons.1 hb with rfl | hb
    · exact ⟨_, List.mem_cons_self, hgave⟩
    · obtain ⟨a, ha, hgave⟩ := ih hb
      exact ⟨a, List.mem_cons_of_mem _ ha, hgave⟩

/-! ## When there is an outcome -/

/-- Two computations in a row return when the first does, and the second on what it returns. -/
theorem exists_bind_iff {x : Except ε α} {f : α → Except ε β} :
    (∃ b, x >>= f = .ok b) ↔ (∃ a, x = .ok a) ∧ ∀ a, x = .ok a → ∃ b, f a = .ok b := by
  constructor
  · rintro ⟨b, h⟩
    obtain ⟨a, ha, hb⟩ := bind_eq_ok.1 h
    refine ⟨⟨a, ha⟩, fun a' ha' => ?_⟩
    obtain rfl := Except.ok.inj (ha.symm.trans ha')
    exact ⟨b, hb⟩
  · rintro ⟨⟨a, rfl⟩, h⟩
    exact h a rfl

/-- Renaming failures does not change whether there is a result. -/
theorem exists_mapError_iff {δ : Type} {x : Except ε α} {f : ε → δ} : (∃ a, x.mapError f = .ok a) ↔ ∃ a, x = .ok a := by
  simp only [mapError_eq_ok]

/-- A pass returns when each step does that it comes to. -/
theorem exists_foldlM_iff {f : β → α → Except ε β} {as : List α} {b : β} :
    (∃ b', as.foldlM f b = .ok b') ↔
      ∀ seen a rest, as = seen ++ a :: rest → ∀ c, seen.foldlM f b = .ok c → ∃ c', f c a = .ok c' := by
  induction as generalizing b with
  | nil => simp [pure, Except.pure]
  | cons a as ih =>
    rw [List.foldlM_cons, exists_bind_iff]
    constructor
    · rintro ⟨hfirst, hrest⟩ seen a' rest hsplit c hc
      cases seen with
      | nil =>
        obtain ⟨rfl, rfl⟩ := List.cons.inj hsplit
        obtain rfl := Except.ok.inj hc
        exact hfirst
      | cons x seen =>
        obtain ⟨rfl, rfl⟩ := List.cons.inj hsplit
        obtain ⟨d, hd, hc⟩ := bind_eq_ok.1 (List.foldlM_cons (m := Except ε) ▸ hc)
        exact ih.1 (hrest d hd) seen a' rest rfl c hc
    · intro h
      refine ⟨h [] a as rfl b rfl, fun d hd => ih.2 fun seen a' rest hsplit c hc => ?_⟩
      refine h (a :: seen) a' rest (by rw [hsplit]; rfl) c ?_
      rw [List.foldlM_cons, hd]
      exact hc

/-- A pass returns when its items allow it and every state that it comes to does, if these decide together whether a step returns. -/
theorem exists_foldlM_iff_and {f : β → α → Except ε β} {Q : α → Prop} {R : β → α → Prop} {as : List α}
    (h : ∀ c, ∀ a ∈ as, (∃ c', f c a = .ok c') ↔ Q a ∧ R c a) {b : β} :
    (∃ b', as.foldlM f b = .ok b') ↔
      (∀ a ∈ as, Q a) ∧ ∀ seen a rest, as = seen ++ a :: rest → ∀ c, seen.foldlM f b = .ok c → R c a := by
  constructor
  · intro hpass
    have hsteps := exists_foldlM_iff.1 hpass
    refine ⟨fun a ha => ?_, fun seen a rest hsplit c hc => ?_⟩
    · obtain ⟨seen, rest, hsplit⟩ := List.append_of_mem ha
      rw [hsplit, List.foldlM_append] at hpass
      obtain ⟨c, hc⟩ := (exists_bind_iff.1 hpass).1
      exact ((h c a ha).1 (hsteps seen a rest hsplit c hc)).1
    · exact ((h c a (by simp [hsplit])).1 (hsteps seen a rest hsplit c hc)).2
  · rintro ⟨hitems, hstates⟩
    refine exists_foldlM_iff.2 fun seen a rest hsplit c hc => ?_
    have ha : a ∈ as := by simp [hsplit]
    exact (h c a ha).2 ⟨hitems a ha, hstates seen a rest hsplit c hc⟩

/-! ## Passes in another order -/

/-- A step that commutes with all steps in front of it may be the first. -/
theorem foldlM_move {f : β → α → Except ε β} {a : α} {before : List α}
    (hcomm : ∀ x ∈ before, ∀ b, (f b x >>= fun c => f c a) = f b a >>= fun c => f c x) (after : List α) (b : β) :
    (before ++ a :: after).foldlM f b = (a :: (before ++ after)).foldlM f b := by
  induction before generalizing b with
  | nil => rfl
  | cons x before ih =>
    obtain ⟨hx, hbefore⟩ := List.forall_mem_cons.1 hcomm
    calc (x :: before ++ a :: after).foldlM f b
        = f b x >>= fun c => (a :: (before ++ after)).foldlM f c := bind_congr fun c => ih hbefore c
      _ = (f b x >>= fun c => f c a) >>= fun d => (before ++ after).foldlM f d := (bind_assoc _ _ _).symm
      _ = (f b a >>= fun c => f c x) >>= fun d => (before ++ after).foldlM f d := by rw [hx b]
      _ = (a :: (x :: before ++ after)).foldlM f b := bind_assoc _ _ _

/-- Items stand in lanes, some of them in none. Where items that do not share a lane commute, it does not matter in which order a pass
takes the items, as long as those of each lane keep theirs. -/
theorem foldlM_reordered {κ : Type} [DecidableEq κ] {f : β → α → Except ε β} {lane? : α → Option κ}
    (hcomm : ∀ a a', (∀ k, lane? a = some k → lane? a' ≠ some k) → ∀ b, (f b a >>= fun c => f c a') = f b a' >>= fun c => f c a)
    {as as' : List α} (hperm : as.Perm as')
    (hlanes : ∀ k, as'.filter (fun a => lane? a == some k) = as.filter fun a => lane? a == some k) (b : β) :
    as'.foldlM f b = as.foldlM f b := by
  induction as generalizing as' b with
  | nil => rw [hperm.nil_eq]
  | cons a as ih =>
    -- The first item moves to the front: the items that stand before it are in other lanes.
    obtain ⟨before, after, rfl, hfirst⟩ := List.eq_append_cons_of_mem (hperm.subset List.mem_cons_self)
    have hbefore : ∀ k, lane? a = some k → before.filter (fun a => lane? a == some k) = [] := by
      intro k ha
      have hlane := hlanes k
      rw [List.filter_append, List.filter_cons_of_pos (by simp [ha]), List.filter_cons_of_pos (by simp [ha])] at hlane
      cases hnone : before.filter fun a => lane? a == some k with
      | nil => rfl
      | cons x rest =>
        rw [hnone] at hlane
        have hx : x ∈ before.filter fun a => lane? a == some k := hnone ▸ List.mem_cons_self
        rw [(List.cons.inj hlane).1] at hx
        exact absurd (List.mem_filter.1 hx).1 hfirst
    have hmove : ∀ x ∈ before, ∀ b, (f b x >>= fun c => f c a) = f b a >>= fun c => f c x := by
      intro x hx
      refine hcomm x a fun k hxk hak => ?_
      have hmem : x ∈ before.filter fun a => lane? a == some k := List.mem_filter.2 ⟨hx, by simp [hxk]⟩
      rw [hbefore k hak] at hmem
      cases hmem
    have hrest : ∀ k, (before ++ after).filter (fun a => lane? a == some k) = as.filter fun a => lane? a == some k := by
      intro k
      have hlane := hlanes k
      rw [List.filter_append] at hlane ⊢
      by_cases ha : lane? a = some k
      · rw [List.filter_cons_of_pos (by simp [ha]), List.filter_cons_of_pos (by simp [ha]), hbefore k ha] at hlane
        rw [hbefore k ha]
        exact (List.cons.inj hlane).2
      · rwa [List.filter_cons_of_neg (by simpa using ha), List.filter_cons_of_neg (by simpa using ha)] at hlane
    rw [foldlM_move hmove, List.foldlM_cons, List.foldlM_cons]
    exact bind_congr fun c => ih (hperm.trans List.perm_middle).cons_inv hrest c

/-! ## Outcomes of two computations -/

/-- Both computations fail, or both succeed with results that are related. -/
inductive Corresponds (R : α → α' → Prop) : Except ε α → Except ε' α' → Prop where
  | fail (i : ε) (i' : ε') : Corresponds R (.error i) (.error i')
  | ok {a : α} {a' : α'} (h : R a a') : Corresponds R (.ok a) (.ok a')

namespace Corresponds

variable {R : α → α' → Prop} {S : β → β' → Prop} {x : Except ε α} {x' : Except ε' α'}

/-- Of two computations that correspond, one returns when the other does. -/
theorem exists_ok_iff (h : Corresponds R x x') : (∃ a, x = .ok a) ↔ ∃ a', x' = .ok a' := by
  cases h <;> simp

/-- The results of two computations that correspond are related. -/
theorem of_ok {a : α} {a' : α'} (h : Corresponds R (.ok a : Except ε α) (.ok a' : Except ε' α')) : R a a' := by
  cases h with
  | ok h => exact h

/-- What the second computation gives when the first one succeeds. -/
theorem exists_of_ok (h : Corresponds R x x') {a : α} (hx : x = .ok a) : ∃ a', x' = .ok a' ∧ R a a' := by
  subst hx
  cases h with
  | ok h => exact ⟨_, rfl, h⟩

/-- A computation corresponds to itself. -/
theorem refl {R : α → α → Prop} (hR : ∀ a, R a a) (x : Except ε α) : Corresponds R x x := by
  cases x with
  | error i => exact .fail i i
  | ok a => exact .ok (hR a)

/-- Computations correspond that two others stand for which do. -/
theorem join {δ δ' : Type} {T : α → β → Prop} {T' : α' → β' → Prop} {y : Except δ β} {y' : Except δ' β'} (h : Corresponds R x x')
    (hy : Corresponds T x y) (hy' : Corresponds T' x' y') : Corresponds (fun b b' => ∃ a a', R a a' ∧ T a b ∧ T' a' b') y y' := by
  cases h with
  | fail i i' =>
    cases hy
    cases hy'
    exact .fail _ _
  | ok h =>
    cases hy with
    | ok hb =>
      cases hy' with
      | ok hb' => exact .ok ⟨_, _, h, hb, hb'⟩

/-- Renaming failures keeps the correspondence. -/
theorem mapError {δ δ' : Type} (h : Corresponds R x x') (f : ε → δ) (f' : ε' → δ') :
    Corresponds R (x.mapError f) (x'.mapError f') := by
  cases h with
  | fail i i' => exact .fail _ _
  | ok h => exact .ok h

/-- Corresponding computations followed by corresponding ones correspond. -/
theorem bind (h : Corresponds R x x') {f : α → Except ε β} {f' : α' → Except ε' β'}
    (hf : ∀ a a', R a a' → Corresponds S (f a) (f' a')) : Corresponds S (x >>= f) (x' >>= f') := by
  cases h with
  | fail i i' => exact .fail i i'
  | ok h => exact hf _ _ h

/-- Passes over related items correspond when their steps do. -/
theorem foldlM {f : β → α → Except ε β} {f' : β' → α' → Except ε' β'} {as : List α} {as' : List α'} (has : List.Forall₂ R as as')
    (step : ∀ b b' a a', S b b' → R a a' → Corresponds S (f b a) (f' b' a')) {b : β} {b' : β'} (hb : S b b') :
    Corresponds S (as.foldlM f b) (as'.foldlM f' b') := by
  induction has generalizing b b' with
  | nil => exact .ok hb
  | cons ha _ ih =>
    rw [List.foldlM_cons, List.foldlM_cons]
    exact (step b b' _ _ hb ha).bind fun c c' hc => ih hc

end Corresponds

end ToolpathViewer
