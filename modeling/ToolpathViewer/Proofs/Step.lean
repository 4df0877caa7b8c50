import ToolpathViewer.Step

/-!
# Running steps

What a step leaves, for each way in which steps are built. Calls made of these are run by rewriting, and later proofs speak of the
`Turn` that a call leaves and no longer of its parts.
-/

namespace ToolpathViewer.Step

variable {ε σ τ α β : Type}

@[simp] theorem pure_run (a : α) (s : σ) : (pure a : Step ε σ α) s = ⟨.ok a, s, []⟩ := rfl

@[simp] theorem fail_run (f : Fault) (s : σ) : (fail f : Step ε σ α) s = ⟨.error f, s, []⟩ := rfl

@[simp] theorem get_run (s : σ) : (get : Step ε σ σ) s = ⟨.ok s, s, []⟩ := rfl

@[simp] theorem set_run (s s' : σ) : (set s' : Step ε σ Unit) s = ⟨.ok (), s', []⟩ := rfl

@[simp] theorem update_run (f : σ → σ) (s : σ) : (update f : Step ε σ Unit) s = ⟨.ok (), f s, []⟩ := rfl

@[simp] theorem emit_run (e : ε) (s : σ) : (emit e : Step ε σ Unit) s = ⟨.ok (), s, [e]⟩ := rfl

@[simp] theorem emitAll_run (es : List ε) (s : σ) : (emitAll es : Step ε σ Unit) s = ⟨.ok (), s, es⟩ := rfl

@[simp] theorem ofExcept_run (r : Except Fault α) (s : σ) : (ofExcept r : Step ε σ α) s = ⟨r, s, []⟩ := rfl

/-- An attempt returns the outcome of its call. -/
@[simp] theorem attempt_run (x : Step ε σ α) (s : σ) :
    (attempt x) s = ⟨.ok (x s).result, (x s).state, (x s).emitted⟩ := rfl

/-- A call on a part leaves the rest of the state as it was. -/
@[simp] theorem within_run (read : σ → τ) (write : τ → σ → σ) (x : Step ε τ α) (s : σ) :
    (x.within read write) s = ⟨(x (read s)).result, write (x (read s)).state s, (x (read s)).emitted⟩ := rfl

/-- Behind a call that returns, the next one runs where that one has led. -/
theorem bind_of_ok {x : Step ε σ α} {s s' : σ} {a : α} {out : List ε} (h : x s = ⟨.ok a, s', out⟩) (f : α → Step ε σ β) :
    (x >>= f) s = ⟨(f a s').result, (f a s').state, out ++ (f a s').emitted⟩ := by
  change andThen x f s = _
  rw [andThen, h]

/-- Behind a call that fails, nothing runs. -/
theorem bind_of_error {x : Step ε σ α} {s s' : σ} {e : Fault} {out : List ε} (h : x s = ⟨.error e, s', out⟩)
    (f : α → Step ε σ β) : (x >>= f) s = ⟨.error e, s', out⟩ := by
  change andThen x f s = _
  rw [andThen, h]

/-- A call behind another one runs where that one ends, unless that one fails. -/
@[simp] theorem bind_run (x : Step ε σ α) (f : α → Step ε σ β) (s : σ) :
    (x >>= f) s =
      match (x s).result with
      | .error e => ⟨.error e, (x s).state, (x s).emitted⟩
      | .ok a => ⟨(f a (x s).state).result, (f a (x s).state).state, (x s).emitted ++ (f a (x s).state).emitted⟩ := by
  cases hx : x s with
  | mk result s' out =>
    cases result with
    | error e => exact bind_of_error hx f
    | ok a => exact bind_of_ok hx f

/-- Calls that do not fail do not fail one after the other. -/
theorem each_result {f : α → Step ε σ Unit} (h : ∀ a s, (f a s).result = .ok ()) (as : List α) (s : σ) :
    (each f as s).result = .ok () := by
  induction as generalizing s with
  | nil => rfl
  | cons a as ih =>
    change ((f a >>= fun _ => each f as) s).result = .ok ()
    rw [bind_run, h a s]
    exact ih (f a s).state

/-- Handling effects by effects of another machine leaves that machine's state alone. -/
theorem each_of_emits {δ : Type} {handle : δ → Step ε σ Unit} {es : List δ} (h : ∀ e ∈ es, ∃ d, handle e = emit d) (s : σ) :
    ∃ out, each handle es s = ⟨.ok (), s, out⟩ := by
  induction es with
  | nil => exact ⟨[], rfl⟩
  | cons e es ih =>
    obtain ⟨d, hd⟩ := h e List.mem_cons_self
    obtain ⟨out, hout⟩ := ih fun e' he' => h e' (List.mem_cons_of_mem e he')
    refine ⟨d :: out, ?_⟩
    change (handle e >>= fun _ => each handle es) s = _
    rw [hd, bind_of_ok (emit_run d s), hout]
    rfl

/-- A call whose effects are handled by effects changes only its part of the state, and returns what it returned. -/
theorem handling_of_emits {δ : Type} {read : σ → τ} (write : τ → σ → σ) {handle : δ → Step ε σ Unit} {x : Step δ τ α} {s : σ}
    (h : ∀ e ∈ (x (read s)).emitted, ∃ d, handle e = emit d) :
    ∃ out, (x.handling read write handle) s = ⟨(x (read s)).result, write (x (read s)).state s, out⟩ := by
  obtain ⟨out, hout⟩ := each_of_emits h (write (x (read s)).state s)
  refine ⟨out, ?_⟩
  change (each handle (x (read s)).emitted >>= fun _ => ofExcept (x (read s)).result) (write (x (read s)).state s) = _
  rw [bind_of_ok hout, ofExcept_run, List.append_nil]

/-- A call whose effects are handled by effects changes only its part of the state. -/
theorem handling_state {δ : Type} {read : σ → τ} {write : τ → σ → σ} {handle : δ → Step ε σ Unit} {x : Step δ τ α} {s : σ}
    (h : ∀ e ∈ (x (read s)).emitted, ∃ d, handle e = emit d) :
    ((x.handling read write handle) s).state = write (x (read s)).state s := by
  obtain ⟨out, hout⟩ := handling_of_emits write h
  rw [hout]

/-- The last effect is handled where handling the others has led. -/
theorem each_concat {f : α → Step ε σ Unit} {as : List α} {s s' : σ} {out : List ε} (h : each f as s = ⟨.ok (), s', out⟩) (a : α) :
    (each f (as ++ [a]) s).state = (f a s').state := by
  induction as generalizing s out with
  | nil =>
    obtain rfl : s = s' := congrArg Turn.state h
    change ((f a >>= fun _ => each f []) s).state = _
    rw [bind_run]
    cases (f a s).result <;> rfl
  | cons a' as ih =>
    change (f a' >>= fun _ => each f as) s = _ at h
    change ((f a' >>= fun _ => each f (as ++ [a])) s).state = _
    rw [bind_run] at h ⊢
    cases hresult : (f a' s).result with
    | error why =>
      rw [hresult] at h
      cases h
    | ok u =>
      simp only [hresult, Turn.mk.injEq] at h
      obtain ⟨hok, hstate, -⟩ := h
      have hrest : each f as (f a' s).state = ⟨.ok (), s', (each f as (f a' s).state).emitted⟩ := by rw [← hok, ← hstate]
      exact ih hrest

/-- A call whose effects are handled leads where handling them leads. -/
theorem handling_state_eq {δ : Type} (read : σ → τ) (write : τ → σ → σ) (handle : δ → Step ε σ Unit) (x : Step δ τ α) (s : σ) :
    ((x.handling read write handle) s).state = (each handle (x (read s)).emitted (write (x (read s)).state s)).state := by
  change ((each handle (x (read s)).emitted >>= fun _ => ofExcept (x (read s)).result) (write (x (read s)).state s)).state = _
  rw [bind_run]
  cases (each handle (x (read s)).emitted (write (x (read s)).state s)).result <;> rfl

/-- A call whose failure is told leaves what the call itself leaves, and does not fail. -/
theorem reporting_run (failed : Fault → ε) (x : Step ε σ α) (s : σ) :
    ∃ out, (x.reporting failed) s = ⟨.ok (), (x s).state, out⟩ := by
  refine ⟨((x.reporting failed) s).emitted, ?_⟩
  simp only [reporting, andThen, attempt]
  cases (x s).result <;> rfl

/-! ## Where calls lead -/

/-- The call leads from every state to one that stands in a relation to it, whether it fails or not. -/
def Leads (R : σ → σ → Prop) (x : Step ε σ α) : Prop := ∀ s, R s (x s).state

/-- All that the call emits has a property. -/
def Emits (P : ε → Prop) (x : Step ε σ α) : Prop := ∀ s, ∀ e ∈ (x s).emitted, P e

section Leads

variable {R : σ → σ → Prop}

/-- Two calls in a row lead where each of them leads. -/
theorem Leads.bind (trans : ∀ s t u, R s t → R t u → R s u) {x : Step ε σ α} {f : α → Step ε σ β} (hx : x.Leads R)
    (hf : ∀ a, (f a).Leads R) : (x >>= f).Leads R := by
  intro s
  rw [bind_run]
  cases (x s).result with
  | error e => exact hx s
  | ok a => exact trans _ _ _ (hx s) (hf a _)

/-- A call leads on from where the call before it has led. -/
theorem Leads.after (refl : ∀ s, R s s) {f : α → Step ε σ β} (hf : ∀ a, (f a).Leads R) (x : Step ε σ α) (s : σ) :
    R (x s).state ((x >>= f) s).state := by
  rw [bind_run]
  cases (x s).result with
  | error e => exact refl _
  | ok a => exact hf a _

/-- Calls for all items of a list lead where each of them leads. -/
theorem Leads.each (refl : ∀ s, R s s) (trans : ∀ s t u, R s t → R t u → R s u) {f : α → Step ε σ Unit} {as : List α}
    (hf : ∀ a ∈ as, (f a).Leads R) : (each f as).Leads R := by
  induction as with
  | nil => exact refl
  | cons a as ih =>
    exact (hf a List.mem_cons_self).bind trans fun _ => ih fun a' ha' => hf a' (List.mem_cons_of_mem a ha')

/-- Handling effects leads on from where the call itself leads, if handling any of those that it emits does. -/
theorem Leads.handling (refl : ∀ s, R s s) (trans : ∀ s t u, R s t → R t u → R s u) {δ : Type} {P : δ → Prop} {read : σ → τ}
    {write : τ → σ → σ} {handle : δ → Step ε σ Unit} {x : Step δ τ α} (hx : ∀ s, R s (write (x (read s)).state s))
    (hemits : x.Emits P) (hhandle : ∀ e, P e → (handle e).Leads R) : (x.handling read write handle).Leads R := by
  intro s
  have heach : (Step.each handle (x (read s)).emitted).Leads R :=
    Leads.each refl trans fun e he => hhandle e (hemits (read s) e he)
  have hall : (Step.each handle (x (read s)).emitted >>= fun _ => ofExcept (x (read s)).result).Leads R :=
    heach.bind trans fun _ => refl
  exact trans _ _ _ (hx s) (hall (write (x (read s)).state s))

/-- A call whose failure is told leads where the call leads. -/
theorem Leads.reporting (refl : ∀ s, R s s) (trans : ∀ s t u, R s t → R t u → R s u) {x : Step ε σ α} (hx : x.Leads R)
    (failed : Fault → ε) : (x.reporting failed).Leads R := by
  refine Leads.bind trans (x := x.attempt) hx fun r => ?_
  cases r with
  | ok _ => exact refl
  | error _ => exact refl

end Leads

section Emits

variable {P Q : ε → Prop}

/-- What a call emits has every weaker property. -/
theorem Emits.mono {x : Step ε σ α} (hx : x.Emits P) (h : ∀ e, P e → Q e) : x.Emits Q := fun s e he => h e (hx s e he)

/-- Two calls in a row emit what each of them emits. -/
theorem Emits.bind {x : Step ε σ α} {f : α → Step ε σ β} (hx : x.Emits P) (hf : ∀ a, (f a).Emits P) : (x >>= f).Emits P := by
  intro s e he
  have hfirst := hx s
  rw [bind_run] at he
  cases hresult : (x s).result with
  | error why =>
    rw [hresult] at he
    exact hfirst e he
  | ok a =>
    rw [hresult] at he
    rcases List.mem_append.1 he with he | he
    · exact hfirst e he
    · exact hf a _ e he

/-- One of two calls emits what both of them may. -/
theorem Emits.ite (c : Prop) [Decidable c] {x y : Step ε σ α} (hx : x.Emits P) (hy : y.Emits P) : (if c then x else y).Emits P := by
  split
  · exact hx
  · exact hy

/-- A call on a part emits what the call emits. -/
theorem Emits.within {x : Step ε τ α} (hx : x.Emits P) (read : σ → τ) (write : τ → σ → σ) : (x.within read write).Emits P :=
  fun s => hx (read s)

/-- Looking at the state emits nothing. -/
theorem emits_get : (get : Step ε σ σ).Emits P := fun _ _ he => by cases he

/-- Replacing the state emits nothing. -/
theorem emits_set (s : σ) : (set s : Step ε σ Unit).Emits P := fun _ _ he => by cases he

/-- Changing the state emits nothing. -/
theorem emits_update (f : σ → σ) : (update f : Step ε σ Unit).Emits P := fun _ _ he => by cases he

/-- Returning emits nothing. -/
theorem emits_pure (a : α) : (pure a : Step ε σ α).Emits P := fun _ _ he => by cases he

/-- Taking over a result emits nothing. -/
theorem emits_ofExcept (r : Except Fault α) : (ofExcept r : Step ε σ α).Emits P := fun _ _ he => by cases he

/-- An effect that is emitted is all that is emitted. -/
theorem emits_emit {e : ε} (h : P e) : (emit e : Step ε σ Unit).Emits P := fun _ _ he => List.mem_singleton.1 he ▸ h

/-- Effects that are emitted are all that is emitted. -/
theorem emits_emitAll {es : List ε} (h : ∀ e ∈ es, P e) : (emitAll es : Step ε σ Unit).Emits P := fun _ => h

/-- What would be done about effects that are not emitted does not matter. -/
theorem handling_congr {ρ : Type} {P : ρ → Prop} {read : σ → τ} {write : τ → σ → σ} {handle handle' : ρ → Step ε σ Unit}
    {x : Step ρ τ α} (hx : x.Emits P) (h : ∀ e, P e → handle e = handle' e) :
    x.handling read write handle = x.handling read write handle' := by
  have heach : ∀ es : List ρ, (∀ e ∈ es, P e) → each handle es = each handle' es := by
    intro es hes
    induction es with
    | nil => rfl
    | cons e es ih =>
      rw [each, each, h e (hes e List.mem_cons_self), ih fun e' he' => hes e' (List.mem_cons_of_mem e he')]
  funext s
  rw [handling, handling, heach _ (hx (read s))]

end Emits

/-! ## Calls that leave a part of the state alone -/

/-- The call leaves a part of the state as it is, whether it fails or not. -/
def Keeps (part : σ → τ) (x : Step ε σ α) : Prop := ∀ s, part (x s).state = part s

variable {part : σ → τ}

/-- Two calls that keep a part keep it one after the other. -/
theorem Keeps.bind {x : Step ε σ α} {f : α → Step ε σ β} (hx : x.Keeps part) (hf : ∀ a, (f a).Keeps part) :
    (x >>= f).Keeps part :=
  Leads.bind (R := fun s t => part t = part s) (fun _ _ _ h h' => h'.trans h) hx hf

/-- An attempt keeps what the call keeps. -/
theorem Keeps.attempt {x : Step ε σ α} (h : x.Keeps part) : x.attempt.Keeps part := h

/-- Calls for all items of a list keep what each of them keeps. -/
theorem Keeps.each {f : α → Step ε σ Unit} (hf : ∀ a, (f a).Keeps part) (as : List α) : (each f as).Keeps part :=
  Leads.each (R := fun s t => part t = part s) (fun _ => rfl) (fun _ _ _ h h' => h'.trans h) fun a _ => hf a

/-- Handling effects by calls that keep a part leaves that part as the call itself left it. -/
theorem Keeps.handling (part : σ → τ) {δ ρ : Type} {read : σ → ρ} {write : ρ → σ → σ} {handle : δ → Step ε σ Unit}
    (hhandle : ∀ e, (handle e).Keeps part) (x : Step δ ρ α) (s : σ) :
    part ((x.handling read write handle) s).state = part (write (x (read s)).state s) :=
  (Keeps.each hhandle (x (read s)).emitted).bind (fun _ _ => rfl) (write (x (read s)).state s)

end ToolpathViewer.Step
