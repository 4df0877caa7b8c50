import ToolpathViewer.Proofs.Outcome
import ToolpathViewer.Proofs.Step
import ToolpathViewer.Window.Workspace

/-!
# The latest diagnostics

A diagnosis runs beside the window, and texts to diagnose come in at any time: before it has told its diagnostics, between that and its
end, and after its end. One runs at a time, and one text at most waits for it to end. Every text is run or gives way to a later one, the
last one is run, and when nothing runs any more, its diagnostics are what is shown (`latest_diagnostics_shown`). The running window lets a
diagnosis tell and end at once, which is one of the ways in which it can go (`runDiagnosis_eq`).
-/

namespace ToolpathViewer

namespace Diagnosis

/-- The path of a text can be extracted with the settings of a configuration. -/
def Returns (c : Config) (text : String) : Prop :=
  ∃ s e, c.extraction = .ok s ∧ Extraction.ofText s text.toList = .ok e

/-- Whether a text can be diagnosed, as it is evaluated. -/
theorem isSome_pass_iff {c : Config} {text : String} :
    (c.extraction.toOption.bind fun s => (Extraction.ofText s text.toList).toOption).isSome ↔ Returns c text := by
  rw [Option.isSome_iff_exists]
  constructor
  · rintro ⟨e, he⟩
    obtain ⟨s, hs, he⟩ := Option.bind_eq_some_iff.1 he
    exact ⟨s, e, eq_ok_of_toOption hs, eq_ok_of_toOption he⟩
  · rintro ⟨s, e, hs, he⟩
    exact ⟨e, by rw [hs, Except.toOption, Option.bind_some, he, Except.toOption]⟩

instance (c : Config) (text : String) : Decidable (Returns c text) := decidable_of_iff _ isSome_pass_iff

/-- The window shows the diagnostics of a text, beside the text and in it. -/
def ShownIn (text : String) (w : Workspace) : Prop :=
  ∃ s e, w.config.extraction = .ok s ∧ Extraction.ofText s text.toList = .ok e ∧
    w.problems = some (render e.diagnostics.toList) ∧ w.editor.errorLines = Diagnostics.lines e.diagnostics.toList

/-- A diagnosis that runs. -/
structure Worker where
  settings : Extraction.Settings
  text : String
  /-- It has told its diagnostics and is about to end. -/
  told : Bool := false

end Diagnosis

namespace Workspace

open Diagnosis

variable {w : Workspace}

/-- Another window that differs in other things than the diagnosis and what is shown of it. -/
structure SameDiagnosis (w w' : Workspace) : Prop where
  config : w'.config = w.config
  diagnosis : w'.diagnosis = w.diagnosis
  pending : w'.pending = w.pending
  problems : w'.problems = w.problems
  errorLines : w'.editor.errorLines = w.editor.errorLines

/-- What is shown stays shown where the diagnosis does not change. -/
theorem SameDiagnosis.shownIn {w' : Workspace} (h : SameDiagnosis w w') {text : String} (hshown : ShownIn text w) : ShownIn text w' := by
  obtain ⟨s, e, hs, he, hproblems, hlines⟩ := hshown
  exact ⟨s, e, by rw [h.config, hs], he, by rw [h.problems, hproblems], by rw [h.errorLines, hlines]⟩

/-- The diagnosis that is due. -/
def due (w : Workspace) : List Worker :=
  match w.diagnosis with
  | .queued settings text => [{ settings, text }]
  | .idle | .abandoned => []

/-- The diagnosis that is due in a window that comes after this one, unless it is the one that was due before. -/
def begun (w w' : Workspace) : List Worker := if w'.due.map (·.text) = w.due.map (·.text) then [] else w'.due

/-- The window after a diagnosis has told what it found, if anything. -/
def hearing (w : Workspace) (k : Worker) : Workspace :=
  match (Diagnosis.run k.settings k.text).1 with
  | some ds => w.showDiagnostics ds
  | none => w

/-- A text is run at once when nothing runs. -/
theorem diagnose_of_idle {s : Extraction.Settings} (hidle : w.diagnosis = .idle) (hs : w.config.extraction = .ok s) (text : String) :
    (diagnose text w).state = { w with diagnosis := .queued s text, pending := none } := by
  rw [diagnose, Step.bind_run, Step.get_run]
  simp [hidle, hs]

/-- A text that comes while another one runs waits, and takes the place of the one that waited. -/
theorem diagnose_of_queued {s : Extraction.Settings} {text' : String} (hqueued : w.diagnosis = .queued s text') (text : String) :
    (diagnose text w).state = { w with pending := some text } := by
  rw [diagnose, Step.bind_run, Step.get_run]
  simp [hqueued]

/-- When nothing waits, a diagnosis that ends leaves none. -/
theorem diagnosisEnded_of_none (hnone : w.pending = none) : (setOff diagnosisEnded w).state = { w with diagnosis := .idle } := by
  obtain ⟨out, hout⟩ := Step.reporting_run Window.Effect.failed diagnosisEnded w
  rw [setOff, hout]
  simp [diagnosisEnded, hnone]

/-- When a text waits, it is diagnosed next. -/
theorem diagnosisEnded_of_some {s : Extraction.Settings} {text : String} (hsome : w.pending = some text)
    (hs : w.config.extraction = .ok s) :
    (setOff diagnosisEnded w).state = { w with diagnosis := .queued s text, pending := none } := by
  obtain ⟨out, hout⟩ := Step.reporting_run Window.Effect.failed diagnosisEnded w
  rw [setOff, hout]
  have hnext := diagnose_of_idle (w := { w with diagnosis := .idle }) rfl hs text
  simpa [diagnosisEnded, hsome] using hnext

/-- What a diagnosis tells changes what is shown at most. -/
theorem exists_hearing (w : Workspace) (k : Worker) : ∃ problems editor, w.hearing k = { w with problems, editor } := by
  unfold hearing showDiagnostics
  split
  · split
    · exact ⟨w.problems, w.editor, rfl⟩
    · exact ⟨_, _, rfl⟩
  · exact ⟨w.problems, w.editor, rfl⟩

/-- Diagnostics that come while no text waits are shown. -/
theorem shownIn_hearing {k : Worker} (hnone : w.pending = none) (hs : w.config.extraction = .ok k.settings)
    (hreturns : Returns w.config k.text) : ShownIn k.text (w.hearing k) := by
  obtain ⟨s, e, hs', he⟩ := hreturns
  obtain rfl := Except.ok.inj (hs.symm.trans hs')
  have hheard : w.hearing k = { w with
      problems := some (render e.diagnostics.toList), editor := w.editor.markErrors (Diagnostics.lines e.diagnostics.toList) } := by
    simp [hearing, Diagnosis.run, he, showDiagnostics, hnone]
  rw [hheard]
  exact ⟨_, e, hs, he, rfl, distinctLines_of_pairwise (pairwise_distinctLines _)⟩

end Workspace

open Diagnosis

/-- A window, and the diagnoses that run beside it. -/
structure Diagnosing where
  window : Workspace
  workers : List Worker := []
  /-- The texts that were run so far. -/
  started : List String := []
  /-- The texts that waited when another one came. -/
  replaced : List String := []

namespace Diagnosing

/-- What can come next. -/
inductive Move where
  /-- A text is to be diagnosed. -/
  | ask (text : String)
  /-- A diagnosis tells what it has found. -/
  | tell (i : Nat)
  /-- A diagnosis that has told ends. -/
  | finish (i : Nat)
  /-- Something happens that has nothing to do with diagnoses. -/
  | other (f : Workspace → Workspace) (h : ∀ w, Workspace.SameDiagnosis w (f w))

/-- The texts that moves bring to be diagnosed. -/
def asked : List Move → List String
  | [] => []
  | .ask text :: moves => text :: asked moves
  | _ :: moves => asked moves

/-- Another window, with diagnoses that are started. -/
def starting (x : Diagnosing) (window : Workspace) (new : List Worker) : Diagnosing :=
  { x with window, workers := x.workers ++ new, started := x.started ++ new.map (·.text) }

/-- One move. A diagnosis is started when the window has another one than before, or has one again when one has ended. -/
def step (x : Diagnosing) : Move → Diagnosing
  | .ask text =>
    let window := (Workspace.diagnose text x.window).state
    { x with replaced := x.replaced ++ x.window.pending.toList }.starting window (x.window.begun window)
  | .tell i =>
    match x.workers[i]? with
    | some ⟨settings, text, false⟩ =>
      { x with window := x.window.hearing ⟨settings, text, false⟩, workers := x.workers.set i ⟨settings, text, true⟩ }
    | _ => x
  | .finish i =>
    match x.workers[i]? with
    | some ⟨_, _, true⟩ =>
      let window := (Workspace.setOff Workspace.diagnosisEnded x.window).state
      { x with workers := x.workers.eraseIdx i }.starting window window.due
    | _ => x
  | .other f _ => { x with window := f x.window }

/-- Moves one after the other. -/
def run (x : Diagnosing) (moves : List Move) : Diagnosing := moves.foldl step x

/-- The window of the program runs a diagnosis from its start to its end at once. -/
theorem runDiagnosis_eq (w : Workspace) :
    (Workspace.runDiagnosis w).state = (run { window := w, workers := w.due } [.tell 0, .finish 0]).window := by
  rw [Workspace.runDiagnosis, Step.bind_run, Step.get_run]
  cases hdiagnosis : w.diagnosis with
  | idle => simp [run, step, Workspace.due, hdiagnosis]
  | abandoned => simp [run, step, Workspace.due, hdiagnosis]
  | queued settings text =>
    cases hfound : (Diagnosis.run settings text).1 with
    | none => simp [run, step, starting, Workspace.due, Workspace.hearing, hdiagnosis, hfound]
    | some ds => simp [run, step, starting, Workspace.due, Workspace.hearing, hdiagnosis, hfound]

variable {x : Diagnosing}

/-- Where one diagnosis runs, it tells, or nothing happens. -/
theorem tell_of_one {k : Worker} (hworkers : x.workers = [k]) (i : Nat) :
    x.step (.tell i) = x ∨
      x.step (.tell i) = { x with window := x.window.hearing k, workers := [{ k with told := true }] } := by
  obtain ⟨settings, text, told⟩ := k
  cases i with
  | zero =>
    cases told with
    | false => exact Or.inr (by simp [step, hworkers])
    | true => exact Or.inl (by simp [step, hworkers])
  | succ i => exact Or.inl (by simp [step, hworkers])

/-- Where one diagnosis runs, it ends after it has told, and another one may start; or nothing happens. -/
theorem finish_of_one {k : Worker} (hworkers : x.workers = [k]) (i : Nat) :
    x.step (.finish i) = x ∨
      k.told = true ∧ ∃ window, (Workspace.setOff Workspace.diagnosisEnded x.window).state = window ∧
        x.step (.finish i) = starting { x with workers := [] } window window.due := by
  obtain ⟨settings, text, told⟩ := k
  cases i with
  | zero =>
    cases told with
    | false => exact Or.inl (by simp [step, hworkers])
    | true => exact Or.inr ⟨rfl, _, rfl, by simp [step, hworkers]⟩
  | succ i => exact Or.inl (by simp [step, hworkers])

/-- Nothing runs and what was run last is shown; or one diagnosis runs, of the text that was run last, and what it has told is shown
unless another text waits. -/
inductive Standing (x : Diagnosing) : Prop
  | resting (diagnosis : x.window.diagnosis = .idle) (pending : x.window.pending = none) (workers : x.workers = [])
    (shown : ∀ text, x.started.getLast? = some text → ShownIn text x.window)
  | working (k : Worker) (diagnosis : x.window.diagnosis = .queued k.settings k.text) (workers : x.workers = [k])
    (extraction : x.window.config.extraction = .ok k.settings) (latest : x.started.getLast? = some k.text)
    (shown : x.window.pending = none → k.told = true → ShownIn k.text x.window)

namespace Standing

/-- One diagnosis runs at most. -/
theorem one (h : x.Standing) : x.workers.length ≤ 1 := by
  cases h with
  | resting diagnosis pending workers shown => simp [workers]
  | working k diagnosis workers extraction latest shown => simp [workers]

/-- A text waits only while a diagnosis runs. -/
theorem waiting (h : x.Standing) (hpending : x.window.pending.isSome) : x.workers ≠ [] := by
  cases h with
  | resting diagnosis pending workers shown => simp [pending] at hpending
  | working k diagnosis workers extraction latest shown => simp [workers]

end Standing

/-- What is true after texts were asked for: those that were run or wait are some of them in their order, the last one included. -/
structure Kept (c : Config) (texts : List String) (x : Diagnosing) : Prop where
  config : x.window.config = c
  returns : ∀ text ∈ texts, Returns c text
  standing : x.Standing
  sublist : (x.started ++ x.window.pending.toList).Sublist texts
  last : (x.started ++ x.window.pending.toList).getLast? = texts.getLast?
  all : (x.started ++ x.window.pending.toList ++ x.replaced).Perm texts

namespace Kept

variable {c : Config} {texts : List String} {x : Diagnosing}

/-- Asking for a diagnosis keeps the account, with the text that was asked for. -/
theorem ask (h : x.Kept c texts) {text : String} (hreturns : Returns c text) : (x.step (.ask text)).Kept c (texts ++ [text]) := by
  have hall : ∀ t ∈ texts ++ [text], Returns c t := by
    intro t ht
    rcases List.mem_append.1 ht with ht | ht
    · exact h.returns t ht
    · rwa [List.mem_singleton.1 ht]
  have hbefore := h.all
  cases h.standing with
  | resting diagnosis pending workers shown =>
    obtain ⟨s, e, hs, he⟩ := hreturns
    rw [← h.config] at hs
    have hstep : x.step (.ask text) =
        { x with
          window := { x.window with diagnosis := .queued s text, pending := none }
          workers := [⟨s, text, false⟩]
          started := x.started ++ [text] } := by
      simp [step, starting, Workspace.begun, Workspace.due, diagnosis, pending, workers, Workspace.diagnose_of_idle diagnosis hs text]
    have hsublist := h.sublist
    rw [pending, Option.toList_none, List.append_nil] at hsublist
    rw [hstep]
    refine ⟨h.config, hall, ?_, ?_, ?_, ?_⟩
    · exact .working ⟨s, text, false⟩ rfl rfl hs List.getLast?_concat fun _ htold => by cases htold
    · simpa using hsublist
    · simp
    · rw [List.perm_iff_count] at hbefore ⊢
      intro t
      have hcount := hbefore t
      simp only [pending, Option.toList_none, List.count_append, List.count_nil] at hcount ⊢
      omega
  | working k diagnosis workers extraction latest shown =>
    have hstep : x.step (.ask text) =
        { x with window := { x.window with pending := some text }, replaced := x.replaced ++ x.window.pending.toList } := by
      simp [step, starting, Workspace.begun, Workspace.due, diagnosis, Workspace.diagnose_of_queued diagnosis text]
    -- Whatever waited gives way, so what was run is all that remains of the texts before.
    have hsublist := (List.sublist_append_left _ _).trans h.sublist
    rw [hstep]
    refine ⟨h.config, hall, ?_, ?_, ?_, ?_⟩
    · exact .working k diagnosis workers extraction latest fun hnone => by cases hnone
    · simpa using hsublist
    · simp
    · rw [List.perm_iff_count] at hbefore ⊢
      intro t
      have hcount := hbefore t
      simp only [Option.toList_some, List.count_append] at hcount ⊢
      omega

/-- A diagnosis that tells its result keeps the account. -/
theorem tell (h : x.Kept c texts) (i : Nat) : (x.step (.tell i)).Kept c texts := by
  cases h.standing with
  | resting diagnosis pending workers shown =>
    have hstep : x.step (.tell i) = x := by simp [step, workers]
    rwa [hstep]
  | working k diagnosis workers extraction latest shown =>
    rcases tell_of_one workers i with hstep | hstep
    · rwa [hstep]
    · have hreturns : Returns x.window.config k.text := by
        rw [h.config]
        exact h.returns _ (h.sublist.subset (List.mem_append_left _ (List.mem_of_getLast? latest)))
      -- While another text waits, nothing has to be shown, and nothing is.
      have hshown := fun hnone : x.window.pending = none => Workspace.shownIn_hearing hnone extraction hreturns
      obtain ⟨problems, editor, hheard⟩ := Workspace.exists_hearing x.window k
      rw [hheard] at hshown hstep
      rw [hstep]
      exact ⟨h.config, h.returns,
        .working { k with told := true } diagnosis rfl extraction latest fun hnone _ => hshown hnone, h.sublist, h.last,
        h.all⟩

/-- A diagnosis that ends keeps the account. -/
theorem finish (h : x.Kept c texts) (i : Nat) : (x.step (.finish i)).Kept c texts := by
  cases h.standing with
  | resting diagnosis pending workers shown =>
    have hstep : x.step (.finish i) = x := by simp [step, workers]
    rwa [hstep]
  | working k diagnosis workers extraction latest shown =>
    rcases finish_of_one workers i with hstep | ⟨htold, window, hwindow, hstep⟩
    · rwa [hstep]
    -- The text that waits is the last one that came, so it is the one to run next.
    cases hpending : x.window.pending with
    | none =>
      have hrests : x.step (.finish i) = { x with window := { x.window with diagnosis := .idle }, workers := [] } := by
        rw [hstep, ← hwindow, Workspace.diagnosisEnded_of_none hpending]
        simp [starting, Workspace.due]
      rw [hrests]
      refine ⟨h.config, h.returns, .resting rfl hpending rfl fun text htext => ?_, h.sublist, h.last, h.all⟩
      obtain rfl := Option.some.inj (latest.symm.trans htext)
      exact shown hpending htold
    | some text =>
      have hstarts : x.step (.finish i) =
          { x with
            window := { x.window with diagnosis := .queued k.settings text, pending := none }
            workers := [⟨k.settings, text, false⟩]
            started := x.started ++ [text] } := by
        rw [hstep, ← hwindow, Workspace.diagnosisEnded_of_some hpending extraction]
        simp [starting, Workspace.due]
      have hsublist := h.sublist
      have hlast := h.last
      have hall := h.all
      rw [hpending] at hsublist hlast hall
      rw [hstarts]
      refine ⟨h.config, h.returns, ?_, by simpa using hsublist, by simpa using hlast, by simpa using hall⟩
      exact .working ⟨k.settings, text, false⟩ rfl rfl extraction List.getLast?_concat fun _ htold => by cases htold

/-- What does not touch the diagnosis keeps the account. -/
theorem other (h : x.Kept c texts) {f : Workspace → Workspace} (hf : ∀ w, Workspace.SameDiagnosis w (f w)) :
    (x.step (.other f hf)).Kept c texts := by
  have hsame := hf x.window
  refine ⟨hsame.config.trans h.config, h.returns, ?_, ?_, ?_, ?_⟩
  · cases h.standing with
    | resting diagnosis pending workers shown =>
      exact .resting (hsame.diagnosis.trans diagnosis) (hsame.pending.trans pending) workers
        fun text htext => hsame.shownIn (shown text htext)
    | working k diagnosis workers extraction latest shown =>
      refine .working k (hsame.diagnosis.trans diagnosis) workers ?_ latest fun hnone htold =>
        hsame.shownIn (shown (hsame.pending.symm.trans hnone) htold)
      rw [← extraction]
      exact congrArg Config.extraction hsame.config
  · have hsublist := h.sublist
    rwa [← hsame.pending] at hsublist
  · have hlast := h.last
    rwa [← hsame.pending] at hlast
  · have hall := h.all
    rwa [← hsame.pending] at hall

/-- When nothing runs, the last text is shown. -/
theorem shown (h : x.Kept c texts) (hworkers : x.workers = []) (text : String) (htext : texts.getLast? = some text) :
    ShownIn text x.window := by
  cases h.standing with
  | resting diagnosis pending workers shown =>
    have hlast := h.last
    rw [pending, Option.toList_none, List.append_nil] at hlast
    exact shown text (hlast.trans htext)
  | working k diagnosis workers extraction latest shown =>
    rw [workers] at hworkers
    cases hworkers

/-- Every run keeps the account. -/
theorem run (h : x.Kept c texts) (moves : List Move) (hreturns : ∀ text ∈ asked moves, Returns c text) :
    (x.run moves).Kept c (texts ++ asked moves) := by
  induction moves generalizing x texts with
  | nil => rwa [asked, List.append_nil]
  | cons move moves ih =>
    cases move with
    | ask text =>
      obtain ⟨hfirst, hrest⟩ := List.forall_mem_cons.1 hreturns
      have hnext := ih (h.ask hfirst) hrest
      rwa [List.append_assoc] at hnext
    | tell i => exact ih (h.tell i) hreturns
    | finish i => exact ih (h.finish i) hreturns
    | other f hf => exact ih (h.other hf) hreturns

end Kept

/-- A new window has nothing to diagnose. -/
theorem kept_make {c : Config} {files : Files} {secret : String} {port : Nat} {w : Workspace}
    (h : Workspace.make c files secret port = .ok w) : Kept c [] { window := w } := by
  obtain ⟨capacity, -, hcapacity⟩ := bind_eq_ok.1 h
  obtain ⟨channel, -, hw⟩ := bind_eq_ok.1 hcapacity
  obtain rfl := Except.ok.inj hw
  exact ⟨rfl, nofun, .resting rfl rfl rfl nofun, List.Sublist.refl [], rfl, List.Perm.refl []⟩

end Diagnosing

/-- Whatever the order in which texts come and diagnoses tell and end: one diagnosis runs at most, and a text waits only while one runs.
Every text that came was run, waits, or gave way to a later one while it waited; those that were run or wait are in the order in which
they came, and the last one that came is among them. When nothing runs, the diagnostics of the last text are shown, also when that is
empty. -/
theorem latest_diagnostics_shown {c : Config} {files : Files} {secret : String} {port : Nat} {w : Workspace}
    (hmake : Workspace.make c files secret port = .ok w) (moves : List Diagnosing.Move)
    (hreturns : ∀ text ∈ Diagnosing.asked moves, Diagnosis.Returns c text) :
    ∀ x, Diagnosing.run { window := w } moves = x →
      x.workers.length ≤ 1 ∧ (x.window.pending.isSome → x.workers ≠ []) ∧
      (x.started ++ x.window.pending.toList ++ x.replaced).Perm (Diagnosing.asked moves) ∧
      (x.started ++ x.window.pending.toList).Sublist (Diagnosing.asked moves) ∧
      (x.started ++ x.window.pending.toList).getLast? = (Diagnosing.asked moves).getLast? ∧
      (x.workers = [] → ∀ text, (Diagnosing.asked moves).getLast? = some text → Diagnosis.ShownIn text x.window) := by
  rintro x rfl
  have hkept := (Diagnosing.kept_make hmake).run moves hreturns
  rw [List.nil_append] at hkept
  exact ⟨hkept.standing.one, hkept.standing.waiting, hkept.all, hkept.sublist, hkept.last, hkept.shown⟩

/-- A text waits while the first one is run, and an empty one takes its place; that is run next, and shown. -/
theorem latest_diagnostics_shown_empty_text :
    ∃ w x, Workspace.make {} [] "secret" 8080 = .ok w ∧
      Diagnosing.run { window := w } [.ask "G1 X", .ask "G2 X", .ask "", .tell 0, .finish 0, .tell 0, .finish 0] = x ∧
      x.started = ["G1 X", ""] ∧ x.replaced = ["G2 X"] ∧ x.window.problems = some "No problems found." ∧
      Diagnosis.ShownIn "" x.window := by
  have hmake : ∃ w, Workspace.make {} [] "secret" 8080 = .ok w := ⟨_, rfl⟩
  obtain ⟨w, hmake⟩ := hmake
  have hreturns : ∀ text ∈ ["G1 X", "G2 X", ""], Diagnosis.Returns {} text := by decide +kernel
  obtain ⟨-, -, -, -, -, hshown⟩ := latest_diagnostics_shown hmake
    [.ask "G1 X", .ask "G2 X", .ask "", .tell 0, .finish 0, .tell 0, .finish 0] hreturns _ rfl
  refine ⟨w, _, hmake, rfl, ?_⟩
  obtain rfl := Except.ok.inj hmake
  refine ⟨by decide +kernel, by decide +kernel, by decide +kernel, hshown ?_ "" rfl⟩
  exact List.eq_nil_of_length_eq_zero (by decide +kernel)

end ToolpathViewer
