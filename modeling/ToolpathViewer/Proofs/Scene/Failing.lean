import ToolpathViewer.Proofs.Scene.Consistency

/-!
# Calls that fail

Loading and changing a program, a click and a change of the theme can fail. A scene looks at everything that can go wrong before
it takes anything over, with one exception: codes that come with a program are in force from the start of the call, and stay when
the program cannot be extracted. Here it is shown that this is all that a failed call leaves, and how far later calls can see it:
until a program comes with codes of its own.
-/

namespace ToolpathViewer.Scene

/-! ## Calls and their answers -/

/-- What a call answers when it does not fail. -/
inductive Answer where
  | loaded (result : LoadResult)
  | span (span : Option Span)
  | line (line : Option Nat)
  | done
deriving DecidableEq, Repr

/-- What comes back from a call: its answer, and what it reports. -/
structure Reply where
  result : Except Fault Answer
  log : List Log.Entry := []

/-- What comes back from loading a program. -/
def Loading.reply (l : Loading) : Reply := { result := l.result.map .loaded, log := l.log }

namespace Call

/-- Makes a call: what comes back, and the scene behind it. -/
def perform (s : Scene) : Call → Reply × Scene
  | .load text codes => ((s.load text codes).reply, (s.load text codes).scene)
  | .change text codes => ((s.change text codes).reply, (s.change text codes).scene)
  | .selectLine line => ({ result := .ok (.span (s.selectLine line).1) }, (s.selectLine line).2)
  | .select first last => ({ result := .ok (.span (s.select first last).selection) }, s.select first last)
  | .scrubTo i => ({ result := .ok (.line (s.scrubTo i).1) }, (s.scrubTo i).2)
  | .click beam threshold => ({ result := (s.click beam threshold).1.map .line }, (s.click beam threshold).2)
  | .setTheme name => ({ result := (s.setTheme name).1.map fun _ => .done }, (s.setTheme name).2)

/-- What a program comes with: codes of its own, or none. A call that brings no program has no part in this. -/
def given? : Call → Option (Option (List Json))
  | .load _ codes | .change _ codes => some codes
  | .selectLine _ | .select _ _ | .scrubTo _ | .click _ _ | .setTheme _ => none

/-- The codes that come with a call. -/
def codes? (call : Call) : Option (List Json) := call.given?.join

end Call

/-- Makes calls one after the other: what comes back from each, and the scene behind the last. -/
def performAll (s : Scene) : List Call → List Reply × Scene
  | [] => ([], s)
  | call :: calls =>
    let rest := (call.perform s).2.performAll calls
    ((call.perform s).1 :: rest.1, rest.2)

/-! ## A scene with other codes

Only extracting a program looks at the codes, so that calls which bring no program answer the same, whatever the codes are. -/

section WithCodes

variable (s : Scene) (codes : List Json)

/-- Selecting does not look at the codes. -/
theorem select_withCodes (first last : Int) : (s.withCodes codes).select first last = (s.select first last).withCodes codes := by
  unfold select
  by_cases hn : s.segmentCount = 0
  · rw [if_pos hn, if_pos (show (s.withCodes codes).segmentCount = 0 from hn)]
    rfl
  · rw [if_neg hn, if_neg (show (s.withCodes codes).segmentCount ≠ 0 from hn)]
    rfl

/-- Selecting a line does not look at the codes. -/
theorem selectLine_withCodes (line : Int) :
    (s.withCodes codes).selectLine line = ((s.selectLine line).1, (s.selectLine line).2.withCodes codes) := by
  have hspan : (s.withCodes codes).spanOfLine? line = s.spanOfLine? line := rfl
  unfold selectLine
  rw [hspan]
  cases s.spanOfLine? line with
  | none => rfl
  | some span =>
    have hselect := select_withCodes { s with scrubber := span.last } codes span.first span.last
    exact Prod.ext ((congrArg Scene.selection hselect).trans rfl) hselect

/-- Scrubbing does not look at the codes. -/
theorem scrubTo_withCodes (i : Int) :
    (s.withCodes codes).scrubTo i = ((s.scrubTo i).1, (s.scrubTo i).2.withCodes codes) := by
  have hcount : (s.withCodes codes).segmentCount = s.segmentCount := rfl
  unfold scrubTo
  rw [hcount]
  split
  · have hselect := select_withCodes { s with scrubber := i.toNat } codes i i
    exact Prod.ext ((congrArg (fun r => lineOfSegment? r i) hselect).trans rfl) hselect
  · rfl

/-- A click does not look at the codes. -/
theorem click_withCodes (beam : Beam) (threshold : Float) :
    (s.withCodes codes).click beam threshold = ((s.click beam threshold).1, (s.click beam threshold).2.withCodes codes) := by
  have hhit : (s.withCodes codes).hitTest beam threshold = s.hitTest beam threshold := rfl
  have hcount : (s.withCodes codes).segmentCount = s.segmentCount := rfl
  unfold click
  rw [hhit, hcount]
  cases s.hitTest beam threshold with
  | error fault => rfl
  | ok hit =>
    cases hit with
    | none =>
      refine Prod.ext rfl ?_
      by_cases hn : s.segmentCount = 0
      · simp only [hn, if_true]
      · simp only [hn, if_false]
        exact select_withCodes { s with scrubber := s.segmentCount - 1 } codes _ _
    | some i =>
      have hline : (s.withCodes codes).lineOfSegment? i = s.lineOfSegment? i := rfl
      dsimp only
      rw [hline]
      cases s.lineOfSegment? i with
      | none => rfl
      | some line =>
        have hspan : (s.withCodes codes).spanOfLine? line = s.spanOfLine? line := rfl
        dsimp only
        rw [hspan]
        cases s.spanOfLine? line with
        | none => rfl
        | some span =>
          dsimp only
          rw [select_withCodes]
          rfl

/-- A change of the theme does not look at the codes. -/
theorem setTheme_withCodes (name : String) :
    (s.withCodes codes).setTheme name = ((s.setTheme name).1, (s.setTheme name).2.withCodes codes) := by
  unfold setTheme
  cases Theme.ofName? name <;> rfl

/-- A call that brings no program answers the same and leaves the codes alone. -/
theorem perform_withCodes {call : Call} (h : call.given? = none) :
    call.perform (s.withCodes codes) = ((call.perform s).1, (call.perform s).2.withCodes codes) := by
  cases call with
  | load text given => cases h
  | change text given => cases h
  | selectLine line =>
    rw [Call.perform, selectLine_withCodes]
    rfl
  | select first last =>
    rw [Call.perform, select_withCodes]
    rfl
  | scrubTo i =>
    rw [Call.perform, scrubTo_withCodes]
    rfl
  | click beam threshold =>
    rw [Call.perform, click_withCodes]
    rfl
  | setTheme name =>
    rw [Call.perform, setTheme_withCodes]
    rfl

/-- A program that comes with codes puts its own in the place of those before. -/
theorem perform_withCodes_of_given {call : Call} {given : List Json} (h : call.given? = some (some given)) :
    call.perform (s.withCodes codes) = call.perform s := by
  cases call with
  | load text given' =>
    obtain rfl := Option.some.inj h
    rfl
  | change text given' =>
    obtain rfl := Option.some.inj h
    rfl
  | selectLine line => cases h
  | select first last => cases h
  | scrubTo i => cases h
  | click beam threshold => cases h
  | setTheme name => cases h

/-- As long as no program relies on the codes before, calls cannot tell them; and the first program with codes of its own makes
even the scenes equal. -/
theorem performAll_withCodes {calls : List Call} (h : calls.findSome? Call.given? ≠ some none) :
    ((s.withCodes codes).performAll calls).1 = (s.performAll calls).1 ∧
      ((s.withCodes codes).performAll calls).2 =
        if (calls.findSome? Call.given?).isSome then (s.performAll calls).2 else (s.performAll calls).2.withCodes codes := by
  induction calls generalizing s with
  | nil => exact ⟨rfl, rfl⟩
  | cons call calls ih =>
    rw [List.findSome?_cons] at h ⊢
    cases hgiven : call.given? with
    | none =>
      rw [hgiven] at h
      obtain ⟨hreplies, hscene⟩ := ih (call.perform s).2 h
      rw [performAll, performAll, perform_withCodes s codes hgiven]
      exact ⟨congrArg (List.cons _) hreplies, hscene⟩
    | some given =>
      cases given with
      | none =>
        rw [hgiven] at h
        exact absurd rfl h
      | some given =>
        rw [performAll, performAll, perform_withCodes_of_given s codes hgiven]
        exact ⟨rfl, rfl⟩

end WithCodes

/-! ## What a failed call leaves -/

variable {s : Scene} {fault : Fault}

/-- A program that cannot be extracted leaves the codes that came with it, and nothing else. -/
theorem rebuild_of_result_error {text : String} {codes : Option (List Json)} {reframe : Bool}
    (h : (s.rebuild text codes reframe).result = .error fault) :
    s.rebuild text codes reframe = { scene := s.withCodes (codes.getD s.codes), result := .error fault } := by
  cases he : (s.withCodes (codes.getD s.codes)).extract text with
  | error fault' =>
    rw [rebuild_of_error he] at h ⊢
    rw [Except.error.inj h]
  | ok e =>
    rw [rebuild_of_ok he] at h
    cases h

/-- A click that fails leaves the scene as it was. -/
theorem scene_click_of_error {beam : Beam} {threshold : Float} (h : (s.click beam threshold).1 = .error fault) :
    (s.click beam threshold).2 = s := by
  unfold click at h ⊢
  cases hhit : s.hitTest beam threshold with
  | error fault' => rfl
  | ok hit =>
    rw [hhit] at h
    cases hit with
    | none => cases h
    | some i =>
      dsimp only at h
      split at h <;> cases h

/-- A change of the theme that fails leaves the scene as it was. -/
theorem scene_setTheme_of_error {name : String} (h : (s.setTheme name).1 = .error fault) : (s.setTheme name).2 = s := by
  unfold setTheme at h ⊢
  cases hname : Theme.ofName? name with
  | none => rfl
  | some theme =>
    rw [hname] at h
    cases h

/-- A mapped computation fails as the computation does. -/
theorem map_eq_error {α β : Type} {x : Except Fault α} {f : α → β} : x.map f = .error fault ↔ x = .error fault := by
  cases x with
  | error fault' => exact ⟨fun h => congrArg _ (Except.error.inj h), fun h => congrArg _ (Except.error.inj h)⟩
  | ok a => exact ⟨(nomatch ·), (nomatch ·)⟩

/-- A failed call reports nothing, and leaves the scene with the codes that came with it. -/
theorem perform_of_error {call : Call} (h : (call.perform s).1.result = .error fault) :
    call.perform s = ({ result := .error fault }, s.withCodes (call.codes?.getD s.codes)) := by
  cases call with
  | load text codes =>
    rw [Call.perform, load, rebuild_of_result_error (map_eq_error.1 h)]
    rfl
  | change text codes =>
    rw [Call.perform, change, rebuild_of_result_error (map_eq_error.1 h)]
    rfl
  | selectLine line => cases h
  | select first last => cases h
  | scrubTo i => cases h
  | click beam threshold =>
    have hclick := map_eq_error.1 h
    rw [Call.perform, hclick, scene_click_of_error hclick]
    rfl
  | setTheme name =>
    have htheme := map_eq_error.1 h
    rw [Call.perform, htheme, scene_setTheme_of_error htheme]
    rfl

/-- A call that fails changes nothing in a scene but the codes, and these only when the call brings some. All that comes back from
later calls is what would come back without it, unless a later program relies on the codes that it left; and behind a later
program with codes of its own the scene is what it would be without the failed call. -/
theorem failed_call_leaves_all_but_codes {call : Call} (hfault : (call.perform s).1.result = .error fault) :
    (call.perform s).1.log = [] ∧
      (call.perform s).2 = s.withCodes (call.codes?.getD s.codes) ∧
      (call.codes? = none → (call.perform s).2 = s) ∧
      ∀ later : List Call, later.findSome? Call.given? ≠ some none →
        ((call.perform s).2.performAll later).1 = (s.performAll later).1 ∧
          ((later.findSome? Call.given?).isSome → ((call.perform s).2.performAll later).2 = (s.performAll later).2) ∧
          ((call.perform s).2.performAll later).2.withCodes s.codes = (s.performAll later).2.withCodes s.codes := by
  rw [perform_of_error hfault]
  refine ⟨rfl, rfl, ?_, ?_⟩
  · intro hcodes
    rw [hcodes]
    rfl
  · intro later hlater
    obtain ⟨hreplies, hscene⟩ := performAll_withCodes s (call.codes?.getD s.codes) hlater
    dsimp only
    rw [hscene]
    refine ⟨hreplies, ?_, ?_⟩
    · intro hsome
      rw [if_pos hsome]
    · split <;> rfl

/-- A program whose codes cannot be used, on a new scene: a change of the theme and a program with codes of its own do not notice
it. -/
theorem failed_call_leaves_all_but_codes_superscript :
    ((Call.load "G1 X1" (some [.str "G²"])).perform {}).1.result = .error .malformedInteger ∧
      (((Call.load "G1 X1" (some [.str "G²"])).perform {}).2.performAll [.setTheme "light", .load "G1 X1" (some [])]).2 =
        (({} : Scene).performAll [.setTheme "light", .load "G1 X1" (some [])]).2 := by
  have hfault : ((Call.load "G1 X1" (some [.str "G²"])).perform {}).1.result = .error .malformedInteger := by decide +kernel
  obtain ⟨-, -, -, hlater⟩ := failed_call_leaves_all_but_codes hfault
  have hgiven : [Call.setTheme "light", .load "G1 X1" (some [])].findSome? Call.given? = some (some []) := rfl
  refine ⟨hfault, (hlater _ ?_).2.1 ?_⟩
  · rw [hgiven]
    exact nofun
  · rw [hgiven]
    rfl

/-- The codes of a failed call stay in force: after them a new scene refuses a program that it would take. -/
theorem failed_codes_stay_in_force :
    make [] .null (.int 64) (.str "dark") = .ok {} ∧
      ((Call.load "G1 X1" (some [.str "G²"])).perform {}).1.result = .error .malformedInteger ∧
      ((Call.load "G1 X1" (some [.str "G²"])).perform {}).2.codes ≠ ({} : Scene).codes ∧
      (((Call.load "G1 X1" (some [.str "G²"])).perform {}).2.performAll [.load "G1 X1" none]).1.map (·.result) =
        [.error .malformedInteger] ∧
      (({} : Scene).performAll [.load "G1 X1" none]).1.map (·.result) = [.ok (.loaded ⟨1, 0, true⟩)] := by
  refine ⟨rfl, by decide +kernel, ?_, by decide +kernel, by decide +kernel⟩
  exact List.cons_ne_nil _ _

end ToolpathViewer.Scene
