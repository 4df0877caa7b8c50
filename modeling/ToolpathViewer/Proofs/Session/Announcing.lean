import ToolpathViewer.Proofs.Session.Surface

/-!
# What a surface announces

A surface announces a change of what its scene shows once, when the change is done, and last of all that it does. A call that announces
nothing has changed nothing that is shown, also when it fails (`Changes`).
-/

namespace ToolpathViewer

namespace Scene

/-- The scene that a call makes of another. -/
def after (s : Scene) : Call → Scene
  | .load text codes => (s.load text codes).scene
  | .change text codes => (s.change text codes).scene
  | .selectLine line => (s.selectLine line).2
  | .select first last => s.select first last
  | .scrubTo i => (s.scrubTo i).2
  | .click beam threshold => (s.click beam threshold).2
  | .setTheme name => (s.setTheme name).2

/-- The scene of a history is the one that its calls lead to. -/
theorem scene_step (h : History) (call : Call) : (h.step call).scene = h.scene.after call := by
  cases call <;> rfl

/-- A scene that calls have made of a new one, by amounts. -/
def Sound (limit divisions : Json) (s : Scene) : Prop := ∃ h : History, h.Consistent limit divisions ∧ h.scene = s

/-- A new scene is sound. -/
theorem sound_of_make {codes : List Json} {limit divisions theme : Json} {s : Scene} (h : make codes limit divisions theme = .ok s) :
    s.Sound limit divisions :=
  ⟨History.start s, History.consistent_start h, rfl⟩

/-- Every call leads from a sound scene to a sound one. -/
theorem Sound.after {limit divisions : Json} {s : Scene} (h : s.Sound limit divisions) (call : Call) :
    (s.after call).Sound limit divisions := by
  obtain ⟨h, hc, rfl⟩ := h
  exact ⟨h.step call, hc.step call, scene_step h call⟩

/-- The scrubber of a sound scene stands at one of its segments. -/
theorem Sound.scrubber_le {limit divisions : Json} {s : Scene} (h : s.Sound limit divisions) : s.scrubber ≤ s.segmentCount - 1 := by
  obtain ⟨h, hc, rfl⟩ := h
  exact hc.picked.scrubber_le

/-- What is shown of two scenes is the same: the path and the movements missing from it, the selection and the scrubber. -/
structure SameView (s s' : Scene) : Prop where
  movements : s'.movements = s.movements
  dropped : s'.dropped = s.dropped
  selection : s'.selection = s.selection
  scrubber : s'.scrubber = s.scrubber

/-- A scene has the view of itself. -/
theorem SameView.refl (s : Scene) : SameView s s := ⟨rfl, rfl, rfl, rfl⟩

/-- A segment of the path belongs to a line. -/
theorem exists_lineOfSegment? {s : Scene} {i : Int} (h : (decide (0 ≤ i) && decide (i < s.segmentCount)) = true) :
    ∃ line, s.lineOfSegment? i = some line := by
  have hi : i.toNat + 1 < s.movements.size := by
    simp only [Bool.and_eq_true, decide_eq_true_eq] at h
    unfold segmentCount at h
    omega
  rw [lineOfSegment?, if_pos h, Array.getElem?_eq_getElem hi]
  exact ⟨_, rfl⟩

/-- Scrubbing that names no line changes nothing. -/
theorem scrubTo_of_none {s : Scene} {i : Int} (h : (s.scrubTo i).1 = none) : (s.scrubTo i).2 = s := by
  unfold scrubTo at h ⊢
  split
  · rename_i hi
    rw [if_pos hi] at h
    have hcount : ((decide (0 ≤ i) && decide (i < (({ s with scrubber := i.toNat } : Scene).select i i).segmentCount)) = true) := by
      rwa [segmentCount_of_content_eq (content_select _ _ _)]
    obtain ⟨line, hline⟩ := exists_lineOfSegment? hcount
    exact absurd (hline.symm.trans h) (by simp)
  · rfl

/-- Where there are segments, selecting selects some. -/
theorem isSome_selection_select {s : Scene} (h : s.segmentCount ≠ 0) (first last : Int) :
    (s.select first last).selection.isSome = true := by
  rw [select, if_neg h]
  rfl

/-- A caret line that selects nothing changes nothing. -/
theorem Sound.selectLine_of_none {limit divisions : Json} {s : Scene} (hs : s.Sound limit divisions) {line : Int}
    (h : (s.selectLine line).1.isSome = false) : (s.selectLine line).2 = s := by
  obtain ⟨history, hc, rfl⟩ := hs
  unfold selectLine at h ⊢
  split
  · rfl
  · rename_i span hspan
    have hcount : history.scene.segmentCount ≠ 0 := Nat.ne_zero_of_lt (hc.presents.span_last_lt hspan)
    have hselect := isSome_selection_select (s := { history.scene with scrubber := span.last }) hcount span.first span.last
    rw [hspan] at h
    exact absurd (hselect.symm.trans h) (by decide)

/-- A program that cannot be extracted leaves what is shown. -/
theorem sameView_of_rebuild_error {s : Scene} {text : String} {codes : Option (List Json)} {reframe : Bool} {fault : Fault}
    (h : (s.rebuild text codes reframe).result = .error fault) : SameView s (s.rebuild text codes reframe).scene := by
  cases he : (s.withCodes (codes.getD s.codes)).extract text with
  | error why =>
    rw [rebuild_of_error he]
    exact ⟨rfl, rfl, rfl, rfl⟩
  | ok e =>
    rw [rebuild_of_ok he] at h
    cases h

/-- A click that fails changes nothing. -/
theorem click_of_error {s : Scene} {beam : Beam} {threshold : Float} {fault : Fault} (h : (s.click beam threshold).1 = .error fault) :
    (s.click beam threshold).2 = s := by
  unfold click at h ⊢
  split
  · rfl
  · rename_i hhit
    simp only [hhit] at h
    cases h
  · rename_i i hhit
    simp only [hhit] at h
    split at h <;> cases h

/-- A theme that is unknown changes nothing, and another one nothing but the colors. -/
theorem sameView_setTheme (s : Scene) (name : String) : SameView s (s.setTheme name).2 := by
  unfold setTheme
  split <;> exact ⟨rfl, rfl, rfl, rfl⟩

end Scene

namespace Surface

variable {α β : Type} {s : Surface} {limit divisions : Json}

/-- The effect announces a change. -/
def Effect.isUpdate : Effect → Bool
  | .update _ _ => true
  | _ => false

/-- No effect announces a change. -/
def Silent (es : List Effect) : Prop := ∀ e ∈ es, e.isUpdate = false

/-- Without effects nothing is announced. -/
theorem silent_nil : Silent [] := fun e he => by cases he

/-- Two silent lists of effects make a silent one. -/
theorem Silent.append {es es' : List Effect} (h : Silent es) (h' : Silent es') : Silent (es ++ es') := by
  intro e he
  rcases List.mem_append.1 he with he | he
  · exact h e he
  · exact h' e he

/-- A report announces nothing. -/
theorem silent_log (entry : Log.Entry) : Silent [.log entry] := List.forall_mem_singleton.2 rfl

/-- Reports announce nothing. -/
theorem silent_logs (entries : List Log.Entry) : Silent (entries.map .log) := List.forall_mem_map.2 fun _ _ => rfl

/-- A message to the host announces nothing. -/
theorem silent_post (m : Message) : Silent [.post m] := List.forall_mem_singleton.2 rfl

/-- What only reports announces nothing. -/
theorem Reports.silent {es : List Effect} (h : Reports es) : Silent es := by
  intro e he
  obtain ⟨text, rfl⟩ := h e he
  rfl

/-- A turn announces a change of the scene before it as its last effect and nothing in front of that, or it announces nothing and shows
what was shown before. -/
def Announces (before : Scene) (t : Turn Effect Surface α) : Prop :=
  (∃ es what result, t.emitted = es ++ [.update what result] ∧ Silent es) ∨
    Silent t.emitted ∧ Scene.SameView before t.state.scene

/-- A turn by which a scene stays as it is or becomes what a call makes of it, and that announces what it changes. -/
structure Changes (before : Scene) (t : Turn Effect Surface α) : Prop where
  becomes : t.state.scene = before ∨ ∃ call, t.state.scene = before.after call
  announced : Announces before t

/-- A change by a call leads from a sound scene to a sound one. -/
theorem Changes.sound {before : Scene} {t : Turn Effect Surface α} (h : Changes before t) (hs : before.Sound limit divisions) :
    t.state.scene.Sound limit divisions := by
  rcases h.becomes with hsame | ⟨call, hcall⟩
  · rwa [hsame]
  · rw [hcall]
    exact hs.after call

/-- A turn that leaves the scene and announces nothing. -/
theorem changes_of_scene_eq {before : Scene} {t : Turn Effect Surface α} (h : t.state.scene = before) (hsilent : Silent t.emitted) :
    Changes before t := by
  subst h
  exact ⟨Or.inl rfl, Or.inr ⟨hsilent, Scene.SameView.refl _⟩⟩

/-- What goes before a turn, without announcing anything, belongs to it. -/
theorem Changes.prepend {before : Scene} {t : Turn Effect Surface α} (h : Changes before t) {es : List Effect} (hes : Silent es) :
    Changes before ⟨t.result, t.state, es ++ t.emitted⟩ := by
  refine ⟨h.becomes, ?_⟩
  rcases h.announced with ⟨es', what, result, hlast, hes'⟩ | ⟨hsilent, hview⟩
  · refine Or.inl ⟨es ++ es', what, result, ?_, hes.append hes'⟩
    rw [hlast, List.append_assoc]
  · exact Or.inr ⟨hes.append hsilent, hview⟩

/-- A call that makes such turns of sound scenes, whether it fails or not. -/
def Announcing (limit divisions : Json) (x : Call α) : Prop :=
  ∀ s : Surface, s.scene.Sound limit divisions → Changes s.scene (x s)

/-- A call that is about something else than the scene. -/
def Aside (x : Call α) : Prop := ∀ s : Surface, (x s).state.scene = s.scene ∧ Silent (x s).emitted

/-- A call beside the scene has nothing to announce. -/
theorem Aside.announcing {x : Call α} (h : Aside x) : Announcing limit divisions x :=
  fun s _ => changes_of_scene_eq (h s).1 (h s).2

/-- What a call does aside, before it comes to the scene, belongs to it. -/
theorem Aside.bind {x : Call α} (hx : Aside x) {f : α → Call β} (hf : ∀ a, Announcing limit divisions (f a)) :
    Announcing limit divisions (x >>= f) := by
  intro s hs
  obtain ⟨hscene, hsilent⟩ := hx s
  rw [Step.bind_run]
  cases (x s).result with
  | error fault => exact changes_of_scene_eq hscene hsilent
  | ok a =>
    have hnext := hf a (x s).state (by rwa [hscene])
    rw [hscene] at hnext
    exact hnext.prepend hsilent

/-- Doing nothing leaves the scene alone. -/
theorem aside_pure (a : α) : Aside (pure a) := fun _ => ⟨rfl, silent_nil⟩

/-- Reporting leaves the scene alone. -/
theorem aside_log (entry : Log.Entry) : Aside (Step.emit (.log entry)) := fun _ => ⟨rfl, silent_log entry⟩

/-- Sending a message leaves the scene alone. -/
theorem aside_post (m : Message) : Aside (post m) := fun _ => ⟨rfl, silent_post m⟩

/-- A call on the gate leaves the scene alone. -/
theorem aside_throughGate {x : Gate.Through Effect Unit String α} (hx : x.Emits fun e => e.isUpdate = false) : Aside (throughGate x) :=
  fun s => ⟨rfl, hx (s.gate, ())⟩

/-- A report that is sent announces nothing. -/
theorem emits_postDebug (text : String) : (postDebug text).Emits fun e => e.isUpdate = false := Step.emits_emit rfl

/-- A report to the host leaves the scene alone. -/
theorem aside_debug (text : String) : Aside (debug text) := by
  intro s
  obtain ⟨gate, es, hrun, hreports⟩ := exists_debug text s
  rw [hrun]
  exact ⟨rfl, hreports.silent⟩

/-- Reports that are sent together announce nothing. -/
theorem emits_flush (texts : List String) : (Gate.flush postDebug texts).Emits fun e => e.isUpdate = false := by
  induction texts with
  | nil => exact Step.emits_update _
  | cons text texts ih =>
    exact (Step.emits_update _).bind fun _ => ((emits_postDebug text).within _ _).bind fun _ => ih

/-- Opening the gate leaves the scene alone. -/
theorem aside_markReady : Aside (throughGate (Gate.markReady postDebug)) := by
  refine aside_throughGate (Step.emits_get.bind fun p => .ite _ (Step.emits_pure 0) ?_)
  exact (emits_flush _).bind fun _ => (Step.emits_update _).bind fun _ => Step.emits_pure _

/-- The surface is told that the bridge is up. -/
theorem announcing_connected : Announcing limit divisions connected :=
  aside_markReady.bind fun _ => (aside_debug _).announcing

/-- Telling the host that the view is ready announces what it changes, which is nothing. -/
theorem announcing_ready : Announcing limit divisions ready := (aside_post _).bind fun _ => (aside_debug _).announcing

/-- A program is announced when it has been loaded. -/
theorem announcing_take {text : String} {codes : Option (List Json)} {reframe : Bool} {call : Scene.Call}
    (hcall : ∀ scene : Scene, scene.after call = (scene.rebuild text codes reframe).scene) (what : Update) :
    Announcing limit divisions
      (do
        let s ← Step.get
        announce what (some (← take (s.scene.rebuild text codes reframe)))) := by
  intro s hs
  simp only [Step.bind_run, Step.get_run, take_run]
  cases hresult : (s.scene.rebuild text codes reframe).result with
  | error fault =>
    exact ⟨Or.inr ⟨call, (hcall _).symm⟩, Or.inr ⟨silent_logs _, Scene.sameView_of_rebuild_error hresult⟩⟩
  | ok r => exact ⟨Or.inr ⟨call, (hcall _).symm⟩, Or.inl ⟨_, what, some r, rfl, silent_logs _⟩⟩

/-- A message with a program announces what it changes. -/
theorem announcing_receiveProgram (m : Message) (first : Bool) : Announcing limit divisions (receiveProgram m first) := by
  unfold receiveProgram
  split
  · rename_i text _
    have hload : ∀ (codes : Option (List Json)) (scene : Scene),
        scene.after (.load text codes) = (scene.rebuild text codes true).scene := fun _ _ => rfl
    have hchange : ∀ (codes : Option (List Json)) (scene : Scene),
        scene.after (.change text codes) = (scene.rebuild text codes false).scene := fun _ _ => rfl
    cases first with
    | true =>
      refine (aside_debug _).bind fun _ => ?_
      exact announcing_take (hload _) .load
    | false => exact announcing_take (hchange _) .content
  · exact (aside_debug _).announcing

/-- A message with the line of the caret announces what it changes. -/
theorem announcing_receiveCaret (m : Message) : Announcing limit divisions (receiveCaret m) := by
  unfold receiveCaret
  split
  · exact (aside_pure ()).announcing
  · rename_i line _
    intro s hs
    simp only [Step.bind_run, Step.get_run, Step.set_run]
    cases hselected : (s.scene.selectLine line).1.isSome with
    | true => exact ⟨Or.inr ⟨.selectLine line, rfl⟩, Or.inl ⟨[], .selection, none, rfl, silent_nil⟩⟩
    | false => exact changes_of_scene_eq (hs.selectLine_of_none hselected) silent_nil

/-- A surface takes what the host has published. -/
theorem announcing_receive [Json.Room] (p : Payload) : Announcing limit divisions (receive p) := by
  unfold receive
  split
  · exact (aside_log _).bind fun _ => (aside_debug _).announcing
  · exact fun s _ => changes_of_scene_eq rfl silent_nil
  · rename_i m _
    refine (aside_debug _).bind fun _ => ?_
    split
    · exact announcing_receiveProgram m true
    · exact announcing_receiveProgram m false
    · exact announcing_receiveCaret m
    · exact (aside_pure ()).announcing

/-- The end of a call of the user: a report, a request for a line and an announcement, behind which something is returned. -/
theorem changes_pointing {before : Scene} {s : Surface} (hbecomes : s.scene = before ∨ ∃ call, s.scene = before.after call)
    (text : String) (m : Message) (what : Update) (a : α) :
    Changes before ((do debug text; post m; announce what; return a : Call α) s) := by
  obtain ⟨gate, es, hrun, hreports⟩ := exists_debug text s
  rw [Step.bind_of_ok hrun]
  refine ⟨hbecomes, Or.inl ⟨es ++ [.post m], what, none, ?_, hreports.silent.append (silent_post m)⟩⟩
  simp [post, announce]

/-- Scrubbing announces what it changes. -/
theorem announcing_scrub (i : Int) : Announcing limit divisions (scrub i) := by
  intro s hs
  unfold scrub
  simp only [Step.bind_run, Step.get_run, Step.set_run]
  cases hline : (s.scene.scrubTo i).1 with
  | none => exact changes_of_scene_eq (Scene.scrubTo_of_none hline) silent_nil
  | some n =>
    exact changes_pointing (s := { s with scene := (s.scene.scrubTo i).2 }) (Or.inr ⟨.scrubTo i, rfl⟩) _ _ _ _

/-- A click announces what it changes. -/
theorem announcing_click (beam : Scene.Beam) (threshold : Float) : Announcing limit divisions (click beam threshold) := by
  intro s hs
  unfold click
  simp only [Step.bind_run, Step.get_run, Step.set_run, Step.ofExcept_run]
  cases hline : (s.scene.click beam threshold).1 with
  | error fault => exact changes_of_scene_eq (Scene.click_of_error hline) silent_nil
  | ok line =>
    cases line with
    | none => exact ⟨Or.inr ⟨.click beam threshold, rfl⟩, Or.inl ⟨[], .selection, none, rfl, silent_nil⟩⟩
    | some n =>
      exact changes_pointing (s := { s with scene := (s.scene.click beam threshold).2 }) (Or.inr ⟨.click beam threshold, rfl⟩) _ _ _ _

/-- A change of the theme announces what it changes. -/
theorem announcing_setTheme (name : String) : Announcing limit divisions (setTheme name) := by
  intro s hs
  unfold setTheme
  simp only [Step.bind_run, Step.get_run, Step.set_run, Step.ofExcept_run]
  cases hresult : (s.scene.setTheme name).1 with
  | error fault => exact ⟨Or.inr ⟨.setTheme name, rfl⟩, Or.inr ⟨silent_nil, Scene.sameView_setTheme _ _⟩⟩
  | ok r => exact ⟨Or.inr ⟨.setTheme name, rfl⟩, Or.inl ⟨[], .theme, none, rfl, silent_nil⟩⟩

end Surface

end ToolpathViewer
