import ToolpathViewer.Proofs.Session.Announcing
import ToolpathViewer.Proofs.Session.Pointing
import ToolpathViewer.Proofs.Window.Feedback

/-!
# Controls that follow the scene

The slider and the texts beside it show the scene of the surface after whatever the window takes: messages, slides, clicks and choices,
also where these fail. A call on the surface that has changed what they show has announced that, so the window has brought them in line
since; one that has announced nothing has left them right. The slider moves before the scene does when the user slides it. The scene
then comes to where the slider is, and says so.
-/

namespace ToolpathViewer

open Bridge

namespace Scene

variable {s s' : Scene}

/-- The slider that a scene asks for. -/
def slider (s : Scene) : Slider := { last := s.segmentCount - 1, value := s.scrubber }

/-- Scenes with the same view have the same slider. -/
theorem SameView.slider (h : SameView s s') : s'.slider = s.slider := by
  rw [Scene.slider, segmentCount, h.movements, h.scrubber]
  rfl

/-- Scenes with the same view have the same readout. -/
theorem SameView.readoutTexts (h : SameView s s') : s'.readoutTexts = s.readoutTexts := by
  have hreadout : s'.readout = s.readout := by
    rw [readout, markers?, h.selection, h.movements]
    rfl
  have hcount : s'.segmentCount = s.segmentCount := by
    rw [segmentCount, h.movements]
    rfl
  rw [Scene.readoutTexts, hreadout, hcount, h.dropped, h.scrubber]
  rfl

/-- Selecting keeps the scrubber. -/
theorem scrubber_select (s : Scene) (first last : Int) : (s.select first last).scrubber = s.scrubber := by
  unfold select
  split <;> rfl

/-- The scrubber comes to a segment of the path. -/
theorem scrubber_scrubTo {n : Nat} (h : n < s.segmentCount) : (s.scrubTo n).2.scrubber = n := by
  have hrange : (decide (0 ≤ (n : Int)) && decide ((n : Int) < s.segmentCount)) = true := by
    rw [Bool.and_eq_true, decide_eq_true_eq, decide_eq_true_eq]
    omega
  rw [scrubTo, if_pos hrange]
  exact scrubber_select _ _ _

/-- An empty scene asks for what the controls show at first. -/
theorem shown_of_make {codes : List Json} {limit divisions theme : Json} (h : make codes limit divisions theme = .ok s) :
    s.slider = {} ∧ s.readoutTexts = {} := by
  obtain ⟨t, -, hs⟩ := bind_eq_ok.1 h
  obtain rfl := Except.ok.inj hs
  have hzero : Decimal.fixed 3 0.0 = "0.000" := by decide +kernel
  refine ⟨rfl, ?_⟩
  change Readout.mk ("X: " ++ Decimal.fixed 3 0.0) ("Y: " ++ Decimal.fixed 3 0.0) ("Z: " ++ Decimal.fixed 3 0.0) "No toolpath" = {}
  rw [hzero]
  rfl

end Scene

namespace Surface

/-- Scrubbing leaves the scene that the scrubber comes to. -/
theorem scrub_scene (i : Int) (s : Surface) : (scrub i s).state.scene = (s.scene.scrubTo i).2 := by
  cases hline : (s.scene.scrubTo i).1 with
  | none => simp [scrub, hline]
  | some n => exact (scrub_points hline).scene

end Surface

namespace Slider

/-- A slider that is moved comes to where it can go, and tells if that is somewhere else. -/
theorem setValue_of_loud {s : Slider} (h : s.silenced = false) (value : Int) :
    setValue value s = ⟨.ok (), { s with value := Scene.clampIndex s.last value },
      if Scene.clampIndex s.last value = s.value then [] else [Scene.clampIndex s.last value]⟩ := by
  obtain ⟨last, old, silenced⟩ := s
  obtain rfl : silenced = false := h
  unfold setValue
  simp only [Step.bind_run, Step.get_run]
  by_cases hsame : Scene.clampIndex last value = old
  · rw [if_neg (by simpa using hsame), if_pos hsame, hsame]
    rfl
  · rw [if_pos hsame, if_neg hsame]
    rfl

end Slider

namespace Viewer

variable {limit divisions : Json} {v : Viewer}

/-- The controls show what the scene asks for, and the scene is sound. -/
structure InStep (limit divisions : Json) (v : Viewer) : Prop where
  slider : v.slider = v.surface.scene.slider
  readout : v.readout = v.surface.scene.readoutTexts
  sound : v.surface.scene.Sound limit divisions

/-- The call leaves the controls in step with the scene, whether it fails or not. -/
def Retains (limit divisions : Json) {α : Type} (x : Call α) : Prop :=
  x.Leads fun v v' => v.InStep limit divisions → v'.InStep limit divisions

namespace Retains

variable {α β : Type}

/-- Two calls in a row keep the controls in step. -/
theorem trans (v₁ v₂ v₃ : Viewer) (h : v₁.InStep limit divisions → v₂.InStep limit divisions)
    (h' : v₂.InStep limit divisions → v₃.InStep limit divisions) : v₁.InStep limit divisions → v₃.InStep limit divisions :=
  h' ∘ h

/-- Two calls in a row retain the controls. -/
theorem bind {x : Call α} {f : α → Call β} (hx : Retains limit divisions x) (hf : ∀ a, Retains limit divisions (f a)) :
    Retains limit divisions (x >>= f) :=
  Step.Leads.bind trans hx hf

/-- What is set off retains the controls if its call does. -/
theorem setOff {x : Call α} (hx : Retains limit divisions x) : Retains limit divisions (Viewer.setOff x) :=
  Step.Leads.reporting (fun _ => id) trans hx _

/-- A call that keeps the surface and the controls keeps them in step. -/
theorem of_keeps {x : Call α} (h : x.Keeps fun v => (v.surface, v.slider, v.readout)) : Retains limit divisions x := by
  intro v hv
  have hkept := h v
  simp only [Prod.mk.injEq] at hkept
  obtain ⟨hsurface, hslider, hreadout⟩ := hkept
  exact ⟨by rw [hslider, hsurface, hv.slider], by rw [hreadout, hsurface, hv.readout], by rw [hsurface]; exact hv.sound⟩

end Retains

/-- A call on the viewport keeps the surface, the slider and the readout. -/
theorem keeps_controls_onCanvas {α : Type} (x : Viewport.Call α) :
    (onCanvas x).Keeps fun v => (v.surface, v.slider, v.readout) := by
  intro v
  exact Step.Keeps.handling (fun v : Viewer => (v.surface, v.slider, v.readout)) (fun _ _ => rfl) x v

/-- Once the window has followed a sound scene, it is in step with it, also when showing the scene fails then. -/
theorem inStep_refresh (moved : Nat → Call Unit) (result : Option LoadResult) (hsound : v.surface.scene.Sound limit divisions) :
    (refresh moved result v).state.InStep limit divisions := by
  have hslider : onSlider moved (Slider.follow v.surface.scene) v = ⟨.ok (), { v with slider := v.surface.scene.slider }, []⟩ := by
    rw [onSlider, Step.handling, Slider.follow_run, Scene.clampIndex_of_le hsound.scrubber_le]
    rfl
  have hshown : Retains limit divisions (do
      let v ← Step.get
      if result.any (·.reframe) then onCanvas (Viewport.resetView v.surface.scene) else onCanvas Viewport.repaint) := by
    refine Retains.bind (fun _ => id) fun v => ?_
    split
    · exact .of_keeps (keeps_controls_onCanvas _)
    · exact .of_keeps (keeps_controls_onCanvas _)
  -- Showing the whole path may fail, when the controls are in step already.
  have hfollowed : InStep limit divisions
      { v with slider := v.surface.scene.slider, readout := v.surface.scene.readoutTexts } := ⟨rfl, rfl, hsound⟩
  have hlast := hshown _ hfollowed
  rw [refresh, Step.bind_of_ok (Step.get_run v), Step.bind_of_ok hslider, Step.bind_of_ok (Step.update_run _ _)]
  exact hlast

/-- What the window does about an effect of its surface. -/
def answer (moved : Nat → Call Unit) : Surface.Effect → Call Unit
  | .log e => Step.emit (.log e)
  | .post m => Step.update fun v => { v with poster := v.poster.post (some m) }
  | .update _ result => refresh moved result

/-- A call on the surface with what is done about its effects. -/
theorem onSurfaceBy_eq_handling (moved : Nat → Call Unit) {α : Type} (x : Surface.Call α) :
    onSurfaceBy moved x = x.handling (·.surface) (fun surface v => { v with surface }) (answer moved) := rfl

/-- While the surface announces nothing, nothing but the poster changes. -/
theorem each_silent (moved : Nat → Call Unit) {es : List Surface.Effect} (h : Surface.Silent es) (v : Viewer) :
    ∃ poster out, Step.each (answer moved) es v = ⟨.ok (), { v with poster }, out⟩ := by
  induction es generalizing v with
  | nil => exact ⟨v.poster, [], rfl⟩
  | cons e es ih =>
    have hfirst : ∃ poster out, answer moved e v = ⟨.ok (), { v with poster }, out⟩ := by
      cases e with
      | log entry => exact ⟨v.poster, [.log entry], rfl⟩
      | post m => exact ⟨v.poster.post (some m), [], rfl⟩
      | update what result => cases h _ List.mem_cons_self
    obtain ⟨poster, out, hfirst⟩ := hfirst
    obtain ⟨poster', out', hrest⟩ := ih (fun e' he' => h e' (List.mem_cons_of_mem e he')) { v with poster }
    refine ⟨poster', out ++ out', ?_⟩
    change (answer moved e >>= fun _ => Step.each (answer moved) es) v = _
    rw [Step.bind_of_ok hfirst, hrest]

/-- What is announced is followed. So after a call on the surface that ends in an announcement the window is in step, wherever its
controls were before. -/
theorem inStep_of_update (moved : Nat → Call Unit) {α : Type} {x : Surface.Call α} {es : List Surface.Effect} {what : Surface.Update}
    {result : Option LoadResult} (hemitted : (x v.surface).emitted = es ++ [.update what result]) (hes : Surface.Silent es)
    (hsound : (x v.surface).state.scene.Sound limit divisions) : (onSurfaceBy moved x v).state.InStep limit divisions := by
  obtain ⟨poster, out, hsilent⟩ := each_silent moved hes { v with surface := (x v.surface).state }
  rw [onSurfaceBy_eq_handling, Step.handling_state_eq, hemitted, Step.each_concat hsilent]
  exact inStep_refresh moved result hsound

/-- A call on the surface that announces what it changes leaves the window in step. -/
theorem retains_onSurfaceBy (moved : Nat → Call Unit) {α : Type} {x : Surface.Call α} (hx : Surface.Announcing limit divisions x) :
    Retains limit divisions (onSurfaceBy moved x) := by
  intro v hv
  have hchanges := hx v.surface hv.sound
  have hsound := hchanges.sound hv.sound
  rcases hchanges.announced with ⟨es, what, result, hemitted, hes⟩ | ⟨hsilent, hview⟩
  · exact inStep_of_update moved hemitted hes hsound
  · obtain ⟨poster, out, hsilent⟩ := each_silent moved hsilent { v with surface := (x v.surface).state }
    rw [onSurfaceBy_eq_handling, Step.handling_state_eq, hsilent]
    exact ⟨hv.slider.trans hview.slider.symm, hv.readout.trans hview.readoutTexts.symm, hsound⟩

/-- What is set off leaves what its call leaves. -/
theorem setOff_state {α : Type} (x : Call α) (v : Viewer) : (setOff x v).state = (x v).state := by
  obtain ⟨out, hout⟩ := Step.reporting_run Window.Effect.failed x v
  rw [setOff, hout]

/-- When the user slides, the slider moves before the scene. It comes to another segment then, so the scene changes, and announces
that. -/
theorem retains_setSlider (value : Int) : Retains limit divisions (setSlider value) := by
  intro v hv
  have hloud : v.slider.silenced = false := by
    rw [hv.slider]
    rfl
  rw [setSlider, onSlider, Step.handling_state_eq, Slider.setValue_of_loud hloud]
  generalize hn : Scene.clampIndex v.slider.last value = n
  by_cases hsame : n = v.slider.value
  · rw [if_pos hsame, hsame]
    exact hv
  · rw [if_neg hsame]
    have hlast : n < v.surface.scene.segmentCount := by
      have hle := Scene.clampIndex_le v.slider.last value
      have hscrubber := hv.sound.scrubber_le
      rw [hn] at hle
      rw [hv.slider] at hle hsame
      simp only [Scene.slider] at hle hsame
      omega
    have hscrub : n ≠ v.surface.scene.scrubber := by rwa [hv.slider] at hsame
    have hchanges := Surface.announcing_scrub n v.surface hv.sound
    rw [← List.nil_append [n], Step.each_concat rfl, slid, setOff_state]
    rcases hchanges.announced with ⟨es, what, result, hemitted, hes⟩ | ⟨-, hview⟩
    · exact inStep_of_update _ hemitted hes (hchanges.sound hv.sound)
    · -- Had nothing been announced, the scrubber would stand where it stood.
      have hstays := hview.scrubber
      rw [Surface.scrub_scene, Scene.scrubber_scrubTo hlast] at hstays
      exact absurd hstays hscrub

/-- What can happen to the window. -/
inductive Event where
  /-- Polling and posting are started, and the host is told that the view is ready. -/
  | start
  /-- A message has come. -/
  | message (p : Payload)
  /-- The user moves the slider. -/
  | slide (value : Int)
  /-- The pointer, the wheel or a painting acts on the canvas. -/
  | canvas (x : Viewport.Call Unit)
  | click (beam : Scene.Beam)
  | theme (name : String)
  | tick (what : String) (shown : Bool)

/-- The call that an event is. -/
def Event.call [Json.Room] : Event → Call Unit
  | .start => Viewer.start
  | .message p => setOff (receive p)
  | .slide value => setSlider value
  | .canvas x => onViewport x
  | .click beam => setOff (clicked beam)
  | .theme name => chooseTheme name
  | .tick what shown => setCheck what shown

/-- A call on the surface that announces what it changes retains the controls. -/
theorem retains_onSurface {α : Type} {x : Surface.Call α} (hx : Surface.Announcing limit divisions x) :
    Retains limit divisions (onSurface x) :=
  retains_onSurfaceBy _ hx

/-- A click retains the controls. -/
theorem retains_clicked (beam : Scene.Beam) : Retains limit divisions (clicked beam) := by
  refine Retains.bind (fun _ => id) fun v => Retains.bind (fun _ => id) fun threshold => ?_
  exact (retains_onSurface (Surface.announcing_click beam threshold)).bind fun _ _ => id

/-- Starting retains the controls. -/
theorem retains_start : Retains limit divisions start := by
  refine Retains.bind (fun v hv => ⟨hv.slider, hv.readout, hv.sound⟩) fun _ => ?_
  exact (retains_onSurface Surface.announcing_connected).bind fun _ => retains_onSurface Surface.announcing_ready

/-- What happens to the canvas, clicks included. -/
theorem retains_onViewport {α : Type} (x : Viewport.Call α) : Retains limit divisions (onViewport x) := by
  refine Step.Leads.handling (fun _ => id) Retains.trans (P := fun _ => True) (fun v hv => ⟨hv.slider, hv.readout, hv.sound⟩)
    (fun _ _ _ => trivial) fun e _ => ?_
  cases e with
  | draw d => exact fun _ => id
  | repaint => exact fun _ => id
  | click beam => exact (retains_clicked beam).setOff

/-- Choosing a theme retains the controls. -/
theorem retains_chooseTheme (name : String) : Retains limit divisions (chooseTheme name) := by
  intro v hv
  rw [chooseTheme, Step.bind_of_ok (Step.get_run v)]
  cases Theme.ofName? name with
  | none => exact hv
  | some theme =>
    by_cases hother : theme ≠ v.theme
    · have hchosen : InStep limit divisions { v with theme } := ⟨hv.slider, hv.readout, hv.sound⟩
      simp only [if_pos hother]
      rw [Step.bind_of_ok (Step.set_run v _)]
      exact (retains_onSurface (Surface.announcing_setTheme name)).setOff _ hchosen
    · simp only [if_neg hother]
      exact hv

/-- Ticking retains the controls. -/
theorem retains_setCheck (what : String) (shown : Bool) : Retains limit divisions (setCheck what shown) := by
  intro v hv
  rw [setCheck, Step.bind_of_ok (Step.get_run v)]
  split
  · rw [Step.bind_of_ok (Step.set_run v _)]
    refine Retains.setOff (.of_keeps (keeps_controls_onCanvas (Viewport.toggle what))) _ ?_
    exact ⟨hv.slider, hv.readout, hv.sound⟩
  · exact hv

/-- Every event retains the controls. -/
theorem retains_call [Json.Room] (e : Event) : Retains limit divisions e.call := by
  cases e with
  | start => exact retains_start
  | message p => exact (retains_onSurface (Surface.announcing_receive p)).setOff
  | slide value => exact retains_setSlider value
  | canvas x => exact retains_onViewport x
  | click beam => exact (retains_clicked beam).setOff
  | theme name => exact retains_chooseTheme name
  | tick what shown => exact retains_setCheck what shown

/-- A window after events. -/
def after [Json.Room] (v : Viewer) (events : List Event) : Viewer := events.foldl (fun v e => (e.call v).state) v

/-- A window in step stays so along all events. -/
theorem InStep.after [Json.Room] (h : v.InStep limit divisions) (events : List Event) : (v.after events).InStep limit divisions := by
  induction events generalizing v with
  | nil => exact h
  | cons e events ih => exact ih (retains_call e v h)

/-- A new window is in step. -/
theorem inStep_of_make {endpoint token : String} {c : Config} {version : Int} (h : make endpoint token c version = .ok v) :
    v.InStep c.limit c.divisions := by
  obtain ⟨surface, hsurface, hv⟩ := bind_eq_ok.1 h
  obtain ⟨codes, -, hmade⟩ := bind_eq_ok.1 hsurface
  obtain ⟨scene, hscene, hs⟩ := bind_eq_ok.1 hmade
  cases hv
  cases hs
  obtain ⟨hslider, hreadout⟩ := Scene.shown_of_make hscene
  exact ⟨hslider.symm, hreadout.symm, Scene.sound_of_make hscene⟩

/-- The controls show a scene: the slider how many segments there are and where the scrubber stands, the texts the position, the number
of the segment, how many there are and how many movements are missing. -/
structure Shows (v : Viewer) (s : Scene) : Prop where
  last : v.slider.last = s.segmentCount - 1
  value : v.slider.value = s.scrubber
  loud : v.slider.silenced = false
  x : v.readout.x = "X: " ++ Decimal.fixed 3 s.readout.x
  y : v.readout.y = "Y: " ++ Decimal.fixed 3 s.readout.y
  z : v.readout.z = "Z: " ++ Decimal.fixed 3 s.readout.z
  segment : v.readout.segment =
    if s.segmentCount = 0 then "No toolpath"
    else "Segment " ++ toString (s.scrubber + 1) ++ " / " ++ toString s.segmentCount ++
      if s.dropped = 0 then "" else " (" ++ toString s.dropped ++ " moves not shown)"

/-- The controls of a window in step show its scene. -/
theorem InStep.shows (h : v.InStep limit divisions) : v.Shows v.surface.scene := by
  constructor <;> simp only [h.slider, h.readout, Scene.slider, Scene.readoutTexts]

end Viewer

/-- Each call on the surface announces what it changes, once and at its end, also one that fails. -/
structure Surface.Announced [Json.Room] (s : Surface) : Prop where
  connected : Announces s.scene (connected s)
  ready : Announces s.scene (ready s)
  receive : ∀ p, Announces s.scene (receive p s)
  scrub : ∀ i, Announces s.scene (scrub i s)
  click : ∀ beam threshold, Announces s.scene (click beam threshold s)
  setTheme : ∀ name, Announces s.scene (setTheme name s)

/-- A surface with a sound scene has announced all. -/
theorem Surface.announced_of_sound [Json.Room] {s : Surface} {limit divisions : Json} (h : s.scene.Sound limit divisions) :
    s.Announced := by
  constructor
  case connected => exact (announcing_connected s h).announced
  case ready => exact (announcing_ready s h).announced
  case receive => exact fun p => (announcing_receive p s h).announced
  case scrub => exact fun i => (announcing_scrub i s h).announced
  case click => exact fun beam threshold => (announcing_click beam threshold s h).announced
  case setTheme => exact fun name => (announcing_setTheme name s h).announced

/-- Whatever a new window takes, the controls show the scene afterwards, also where something that it took has failed; and whatever the
surface is called for next, it announces what that changes. -/
theorem controls_follow_scene [Json.Room] {endpoint token : String} {c : Config} {version : Int} {v₀ : Viewer}
    (h : Viewer.make endpoint token c version = .ok v₀) (events : List Viewer.Event) :
    (v₀.after events).Shows (v₀.after events).surface.scene ∧ (v₀.after events).surface.Announced := by
  have hstep := (Viewer.inStep_of_make h).after events
  exact ⟨hstep.shows, Surface.announced_of_sound hstep.sound⟩

section Usual

attribute [local instance] Json.Room.usual

/-- A window that has taken a program of two segments, with its slider pushed beyond the end, stands on the second one, and so does its
scene. -/
theorem controls_follow_scene_pushed_slider :
    ∃ v₀ v, Viewer.make "http://bridge/" "secret" {} 0 = .ok v₀ ∧
      v₀.after [.start, .message (.value ((Message.Notice.program false "G0 X1\nG1 X2").message ["G90"]).toJson), .slide 7] = v ∧
      v.surface.scene.scrubber = 1 ∧ v.slider = { last := 1, value := 1 } ∧ v.readout.segment = "Segment 2 / 2" := by
  have hmake : ∃ v₀, Viewer.make "http://bridge/" "secret" {} 0 = .ok v₀ := ⟨_, rfl⟩
  obtain ⟨v₀, hmake⟩ := hmake
  obtain ⟨hshows, -⟩ := controls_follow_scene hmake
    [.start, .message (.value ((Message.Notice.program false "G0 X1\nG1 X2").message ["G90"]).toJson), .slide 7]
  refine ⟨v₀, _, hmake, rfl, ?_⟩
  obtain rfl := Except.ok.inj hmake
  refine ⟨?_, ?_, ?_⟩
  · rw [← hshows.value]
    decide +kernel
  · decide +kernel
  · rw [hshows.segment]
    decide +kernel

end Usual

end ToolpathViewer
