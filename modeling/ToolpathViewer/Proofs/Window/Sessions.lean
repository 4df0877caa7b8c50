import ToolpathViewer.Proofs.Window.Passing

/-!
# The sessions of the main window

A session comes and goes with its viewer: the host gets a document when the viewer is opened, and gives it up when the viewer is closed, or
the window. So a viewer is opened only while the host has no document and nothing waits, unless no viewer can be made at all; and whatever
happens, what the host hands over because of that is all that comes behind what waited (`Orderly.call`).
-/

namespace ToolpathViewer

open Bridge

/-- A viewer that has been started polls as the client that it was made with. -/
theorem Viewer.keeps_client_start : Viewer.start.Keeps Viewer.client := by
  have hsurface : ∀ {α : Type} (x : Surface.Call α), (onSurface x).Keeps Viewer.client := by
    intro α x
    refine Step.Keeps.handling Viewer.client (fun e => ?_) x
    cases e with
    | log e => exact fun v => rfl
    | post m => exact fun v => rfl
    | update what result => exact keeps_refresh (fun _ _ _ _ => rfl) slid result
  exact Step.Keeps.bind (fun _ => rfl) fun _ => (hsurface _).bind fun _ => hsurface _

/-- A surface takes the settings from the configuration that the host sends them from. -/
theorem Surface.settings_of_ofConfig {c : Config} {surface : Surface} (h : ofConfig c = .ok surface) :
    ∃ settings, c.settings = .ok settings := by
  unfold ofConfig at h
  cases hexcluded : c.excluded with
  | error why =>
    rw [hexcluded] at h
    cases h
  | ok vs => exact ⟨_, by rw [Config.settings, hexcluded]; rfl⟩

/-- Without a surface there is no viewer. -/
theorem Viewer.make_of_error {c : Config} {why : Fault} (h : Surface.ofConfig c = .error why) (endpoint token : String) (after : Int) :
    make endpoint token c after = .error why := by
  rw [make, h]
  rfl

/-- A viewer that is made for a version has one listener and asks for what is newer. -/
theorem Viewer.make_of_ok {c : Config} {surface : Surface} (h : Surface.ofConfig c = .ok surface) (endpoint token : String)
    (after : Int) :
    ∃ v, make endpoint token c after = .ok v ∧ v.client.version = after ∧ v.client.listeners = [()] := by
  rw [make, h]
  exact ⟨_, rfl, rfl, rfl⟩

namespace Workspace

variable {w : Workspace}

/-! ## Opening and closing -/

/-- A call on the channel leaves the rest of the window alone. -/
theorem onChannel_run {α : Type} (x : Step Log.Entry (Channel Unit) α) (w : Workspace) :
    ∃ out, onChannel x w =
      ⟨(x w.host.channel).result, { w with host := { w.host with channel := (x w.host.channel).state } }, out⟩ :=
  Step.handling_of_emits _ fun e _ => ⟨.log e, rfl⟩

/-- Attaching a document changes nothing but the host. -/
theorem onHost_attach_run (text : String) (w : Workspace) :
    ∃ out, onHost (Host.attach text) w = ⟨(Host.attach text w.host).result, { w with host := (Host.attach text w.host).state }, out⟩ := by
  refine Step.handling_of_emits (fun host (w : Workspace) => { w with host }) fun e he => ?_
  obtain ⟨entry, rfl⟩ := Host.emits_attach text w.host e he
  exact ⟨.log entry, rfl⟩

/-- Starting an open channel succeeds, and keeps its buffer. -/
theorem start_of_open {c : Channel Unit} (hopen : c.stopped = false) (port : Nat) :
    ∃ endpoint c' out, (Channel.start port : Step Log.Entry (Channel Unit) _) c = ⟨.ok endpoint, c', out⟩ ∧
      c'.buffer = c.buffer ∧ c'.stopped = false := by
  have hcheck : c.checkOpen = .ok () := by rw [Channel.checkOpen, hopen]; rfl
  simp only [Channel.start, Step.bind_run, Step.get_run, Step.ofExcept_run, hcheck]
  cases hserving : c.serving with
  | true => exact ⟨_, _, _, rfl, rfl, hopen⟩
  | false => exact ⟨_, _, _, rfl, rfl, hopen⟩

/-- Opening the viewer attaches the text to the host. It fails when no viewer can be made; otherwise the viewer asks for what is newer than
all that the channel held before. -/
theorem openViewer_of_none (hviewer : w.viewer = none) (hopen : w.host.channel.stopped = false) :
    ∃ c : Channel Unit, c.buffer = w.host.channel.buffer ∧ c.stopped = false ∧
      (openViewer w).state.host = (Host.attach w.text { w.host with channel := c }).state ∧
      (openViewer w).state.config = w.config ∧
      ((openViewer w).state.viewer = none ∧ (w.host.config = w.config → ∀ surface, Surface.ofConfig w.config ≠ .ok surface) ∨
        ∃ v surface, (openViewer w).state.viewer = some v ∧ Surface.ofConfig w.config = .ok surface ∧
          v.client.version = w.host.channel.buffer.latest ∧ v.client.listeners = [()]) := by
  obtain ⟨endpoint, c, out, hstart, hbuffer, hstill⟩ := start_of_open hopen w.port
  obtain ⟨out, hchannel⟩ := onChannel_run (Channel.start w.port) w
  rw [hstart] at hchannel
  refine ⟨c, hbuffer, hstill, ?_⟩
  rw [openViewer, Step.bind_run, Step.get_run]
  dsimp only
  rw [hviewer, if_neg (by decide), Step.bind_run, hchannel]
  dsimp only
  rw [Step.bind_run, Step.get_run]
  dsimp only
  obtain ⟨out, hattach⟩ := onHost_attach_run w.text { w with host := { w.host with channel := c } }
  rw [Step.bind_run, hattach, Host.attach_result hstill]
  cases hsettings : w.host.config.settings with
  | error why =>
    refine ⟨rfl, rfl, Or.inl ⟨hviewer, fun hconfig surface hsurface => ?_⟩⟩
    obtain ⟨settings, hsettings'⟩ := Surface.settings_of_ofConfig hsurface
    rw [hconfig, hsettings'] at hsettings
    cases hsettings
  | ok settings =>
    dsimp only [Except.map]
    rw [Step.bind_run, Step.ofExcept_run]
    cases hsurface : Surface.ofConfig w.config with
    | error why =>
      rw [Viewer.make_of_error hsurface]
      exact ⟨rfl, rfl, Or.inl ⟨hviewer, fun _ _ => nofun⟩⟩
    | ok surface =>
      obtain ⟨v, hmake, hversion, hlisteners⟩ :=
        Viewer.make_of_ok hsurface (endpoint.getD "") w.host.channel.token c.buffer.latest
      rw [hmake]
      rw [hbuffer] at hversion
      dsimp only
      rw [Step.bind_run, Step.update_run]
      dsimp only
      rw [Step.bind_run, onViewer_run Viewer.start rfl]
      have hclient := Viewer.keeps_client_start v
      cases (Viewer.start v).result with
      | error why => exact ⟨rfl, rfl, Or.inr ⟨_, surface, rfl, rfl, hclient ▸ hversion, hclient ▸ hlisteners⟩⟩
      | ok _ => exact ⟨rfl, rfl, Or.inr ⟨_, surface, rfl, rfl, hclient ▸ hversion, hclient ▸ hlisteners⟩⟩

/-- The other window differs in the channel, but not in its messages, and perhaps in what neither the host nor the viewer has to do with. -/
def SameButChannel (w w' : Workspace) : Prop :=
  ∃ c : Channel Unit, c.buffer = w.host.channel.buffer ∧ w'.host = { w.host with channel := c } ∧ w'.viewer = w.viewer ∧
    w'.config = w.config

/-- A window is the same as itself. -/
theorem sameButChannel_refl (w : Workspace) : SameButChannel w w := ⟨w.host.channel, rfl, rfl, rfl, rfl⟩

/-- Windows that differ in the channel from one that differs in the channel do so from each other. -/
theorem sameButChannel_trans (w₁ w₂ w₃ : Workspace) (h : SameButChannel w₁ w₂) (h' : SameButChannel w₂ w₃) : SameButChannel w₁ w₃ := by
  obtain ⟨c, hbuffer, hhost, hviewer, hconfig⟩ := h
  obtain ⟨c', hbuffer', hhost', hviewer', hconfig'⟩ := h'
  rw [hhost] at hbuffer' hhost'
  exact ⟨c', hbuffer'.trans hbuffer, hhost', hviewer'.trans hviewer, hconfig'.trans hconfig⟩

/-- Stopping a channel keeps its buffer. -/
theorem buffer_stop (c : Channel Unit) : ((Channel.stop : Step Log.Entry (Channel Unit) Unit) c).state.buffer = c.buffer := by
  rw [Channel.stop, Step.bind_run, Step.get_run]
  dsimp only
  split <;> rfl

/-- Stopping the channel changes nothing else. -/
theorem leads_stop : (onChannel Channel.stop).Leads SameButChannel := by
  intro w
  obtain ⟨out, hrun⟩ := onChannel_run Channel.stop w
  rw [hrun]
  exact ⟨_, buffer_stop w.host.channel, rfl, rfl, rfl⟩

variable [Json.Room]

/-- Opening the viewer once more only calls it to the front, and none is opened once the channel has been stopped. -/
theorem openViewer_of_passes_nil (h : (w.viewer.isSome || w.host.channel.stopped) = true) : Passed [] w (openViewer w).state := by
  rw [openViewer, Step.bind_run, Step.get_run]
  dsimp only
  by_cases hviewer : w.viewer.isSome = true
  · rw [if_pos hviewer]
    exact ⟨rfl, rfl, rfl⟩
  · have hstopped : w.host.channel.stopped = true := (Bool.or_eq_true_iff.1 h).resolve_left hviewer
    have hstart : (Channel.start w.port : Step Log.Entry (Channel Unit) _) w.host.channel = ⟨.error .stopped, w.host.channel, []⟩ := by
      simp [Channel.start, Channel.checkOpen, hstopped]
    obtain ⟨out, hchannel⟩ := onChannel_run (Channel.start w.port) w
    rw [hstart] at hchannel
    rw [if_neg hviewer, Step.bind_run, hchannel]
    exact .refl w

/-- With the viewer the document is given up. -/
theorem viewerClosed_state (w : Workspace) :
    (viewerClosed w).state.host = w.host.follow [.detach] ∧ (viewerClosed w).state.viewer = none ∧
      (viewerClosed w).state.config = w.config := by
  have hpassed : Passed [.detach] { w with viewer := none } (viewerClosed w).state :=
    (passed_onHost (w := { w with viewer := none }) .detach).bind fun _ _ => ⟨rfl, rfl, rfl⟩
  exact ⟨hpassed.host, hpassed.viewer, hpassed.config⟩

/-- Closing the viewer detaches the host. -/
theorem closeViewer_of_some {v : Viewer} (hviewer : w.viewer = some v) :
    (closeViewer w).result = .ok () ∧ (closeViewer w).state.host = w.host.follow [.detach] ∧ (closeViewer w).state.viewer = none ∧
      (closeViewer w).state.config = w.config := by
  obtain ⟨out, hclosed⟩ := setOff_run viewerClosed { w with viewer := some v.close }
  rw [closeViewer, Step.bind_run, onViewer_run _ hviewer, Step.update_run]
  dsimp only
  rw [hclosed]
  exact ⟨rfl, viewerClosed_state { w with viewer := some v.close }⟩

/-- Detaching, stopping the channel, and what is changed then, if that has nothing to do with the host or the viewer. -/
theorem shutDown_state {f g : Workspace → Workspace} (hf : ∀ w, SameButChannel w (f w)) (hg : ∀ w, SameButChannel w (g w))
    (w : Workspace) :
    ∃ w₁ : Workspace, Passed [.detach] w w₁ ∧ SameButChannel w₁
      ((do onHost Host.detach; onChannel Channel.stop; Step.update f; Step.update g : Call Unit) w).state := by
  refine ⟨_, passed_onHost .detach, Step.Leads.after sameButChannel_refl (fun _ => ?_) (onHost Host.detach) w⟩
  exact leads_stop.bind sameButChannel_trans fun _ => Step.Leads.bind sameButChannel_trans hf fun _ => hg

/-- Closing leaves no viewer and no document, and the channel holds what it held. -/
theorem close_state (w : Workspace) :
    ∃ w₁ : Workspace, w₁.host = w.host.follow (Event.close.passes w) ∧ w₁.viewer = none ∧ w₁.config = w.config ∧
      SameButChannel w₁ (close w).state := by
  rw [Event.passes, close, Step.bind_run, Step.get_run]
  dsimp only
  cases hviewer : w.viewer with
  | none =>
    rw [if_neg (by simp), if_neg (by simp), List.nil_append]
    refine Exists.imp (fun w₁ h => ⟨h.1.host, h.1.viewer.trans hviewer, h.1.config, h.2⟩)
      (shutDown_state (fun w => ?_) (fun w => ?_) w)
    · split <;> exact ⟨w.host.channel, rfl, rfl, rfl, rfl⟩
    · exact ⟨w.host.channel, rfl, rfl, rfl, rfl⟩
  | some v =>
    obtain ⟨hresult, hhost, hnone, hconfig⟩ := closeViewer_of_some hviewer
    rw [if_pos (by simp), if_pos (by simp), Step.bind_run, hresult, Host.follow_append, ← hhost, ← hconfig]
    refine Exists.imp (fun w₁ h => ⟨h.1.host, h.1.viewer.trans hnone, h.1.config, h.2⟩)
      (shutDown_state (fun w => ?_) (fun w => ?_) _)
    · split <;> exact ⟨w.host.channel, rfl, rfl, rfl, rfl⟩
    · exact ⟨w.host.channel, rfl, rfl, rfl, rfl⟩

/-! ## Order -/

/-- What holds of a main window at any time. Without a viewer the host has a document only if no viewer can be made. -/
structure Orderly (w : Workspace) : Prop where
  host : w.host.Orderly
  configured : w.host.config = w.config
  shut : w.viewer = none → w.host.attached = true → ∀ surface, Surface.ofConfig w.config ≠ .ok surface

namespace Orderly

variable {w' : Workspace}

/-- The host has taken some events, and no viewer has been opened. -/
theorem of_follow (ho : w.Orderly) (es : List Host.Event) (hhost : w'.host = w.host.follow es) (hconfig : w'.config = w.config)
    (hattach : ∀ text, .attach text ∈ es → w.host.attached = true)
    (hshut : w'.viewer = none → w'.host.attached = true → w.viewer = none) :
    w'.Orderly ∧ ∃ ps, Host.Handed (w.host.handsAll es) ps w.host w'.host := by
  have hopen : ∀ text, .attach text ∈ es → w.host.channel.stopped = false := by
    intro text hmem
    cases hstopped : w.host.channel.stopped with
    | false => rfl
    | true => exact (hattach text hmem).symm.trans (ho.host.closed hstopped)
  obtain ⟨horderly, ⟨ps, hhanded⟩, -⟩ := ho.host.follow hopen
  rw [← hhost] at horderly hhanded
  refine ⟨⟨horderly, ?_, fun hviewer hattached => ?_⟩, ps, hhanded⟩
  · rw [hhanded.config, ho.configured, hconfig]
  · rw [hconfig]
    refine ho.shut (hshut hviewer hattached) ?_
    by_contra hnot
    have hnone := Host.attached_follow (Bool.not_eq_true _ |>.mp hnot) fun text hmem => hnot (hattach text hmem)
    rw [← hhost, hattached] at hnone
    cases hnone

/-- An orderly window that passes events on to its host stays orderly, and the host hands over what they give. -/
theorem of_passed (ho : w.Orderly) {es : List Host.Event} (h : Passed es w w') (hattach : ∀ text, .attach text ∈ es → w.host.attached = true) :
    w'.Orderly ∧ ∃ ps, Host.Handed (w.host.handsAll es) ps w.host w'.host :=
  ho.of_follow es h.host h.config hattach fun hviewer _ => h.viewer ▸ hviewer

/-- Opening the viewer. -/
theorem openViewer (ho : w.Orderly) (hviewer : w.viewer = none) (hopen : w.host.channel.stopped = false) :
    (Workspace.openViewer w).state.Orderly ∧
      ∃ ps, Host.Handed (w.host.handsAll [.attach w.text]) ps w.host (Workspace.openViewer w).state.host := by
  obtain ⟨c, hbuffer, hstill, hhost, hconfig, hmade⟩ := openViewer_of_none hviewer hopen
  obtain ⟨horderly, hchannel⟩ := ho.host.withChannel hbuffer fun hstopped => absurd (hstill.symm.trans hstopped) (by decide)
  obtain ⟨hattached, ⟨ps, hhanded⟩, -⟩ := horderly.call (.attach w.text) fun _ _ => hstill
  replace hhost : (Workspace.openViewer w).state.host = ((Host.Event.attach w.text).call { w.host with channel := c }).state := hhost
  replace hhanded := hchannel.trans hhanded
  rw [← hhost] at hattached hhanded
  refine ⟨⟨hattached, ?_, fun hnone _ => ?_⟩, [] ++ ps, ?_⟩
  · rw [hhanded.config, ho.configured, hconfig]
  · rw [hconfig]
    rcases hmade with ⟨-, hfails⟩ | ⟨v, _, hsome, -⟩
    · exact hfails ho.configured
    · rw [hsome] at hnone
      cases hnone
  · have hands : w.host.handsAll [.attach w.text] = [] ++ (Host.Event.attach w.text).hands { w.host with channel := c } :=
      List.append_nil _
    rw [hands]
    exact hhanded

/-- Closing the window. -/
theorem close (ho : w.Orderly) :
    (Workspace.close w).state.Orderly ∧
      ∃ ps, Host.Handed (w.host.handsAll (Event.close.passes w)) ps w.host (Workspace.close w).state.host := by
  obtain ⟨w₁, hhost, hnone, hconfig, c, hbuffer, hchannel, hviewer, hconfig'⟩ := close_state w
  have hattach : ∀ text, Host.Event.attach text ∉ Event.close.passes w := by
    intro text hmem
    rw [Event.passes] at hmem
    split at hmem <;> simp at hmem
  have hattached : w₁.host.attached = false := by
    rw [hhost, Event.passes, Host.follow_append]
    exact Host.attached_detach _
  obtain ⟨horderly, ps, hhanded⟩ := ho.of_follow _ hhost hconfig (fun text hmem => absurd hmem (hattach text)) fun _ h =>
    absurd (hattached.symm.trans h) (by decide)
  obtain ⟨hstopped, hsame⟩ := horderly.host.withChannel hbuffer fun _ => hattached
  rw [← hchannel] at hstopped hsame
  refine ⟨⟨hstopped, ?_, fun _ h => ?_⟩, ps ++ [], ?_⟩
  · rw [hsame.config, horderly.configured, hconfig']
  · rw [hchannel, hattached] at h
    cases h
  · have hall := hhanded.trans hsame
    rwa [List.append_nil] at hall

/-- Whatever happens to a main window leaves it orderly, and what its host hands over because of that is all that comes behind what
waited. -/
theorem call (ho : w.Orderly) (e : Event) :
    (e.call w).state.Orderly ∧ ∃ ps, Host.Handed (w.host.handsAll (e.passes w)) ps w.host (e.call w).state.host := by
  have hnone : ∀ text, Host.Event.attach text ∈ [] → w.host.attached = true := fun _ hmem => absurd hmem List.not_mem_nil
  cases e with
  | openViewer =>
    rw [Event.passes]
    split
    · rename_i hnot
      exact ho.of_passed (openViewer_of_passes_nil hnot) hnone
    · rename_i hnot
      obtain ⟨hviewer, hopen⟩ := Bool.or_eq_false_iff.1 (Bool.not_eq_true _ |>.mp hnot)
      exact ho.openViewer (Option.isNone_iff_eq_none.1 (by simpa using hviewer)) hopen
  | closeViewer =>
    rw [Event.passes]
    cases hviewer : w.viewer with
    | none =>
      have hrun : Workspace.closeViewer w = ⟨.error .noFields, w, []⟩ := Step.bind_of_error (onViewer_of_none _ hviewer) _
      change (Workspace.closeViewer w).state.Orderly ∧ ∃ ps, Host.Handed _ ps w.host (Workspace.closeViewer w).state.host
      rw [hrun]
      exact ho.of_passed (Passed.refl w) hnone
    | some v =>
      obtain ⟨-, hhost, -, hconfig⟩ := closeViewer_of_some hviewer
      refine ho.of_follow [.detach] hhost hconfig (fun text hmem => by simp at hmem) fun _ hattached => ?_
      change (Workspace.closeViewer w).state.host.attached = true at hattached
      rw [hhost] at hattached
      exact absurd (w.host.attached_detach.symm.trans hattached) (by decide)
  | inViewer x =>
    change (onViewer x w).state.Orderly ∧ ∃ ps, Host.Handed _ ps w.host (onViewer x w).state.host
    cases hviewer : w.viewer with
    | none =>
      rw [onViewer_of_none x hviewer]
      exact ho.of_passed (Passed.refl w) hnone
    | some v =>
      rw [onViewer_run x hviewer]
      exact ho.of_follow [] rfl rfl hnone fun hviewer _ => by cases hviewer
  | receive payload =>
    obtain ⟨out, hrun⟩ := setOff_run (onHost (Host.receive (.text payload))) w
    change (setOff (onHost (Host.receive (.text payload))) w).state.Orderly ∧
      ∃ ps, Host.Handed _ ps w.host (setOff (onHost (Host.receive (.text payload))) w).state.host
    rw [hrun]
    exact ho.of_passed (passed_onHost (.incoming (.text payload))) fun text hmem => by simp [Event.passes] at hmem
  | edit x => exact ho.of_passed (passed_onEditor x).1 fun text hmem => absurd hmem (attach_not_mem_carets _ text)
  | settle =>
    refine ho.of_passed passed_settle fun text hmem => ?_
    rw [Event.passes] at hmem
    split at hmem
    · simp at hmem
    · cases hmem
  | openFile path =>
    refine ho.of_passed (passed_openFile path) fun text hmem => ?_
    rw [Event.passes] at hmem
    split at hmem
    · cases hmem
    · by_contra hattached
      rw [if_neg hattached, List.append_nil] at hmem
      exact attach_not_mem_carets _ text hmem
  | save path => exact ho.of_passed (passed_save path) hnone
  | replaceFiles files =>
    have hpassed : Passed [] w ((Event.replaceFiles files).call w).state := ⟨rfl, rfl, rfl⟩
    exact ho.of_passed hpassed hnone
  | runDiagnosis => exact ho.of_passed passed_runDiagnosis hnone
  | close =>
    exact ho.close

end Orderly

end Workspace

end ToolpathViewer
