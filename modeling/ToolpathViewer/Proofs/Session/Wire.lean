import ToolpathViewer.Proofs.Session.Sync
import ToolpathViewer.Window.Workspace

/-!
# What the wire does to messages

A program goes from the host to the view as JSON inside of JSON, and a line goes back as JSON in bytes. Nothing is lost on either
way, whatever characters are in the program and the codes: the view loads just the program that the host was given, and finds in it
what the main window finds.
-/

namespace ToolpathViewer

open ToolpathViewer.Bridge ToolpathViewer.Decimal
open Message (Notice Told)

/-- Codes that are named are the ones to leave out. -/
theorem Config.excluded_of_codes {c : Config} {codes : List String} (hne : codes ≠ []) (h : c.codes = .arr (codes.map .str)) :
    c.excluded = .ok (codes.map .str) := by
  have hsome : (codes.map Json.str).isEmpty = false := by simpa using hne
  rw [Config.excluded, h, Config.items, ok_bind, hsome]
  rfl

namespace Session

variable {s : Session}

/-- A call on the host keeps the surface. -/
theorem keeps_surface_onHost {α : Type} (x : Host.Call Unit α) : (onHost x).Keeps Session.surface := by
  intro s
  rw [onHost_state]

/-- A scene that loads a program finds what the settings of a configuration find in it, if it has the amounts of that configuration. -/
theorem rebuild_agrees {codes : List String} {text : String} (first : Bool) {scene : Scene} {config : Config}
    (hcodes : config.excluded = .ok (codes.map .str))
    (hamounts : scene.limit = config.limit ∧ scene.divisions = config.divisions) {settings : Extraction.Settings}
    (hsettings : config.extraction = .ok settings) {e : Extraction} (he : Extraction.ofText settings text.toList = .ok e) :
    (scene.rebuild text (some (codes.map .str)) first).scene.Holds e := by
  have hvalues : Extraction.Settings.ofValues (codes.map .str) scene.limit scene.divisions = .ok settings := by
    rw [hamounts.1, hamounts.2, ← hsettings, Config.extraction, hcodes]
    rfl
  have hextract : (scene.withCodes ((some (codes.map .str)).getD scene.codes)).extract text = .ok e :=
    Scene.extract_eq_ok.2 ⟨settings, hvalues, he⟩
  rw [Scene.rebuild_of_ok hextract]
  exact Scene.holds_install _ e

section Linked

variable [Json.Room] [Server]

/-! ## What reaches the surface -/

/-- A request keeps the surface. -/
theorem keeps_surface_request (r : Request) : (request r).Keeps Session.surface := by
  refine Step.Keeps.bind (fun _ => rfl) fun s => Step.Keeps.bind (fun _ => rfl) fun s' => ?_
  dsimp only
  split
  · exact Step.Keeps.bind (Channel.keeps_deliver (fun _ => keeps_surface_onHost _) _) fun _ _ => rfl
  · exact fun _ => rfl

/-- A message to the host keeps the surface. -/
theorem keeps_surface_post (m : Message) : (post m).Keeps Session.surface := by
  refine Step.Keeps.bind (Step.Keeps.bind (keeps_surface_request _) fun reply => ?_) fun _ _ => rfl
  intro s
  simp

/-- The surface itself decides what a call on it leaves of it, whatever comes of its reports. -/
theorem surface_onSurface {α : Type} (x : Surface.Call α) (s : Session) :
    (onSurface x s).state.surface = (x s.surface).state := by
  unfold onSurface
  refine Step.Keeps.handling Session.surface (fun e => ?_) x s
  cases e with
  | log e => exact fun s => rfl
  | post m => exact keeps_surface_post m
  | update what result => exact fun s => rfl

/-! ## From the host to the surface -/

/-- A poll that comes to a message of a host hands the surface that message. -/
theorem poll_of_sent (hopen : s.host.channel.stopped = false)
    (htoken : s.host.channel.token = s.client.token ∧ s.client.token ≠ "") (hlisteners : s.client.listeners = [()])
    {codes : List String} {m : Message} (hm : m.Told codes) (hreadable : m.toJson.fits = true) {capacity : Nat} {before after : List String}
    (hbuffer : s.host.channel.buffer = Buffer.filled capacity (before ++ m.encode :: after)) (hheld : after.length < capacity)
    (hversion : s.client.version = before.length) (hfits : Fits (before.length + 1 : Nat)) :
    (poll s).result = .ok true ∧ (poll s).state.surface = (Surface.receive (.value m.toJson) s.surface).state := by
  have hplace : max before.length ((before ++ m.encode :: after).length - capacity) = before.length := by
    rw [List.length_append, List.length_cons]
    omega
  have hnext : s.host.channel.buffer.nextAfter s.client.version = some ⟨before.length + 1, m.encode⟩ := by
    rw [hbuffer, hversion, Buffer.nextAfter_filled (by omega), hplace, List.getElem?_append_right le_rfl, Nat.sub_self]
    rfl
  have hknown : Fits s.client.version := by
    rw [hversion]
    exact hfits.of_le (Nat.le_succ _)
  have hread := Message.readMessage_encode hm
  rw [if_pos hreadable] at hread
  obtain ⟨hresult, hstate⟩ := poll_of_next hopen hknown htoken hnext hfits hread hlisteners
  refine ⟨hresult, ?_⟩
  rw [hstate]
  exact surface_onSurface _ s

/-! ## From the surface to the host -/

/-- An event that the client sends is what the host takes, and the client learns that it was accepted. -/
theorem post_run (hopen : s.host.channel.stopped = false) (htoken : s.host.channel.token = s.client.token ∧ s.client.token ≠ "")
    (hlisteners : s.host.channel.listeners = [()]) {body : String} (htaken : (Host.receive (.text body) s.host).result = .ok ()) :
    Client.post .log request body s =
      ⟨.ok true, (onHost (Host.receive (.text body)) s).state, (onHost (Host.receive (.text body)) s).emitted⟩ := by
  have hanswer := answer_postRequest hopen s.client body
  rw [if_pos htoken, hlisteners] at hanswer
  have hresult : (onHost (Host.receive (.text body)) s).result = .ok () := (onHost_result _).trans htaken
  have hdeliver : Channel.deliver Effect.log (fun _ payload => onHost (Host.receive (.text payload))) body [()] s =
      ⟨.ok (), (onHost (Host.receive (.text body)) s).state, (onHost (Host.receive (.text body)) s).emitted⟩ := by
    simp [Channel.deliver, Step.each, Step.andThen, Step.done, hresult]
  have hrequest : request (Client.postRequest body) s = ⟨.ok (.response 202 "accepted"),
      (onHost (Host.receive (.text body)) s).state, (onHost (Host.receive (.text body)) s).emitted⟩ := by
    simp only [request, Channel.exchange, Step.bind_run, Step.get_run, hanswer, hdeliver, Step.pure_run, List.nil_append,
      List.append_nil]
    rfl
  simp [Client.post, hrequest, Client.accepted]

/-- Nothing is lost between a host and a view that are joined. The host says a program as it was given, with all its codes: when it is
attached, when the document changes, and when the view is ready. A client that comes to such a message makes the view load just that
program with just those codes, and what it then shows is what the main window finds in the program by the same configuration. And
a line that the view asks for is the line that the host reads. -/
theorem wire_is_transparent {codes : List String} (hne : codes ≠ []) (hcodes : s.host.config.codes = .arr (codes.map .str))
    (hopen : s.host.channel.stopped = false) (htoken : s.host.channel.token = s.client.token ∧ s.client.token ≠ "")
    (hlisteners : s.host.channel.listeners = [()] ∧ s.client.listeners = [()]) :
    (∀ text, (onHost (Host.attach text) s).state.host =
      ({ s.host with attached := true, text } : Host Unit).telling ((Notice.program true text).message codes)) ∧
    (∀ text, s.host.attached = true → (onHost (Host.change text) s).state.host =
      ({ s.host with text } : Host Unit).telling ((Notice.program false text).message codes)) ∧
    (∀ p : Payload, p.saysReady = true → s.host.attached = true →
      (onHost (Host.receive p) s).state.host = s.host.opened.telling ((Notice.program true s.host.text).message codes)) ∧
    (∀ text first capacity before after,
      s.host.channel.buffer = Buffer.filled capacity (before ++ ((Notice.program first text).message codes).encode :: after) →
      after.length < capacity → s.client.version = before.length → Fits (before.length + 1 : Nat) →
        (poll s).result = .ok true ∧
        (poll s).state.surface.scene = (s.surface.scene.rebuild text (some (codes.map .str)) first).scene ∧
        ∀ w : Workspace, w.config = s.host.config → w.diagnosis = .idle →
          s.surface.scene.limit = w.config.limit ∧ s.surface.scene.divisions = w.config.divisions →
          ∀ settings, w.config.extraction = .ok settings →
            (Workspace.diagnose text w).state.diagnosis = .queued settings text ∧
            ∀ e, Extraction.ofText settings text.toList = .ok e →
              (poll s).state.surface.scene.movements = e.movements ∧
              (Diagnosis.run settings text).1 = some (poll s).state.surface.scene.diagnostics) ∧
    ∀ line : Int, Fits line → ∃ body, body = Client.bodyOf (Message.highlight (.int line)).toJson ∧
      Client.post .log request body s =
        ⟨.ok true, (onHost (Host.receive (.text body)) s).state, (onHost (Host.receive (.text body)) s).emitted⟩ ∧
      ∃ m, (Payload.text body).message = .ok m ∧ m.line? = some line := by
  have hexcluded : s.host.config.excluded = .ok (codes.map .str) := Config.excluded_of_codes hne hcodes
  refine ⟨?_, ?_, ?_, ?_, ?_⟩
  · intro text
    rw [onHost_state]
    exact Host.call_state hopen hexcluded (.attach text)
  · intro text hattached
    rw [onHost_state]
    refine (Host.call_state hopen hexcluded (.change text)).trans ?_
    rw [Host.Event.after, if_pos hattached]
  · intro p hready hattached
    rw [onHost_state]
    refine (Host.call_state hopen hexcluded (.incoming p)).trans ?_
    rw [Host.Event.after, hready, hattached, Bool.and_self, if_pos rfl]
  · intro text first capacity before after hbuffer hheld hversion hfits
    have htold : Told codes ((Notice.program first text).message codes) := ⟨_, rfl⟩
    have hreadable := Message.fits_of_program? htold (Message.program?_program codes first text)
    obtain ⟨hresult, hsurface⟩ := poll_of_sent hopen htoken hlisteners.2 htold hreadable hbuffer hheld hversion hfits
    have hscene : (poll s).state.surface.scene = (s.surface.scene.rebuild text (some (codes.map .str)) first).scene := by
      rw [hsurface]
      exact Surface.receive_program_scene hne (Payload.message_toJson _)
    refine ⟨hresult, hscene, ?_⟩
    intro w hw hidle hamounts settings hsettings
    refine ⟨?_, ?_⟩
    · simp [Workspace.diagnose, hidle, hsettings]
    · intro e he
      have hholds := rebuild_agrees first (hw ▸ hexcluded) hamounts hsettings he
      rw [hscene, Diagnosis.run, he, hholds.diagnostics]
      exact ⟨hholds.movements, rfl⟩
  · intro line hfits
    have hmessage := Payload.message_highlight hfits
    have htaken : (Host.receive (.text (Client.bodyOf (Message.highlight (.int line)).toJson)) s.host).result = .ok () := by
      rw [Host.receive_highlight hmessage]
    exact ⟨_, rfl, post_run hopen htoken hlisteners.1 htaken, _, hmessage, Message.line?_highlight line⟩

end Linked

/-- A usual session whose host has published one program, which the client is still to poll. -/
def holding (text : String) : Session :=
  { usual 4 with
    host :=
      { channel :=
          { buffer := Buffer.filled 4 [((Notice.program true text).message defaultCodes).encode], token := "secret", listeners := [()] }
        gate := ⟨true, []⟩
        attached := true
        text } }

/-- A program with characters that are written as escapes, one of them in two units. -/
def accented : String := "G1 X1\t(\"é😀\")"

section Usual

attribute [local instance] Json.Room.usual Server.usual

/-- The view shows what the main window finds in such a program, and the host reads the line that the view asks for. -/
theorem wire_is_transparent_accented :
    (∃ settings e, ({} : Config).extraction = .ok settings ∧ Extraction.ofText settings accented.toList = .ok e ∧
      (poll (holding accented)).state.surface.scene.movements = e.movements ∧
      (Diagnosis.run settings accented).1 = some (poll (holding accented)).state.surface.scene.diagnostics) ∧
    ∃ body m, (Client.post .log request body (holding accented)).result = .ok true ∧
      (Payload.text body).message = .ok m ∧ m.line? = some 3 := by
  obtain ⟨e, settings, hsettings, he⟩ : Usable {} defaultCodes accented := usable_of_isOk (by decide +kernel)
  have hcodes : (holding accented).host.config.codes = .arr (defaultCodes.map .str) := rfl
  obtain ⟨-, -, -, hloads, hlines⟩ := wire_is_transparent (by decide) hcodes rfl ⟨rfl, by decide⟩ ⟨rfl, rfl⟩
  obtain ⟨-, -, hagrees⟩ := hloads accented true 4 [] [] rfl (by decide) rfl (by decide)
  obtain ⟨-, hfinds⟩ := hagrees { config := {}, files := [], port := 0, host := (holding accented).host } rfl rfl ⟨rfl, rfl⟩
    settings hsettings
  obtain ⟨body, -, hpost, m, hm, hline⟩ := hlines 3 (by decide)
  exact ⟨⟨settings, e, hsettings, he, hfinds e he⟩, body, m, congrArg Turn.result hpost, hm, hline⟩

end Usual

end Session

end ToolpathViewer
