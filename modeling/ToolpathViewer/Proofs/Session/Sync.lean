import ToolpathViewer.Bridge.Server
import ToolpathViewer.Proofs.Session.Link

/-!
# The view keeps up with the document

A session in which anything happens to the host and the client polls now and then. The view falls behind only where the buffer makes
it: a program can be dropped when, before the client came to it, the host published as many messages after it as the buffer holds.
-/

namespace ToolpathViewer.Session

open ToolpathViewer.Bridge ToolpathViewer.Decimal
open Message (Told)

/-- What happens in a session. -/
inductive Move where
  | host (e : Host.Event)
  | poll

/-- The text that a move brings. -/
def Move.text? : Move → Option String
  | .host e => e.text?
  | .poll => none

/-- A session with what it has been seen to do: the messages that the host published, and the versions that the client had after
its polls. -/
structure Trail where
  session : Session
  sent : List Message := []
  seen : List Nat := []

/-- One move. -/
def Trail.step [Json.Room] [Server] (codes : List String) (t : Trail) : Move → Trail
  | .host e =>
    { t with session := (onHost e.call t.session).state, sent := t.sent ++ e.publishes codes t.session.host }
  | .poll =>
    let s := (Session.poll t.session).state
    { t with session := s, seen := t.seen ++ [s.client.version.toNat] }

/-! ## What the client came to -/

/-- Of the versions up to the client's, it came to each one or the buffer dropped it. -/
structure CameTo (capacity sent : Nat) (seen : List Nat) (version : Nat) : Prop where
  le_sent : version ≤ sent
  seen_le : ∀ v ∈ seen, v ≤ version
  mem_seen : version = 0 ∨ version ∈ seen
  passed : ∀ v, 1 ≤ v → v ≤ version → v ∈ seen ∨ v + capacity ≤ sent

variable {capacity sent version : Nat} {seen : List Nat}

/-- Before the first poll the client has come nowhere. -/
theorem cameTo_zero (capacity : Nat) : CameTo capacity 0 [] 0 :=
  ⟨le_rfl, nofun, Or.inl rfl, fun v h h' => by omega⟩

/-- Publishing does not change how far the client has come. -/
theorem CameTo.publish (h : CameTo capacity sent seen version) (n : Nat) : CameTo capacity (sent + n) seen version := by
  refine ⟨h.le_sent.trans (Nat.le_add_right sent n), h.seen_le, h.mem_seen, ?_⟩
  intro v hpos hle
  rcases h.passed v hpos hle with hmem | hdropped
  · exact Or.inl hmem
  · exact Or.inr (by omega)

/-- A poll that brings nothing comes to no other version. -/
theorem CameTo.idle (h : CameTo capacity sent seen version) : CameTo capacity sent (seen ++ [version]) version := by
  refine ⟨h.le_sent, ?_, Or.inr (List.mem_append_right _ List.mem_cons_self), ?_⟩
  · intro v hv
    rcases List.mem_append.1 hv with hv | hv
    · exact h.seen_le v hv
    · exact (List.mem_singleton.1 hv).le
  · intro v hpos hle
    exact (h.passed v hpos hle).imp_left (List.mem_append_left _)

/-- A poll that brings a message comes to the next version, or to the oldest one that the buffer still holds. -/
theorem CameTo.advance (h : CameTo capacity sent seen version) (hlt : max version (sent - capacity) < sent) :
    CameTo capacity sent (seen ++ [max version (sent - capacity) + 1]) (max version (sent - capacity) + 1) := by
  refine ⟨hlt, ?_, Or.inr (List.mem_append_right _ List.mem_cons_self), ?_⟩
  · intro v hv
    rcases List.mem_append.1 hv with hv | hv
    · have := h.seen_le v hv
      omega
    · exact (List.mem_singleton.1 hv).le
  · intro v hpos hle
    by_cases hold : v ≤ version
    · exact (h.passed v hpos hold).imp_left (List.mem_append_left _)
    by_cases hnew : v = max version (sent - capacity) + 1
    · exact Or.inl (List.mem_append_right _ (by rw [hnew]; exact List.mem_cons_self))
    · exact Or.inr (by omega)

/-! ## What the scene shows -/

/-- The scene was last loaded with the newest program that the client came to. -/
def ShowsNewest (codes : List String) (sent : List Message) (seen : List Nat) (scene : Scene) : Prop :=
  ∀ k m text, sent[k]? = some m → k + 1 ∈ seen → m.program? = some text →
    (∀ j m', k < j → sent[j]? = some m' → j + 1 ∈ seen → m'.program? = none) → scene.LoadedWith text (codes.map .str)

/-- With nothing polled there is nothing to show. -/
theorem showsNewest_nil (codes : List String) (scene : Scene) : ShowsNewest codes [] [] scene := by
  intro k m text hk
  simp at hk

variable {codes : List String} {messages : List Message} {scene scene' : Scene}

/-- Messages that were not polled yet change nothing. -/
theorem ShowsNewest.publish (h : ShowsNewest codes messages seen scene) (hseen : ∀ v ∈ seen, v ≤ messages.length)
    (more : List Message) : ShowsNewest codes (messages ++ more) seen scene := by
  intro k m text hk hmem htext hlater
  have hlt : k < messages.length := hseen _ hmem
  rw [List.getElem?_append_left hlt] at hk
  refine h k m text hk hmem htext fun j m' hj hm' hmem' => ?_
  exact hlater j m' hj (by rwa [List.getElem?_append_left (hseen _ hmem')]) hmem'

/-- A poll of a message that was seen before changes nothing that is shown. -/
theorem ShowsNewest.idle (h : ShowsNewest codes messages seen scene) (hmem : version = 0 ∨ version ∈ seen) :
    ShowsNewest codes messages (seen ++ [version]) scene := by
  have hsame : ∀ k, k + 1 ∈ seen ++ [version] → k + 1 ∈ seen := by
    intro k hk
    rcases List.mem_append.1 hk with hk | hk
    · exact hk
    · rw [List.mem_singleton] at hk
      rcases hmem with hzero | hmem
      · omega
      · exact hk ▸ hmem
  intro k m text hk hin htext hlater
  exact h k m text hk (hsame k hin) htext fun j m' hj hm' hin' => hlater j m' hj hm' (List.mem_append_left _ hin')

/-- A message that the client comes to is taken over. -/
theorem ShowsNewest.advance (h : ShowsNewest codes messages seen scene) {k : Nat} {m : Message} (hm : messages[k]? = some m)
    (hseen : ∀ v ∈ seen, v ≤ k) (htakes : Surface.TakesOver codes m scene scene') :
    ShowsNewest codes messages (seen ++ [k + 1]) scene' := by
  intro i m' text hi hin htext hlater
  rcases List.mem_append.1 hin with hin | hin
  · have hik : i < k := hseen _ hin
    have hprogram : m.program? = none := hlater k m hik hm (List.mem_append_right _ List.mem_cons_self)
    refine htakes.still hprogram (h i m' text hi hin htext fun j m'' hj hm'' hin'' => ?_)
    exact hlater j m'' hj hm'' (List.mem_append_left _ hin'')
  · obtain rfl : i = k := by simpa using hin
    obtain rfl : m = m' := Option.some.inj (hm.symm.trans hi)
    exact htakes.loadedWith htext

/-! ## The session -/

/-- The program can be extracted with the codes and the amounts of a configuration. -/
def Usable (config : Config) (codes : List String) (text : String) : Prop :=
  ∃ e, Scene.PathOf config.limit config.divisions text (codes.map .str) e

/-- A session that started over a channel, and has kept up with what was published on it. -/
structure KeepsUp (codes : List String) (config : Config) (channel : Channel Unit) (t : Trail) : Prop where
  published : t.session.host.channel = channel.published t.sent
  configured : t.session.host.config = config
  follows : Host.Follows codes (Usable config codes) t.sent t.session.host
  token : t.session.client.token = channel.token
  listeners : t.session.client.listeners = [()]
  version : ∃ version : Nat, t.session.client.version = version ∧ Fits version ∧
    CameTo channel.buffer.capacity t.sent.length t.seen version
  reports : t.session.surface.gate.ready = false
  amounts : t.session.surface.scene.limit = config.limit ∧ t.session.surface.scene.divisions = config.divisions
  shows : ShowsNewest codes t.sent t.seen t.session.surface.scene

variable {config : Config} {channel : Channel Unit} {t : Trail}

/-- The buffer behind published messages. -/
theorem buffer_published (hbuffer : channel.buffer = { capacity := channel.buffer.capacity }) (ms : List Message) :
    (channel.published ms).buffer = Buffer.filled channel.buffer.capacity (ms.map (·.encode)) := by
  rw [Channel.published, Buffer.filled, List.foldl_map, ← hbuffer]

/-- A usable program is taken over by a scene with the amounts of the configuration. -/
theorem rebuild_of_usable {text : String} (h : Usable config codes text)
    (hamounts : scene.limit = config.limit ∧ scene.divisions = config.divisions) (reframe : Bool) :
    ∃ r, (scene.rebuild text (some (codes.map .str)) reframe).result = .ok r := by
  obtain ⟨e, hpath⟩ := h
  have hextract : (scene.withCodes ((some (codes.map Json.str)).getD scene.codes)).extract text = .ok e := by
    rw [Scene.extract_eq_ok]
    change Scene.PathOf scene.limit scene.divisions text (codes.map .str) e
    rwa [hamounts.1, hamounts.2]
  exact ⟨_, congrArg Scene.Loading.result (Scene.rebuild_of_ok hextract)⟩

/-- What the client would get next: the message behind its version, or the oldest one that is still there. -/
theorem KeepsUp.nextAfter_eq (h : KeepsUp codes config channel t)
    (hbuffer : channel.buffer = { capacity := channel.buffer.capacity }) (hpos : 0 < channel.buffer.capacity) {version : Nat}
    (hversion : t.session.client.version = version) :
    t.session.host.channel.buffer.nextAfter t.session.client.version =
      t.sent[max version (t.sent.length - channel.buffer.capacity)]?.map fun m =>
        ⟨max version (t.sent.length - channel.buffer.capacity) + 1, m.encode⟩ := by
  rw [h.published, buffer_published hbuffer, hversion, Buffer.nextAfter_filled hpos, List.getElem?_map, List.length_map, Option.map_map]
  rfl

section Moves

variable [Json.Room] [Server]

/-- An event on the host of a session, with what it publishes. -/
theorem Trail.step_host (hopen : t.session.host.channel.stopped = false) (hcodes : t.session.host.config.excluded = .ok (codes.map .str))
    (e : Host.Event) :
    t.step codes (.host e) =
      { t with
        session := { t.session with host := e.after codes t.session.host }
        sent := t.sent ++ e.publishes codes t.session.host } := by
  rw [Trail.step, onHost_state, Host.call_state hopen hcodes]

/-- An event of the host keeps the session in step. -/
theorem KeepsUp.host (h : KeepsUp codes config channel t) (hopen : channel.stopped = false)
    (hcodes : config.excluded = .ok (codes.map .str)) (e : Host.Event) (husable : ∀ text, e.text? = some text → Usable config codes text) :
    KeepsUp codes config channel (t.step codes (.host e)) := by
  obtain ⟨version, hversion, hfits, hcame⟩ := h.version
  rw [Trail.step_host (h.published ▸ hopen) (h.configured.symm ▸ hcodes) e]
  constructor
  · change (e.after codes t.session.host).channel = _
    rw [Host.channel_after, h.published, Channel.published_append]
  · exact (Host.config_after e).trans h.configured
  · exact h.follows.after e husable
  · exact h.token
  · exact h.listeners
  · refine ⟨version, hversion, hfits, ?_⟩
    rw [List.length_append]
    exact hcame.publish _
  · exact h.reports
  · exact h.amounts
  · exact h.shows.publish (fun v hv => (hcame.seen_le v hv).trans hcame.le_sent) _

/-- A poll that changes nothing. -/
theorem KeepsUp.idle (h : KeepsUp codes config channel t) (hsame : (Session.poll t.session).state = t.session) :
    KeepsUp codes config channel (t.step codes .poll) := by
  obtain ⟨version, hversion, hfits, hcame⟩ := h.version
  have hseen : t.session.client.version.toNat = version := by rw [hversion, Int.toNat_natCast]
  rw [Trail.step, hsame, hseen]
  exact ⟨h.published, h.configured, h.follows, h.token, h.listeners, ⟨version, hversion, hfits, hcame.idle⟩, h.reports, h.amounts,
    h.shows.idle hcame.mem_seen⟩

section Poll

variable (h : KeepsUp codes config channel t) (hopen : channel.stopped = false)
  (hbuffer : channel.buffer = { capacity := channel.buffer.capacity }) (hpos : 0 < channel.buffer.capacity)

include h hopen hbuffer hpos

/-- A poll that gets a message through hands it to the surface. -/
theorem KeepsUp.poll_state_eq (htoken : channel.token ≠ "") (hcodes : codes ≠ []) {version : Nat}
    (hversion : t.session.client.version = version) {m : Message}
    (hm : t.sent[max version (t.sent.length - channel.buffer.capacity)]? = some m)
    (hfits : Fits (max version (t.sent.length - channel.buffer.capacity) + 1 : Nat)) :
    ∃ surface : Surface, surface.gate.ready = false ∧ Surface.TakesOver codes m t.session.surface.scene surface.scene ∧
      (Session.poll t.session).state =
        { t.session with
          surface
          client := { t.session.client with version := (max version (t.sent.length - channel.buffer.capacity) + 1 : Nat) } } := by
  have hnext := h.nextAfter_eq hbuffer hpos hversion
  rw [hm, Option.map_some] at hnext
  have hmem := List.mem_append_left t.session.host.gate.pending (List.mem_of_getElem? hm)
  have hboth : t.session.host.channel.token = t.session.client.token ∧ t.session.client.token ≠ "" := by
    rw [h.published, h.token]
    exact ⟨rfl, htoken⟩
  have hstopped : t.session.host.channel.stopped = false := h.published ▸ hopen
  obtain ⟨version', hversion', hfits', -⟩ := h.version
  exact poll_of_told hstopped (hversion' ▸ hfits') hboth hnext hfits rfl h.listeners h.reports hcodes (h.follows.told m hmem)
    fun text htext => rebuild_of_usable (h.follows.programs m hmem text htext) h.amounts

/-- A poll keeps the session in step. -/
theorem KeepsUp.poll (hcodes : codes ≠ []) : KeepsUp codes config channel (t.step codes .poll) := by
  obtain ⟨version, hversion, hfits, hcame⟩ := h.version
  have hstopped : t.session.host.channel.stopped = false := h.published ▸ hopen
  have hfits' : Fits t.session.client.version := hversion ▸ hfits
  have hnext := h.nextAfter_eq hbuffer hpos hversion
  by_cases htoken : channel.token = ""
  · refine h.idle (poll_of_nothing hstopped hfits' (Or.inl fun hboth => hboth.2 ?_))
    rw [h.token, htoken]
  cases hm : t.sent[max version (t.sent.length - channel.buffer.capacity)]? with
  | none =>
    rw [hm] at hnext
    exact h.idle (poll_of_nothing hstopped hfits' (Or.inr hnext))
  | some m =>
    rw [hm] at hnext
    by_cases hlong : Fits (max version (t.sent.length - channel.buffer.capacity) + 1 : Nat)
    · have hlt := (List.getElem?_eq_some_iff.1 hm).1
      obtain ⟨surface, hready, htakes, hstate⟩ := h.poll_state_eq hopen hbuffer hpos htoken hcodes hversion hm hlong
      have hkeeps := htakes.keeps
      rw [Trail.step, hstate]
      refine ⟨h.published, h.configured, h.follows, h.token, h.listeners, ⟨_, rfl, hlong, hcame.advance hlt⟩, hready,
        ⟨hkeeps.1.trans h.amounts.1, hkeeps.2.trans h.amounts.2⟩, ?_⟩
      exact h.shows.advance hm (fun v hv => (hcame.seen_le v hv).trans (le_max_left _ _)) htakes
    · exact h.idle (poll_of_long hstopped hfits' hnext hlong)

end Poll

/-- Every run keeps the session in step. -/
theorem KeepsUp.run (h : KeepsUp codes config channel t) (hopen : channel.stopped = false)
    (hbuffer : channel.buffer = { capacity := channel.buffer.capacity }) (hpos : 0 < channel.buffer.capacity)
    (hcodes : config.excluded = .ok (codes.map .str)) (hne : codes ≠ []) {moves : List Move}
    (husable : ∀ move ∈ moves, ∀ text, move.text? = some text → Usable config codes text) :
    KeepsUp codes config channel (moves.foldl (Trail.step codes) t) := by
  induction moves generalizing t with
  | nil => exact h
  | cons move moves ih =>
    rw [List.foldl_cons]
    refine ih ?_ fun move' hmove' => husable move' (List.mem_cons_of_mem move hmove')
    cases move with
    | host e => exact h.host hopen hcodes e (husable (.host e) List.mem_cons_self)
    | poll => exact h.poll hopen hbuffer hpos hne

end Moves

/-- A configuration never leaves out nothing. -/
theorem excluded_ne_nil (h : config.excluded = .ok (codes.map .str)) : codes ≠ [] := by
  rintro rfl
  obtain ⟨vs, -, hvs⟩ := bind_eq_ok.1 h
  have heq := Except.ok.inj hvs
  by_cases hempty : vs.isEmpty = true
  · rw [if_pos hempty] at heq
    cases heq
  · rw [if_neg hempty] at heq
    exact hempty (by rw [heq]; rfl)

/-- A new session has kept up. -/
theorem keepsUp_make {token : String} {s : Session} (htoken : channel.token = token)
    (h : Session.make channel config token 0 = .ok s) :
    KeepsUp codes config (channel.addListener ()) { session := s } := by
  obtain ⟨surface, hsurface, hs⟩ := bind_eq_ok.1 h
  obtain rfl := Except.ok.inj hs
  obtain ⟨values, -, hvalues⟩ := bind_eq_ok.1 hsurface
  obtain ⟨scene, hscene, hmade⟩ := bind_eq_ok.1 hvalues
  obtain rfl := Except.ok.inj hmade
  obtain ⟨theme, -, hmake⟩ := bind_eq_ok.1 hscene
  obtain rfl := Except.ok.inj hmake
  refine ⟨rfl, rfl, ⟨fun _ => ⟨rfl, rfl⟩, nofun, nofun, nofun, nofun⟩, htoken.symm, rfl, ⟨0, rfl, by decide, ?_⟩, rfl, ⟨rfl, rfl⟩, ?_⟩
  · exact cameTo_zero _
  · exact showsNewest_nil codes _

/-- In a session that kept up, the client has nothing more to poll only when it came to the last program or that was dropped. -/
theorem KeepsUp.shown_or_dropped (h : KeepsUp codes config channel t)
    (hbuffer : channel.buffer = { capacity := channel.buffer.capacity }) (hpos : 0 < channel.buffer.capacity)
    (hattached : t.session.host.attached = true) (hready : t.session.host.gate.ready = true)
    (hnext : t.session.host.channel.buffer.nextAfter t.session.client.version = none) :
    ∃ first before after,
      t.sent = before ++ (Message.Notice.program first t.session.host.text).message codes :: after ∧
      (∀ m ∈ after, m.program? = none) ∧
      (t.session.surface.scene.LoadedWith t.session.host.text (codes.map .str) ∨
        (channel.buffer.capacity ≤ after.length ∧ before.length + 1 ∉ t.seen)) := by
  obtain ⟨version, hversion, -, hcame⟩ := h.version
  have hnewest := h.follows.newest hattached
  rw [h.follows.clear hready, List.append_nil] at hnewest
  obtain ⟨before, m, after, hsent, hm, hafter⟩ := Host.newest?_eq_some hnewest
  have hmem : m ∈ t.sent ++ t.session.host.gate.pending := List.mem_append_left _ (hsent ▸ List.mem_append_right _ List.mem_cons_self)
  obtain ⟨first, rfl⟩ := (h.follows.told m hmem).program hm
  refine ⟨first, before, after, hsent, hafter, ?_⟩
  have hall : t.sent.length ≤ version := by
    rw [h.published, buffer_published hbuffer, hversion, Buffer.nextAfter_filled_eq_none hpos, List.length_map] at hnext
    exact hnext
  have hlength : t.sent.length = before.length + (after.length + 1) := by rw [hsent, List.length_append, List.length_cons]
  by_cases hseen : before.length + 1 ∈ t.seen
  · refine Or.inl (h.shows before.length _ _ ?_ hseen hm ?_)
    · rw [hsent, List.getElem?_append_right le_rfl, Nat.sub_self]
      rfl
    · intro j m' hj hm' _
      rw [hsent, List.getElem?_append_right (by omega), List.getElem?_cons, if_neg (by omega)] at hm'
      exact hafter m' (List.mem_of_getElem? hm')
  · have hdropped := (hcame.passed (before.length + 1) (by omega) (by omega)).resolve_left hseen
    exact Or.inr ⟨by omega, hseen⟩

/-! ## A usual session -/

/-- A program that a scene extracts is usable. -/
theorem usable_of_isOk {text : String}
    (h : (({ codes := codes.map .str, limit := config.limit, divisions := config.divisions } : Scene).extract text).isOk = true) :
    Usable config codes text := by
  cases he : ({ codes := codes.map .str, limit := config.limit, divisions := config.divisions } : Scene).extract text with
  | error fault =>
    rw [he] at h
    cases h
  | ok e => exact ⟨e, Scene.extract_eq_ok.1 he⟩

/-- A new session with the usual configuration and a buffer of some size. -/
def usual (capacity : Nat) : Session :=
  { host := { channel := { buffer := { capacity }, token := "secret", listeners := [()] } }
    surface := { scene := { codes := defaultCodes.map .str, limit := .int 1000000 } }
    client := { endpoint := trimSlashes "http://bridge/", token := "secret", registrations := [⟨(), true⟩] } }

/-- A document is attached, and the view says that it is ready. -/
def opening (text : String) : List Move := [.host (.attach text), .host (.incoming (.value (.obj [("type", .str "webviewReady")])))]

/-- The program of the opening is usable. -/
theorem usable_opening : ∀ move ∈ opening "G0 X1", ∀ text, move.text? = some text → Usable {} defaultCodes text := by
  intro move hmove text htext
  simp only [opening, List.mem_cons, List.not_mem_nil, or_false] at hmove
  rcases hmove with rfl | rfl
  · obtain rfl := Option.some.inj htext
    exact usable_of_isOk (by decide +kernel)
  · cases htext

section Moves

variable [Json.Room] [Server]

/-- The document is published twice: it waited for the view, and the view gets it once more. -/
theorem foldl_opening (capacity : Nat) (text : String) :
    ∃ host : Host Unit, host.attached = true ∧ host.gate.ready = true ∧ host.text = text ∧
      (opening text).foldl (Trail.step defaultCodes) { session := usual capacity } =
        { session := { usual capacity with host }
          sent := [(Message.Notice.program true text).message defaultCodes, (Message.Notice.program true text).message defaultCodes] } := by
  rw [opening, List.foldl_cons, List.foldl_cons, List.foldl_nil, Trail.step_host rfl rfl, Trail.step_host rfl rfl]
  exact ⟨_, rfl, rfl, rfl, rfl⟩

/-- With usable programs, a usual session keeps up. -/
theorem keepsUp_usual {capacity : Nat} (hpos : 0 < capacity) {moves : List Move}
    (husable : ∀ move ∈ moves, ∀ text, move.text? = some text → Usable {} defaultCodes text) :
    KeepsUp defaultCodes {} { buffer := { capacity }, token := "secret", listeners := [()] }
      (moves.foldl (Trail.step defaultCodes) { session := usual capacity }) := by
  have hmake : Session.make { buffer := { capacity }, token := "secret" } {} "secret" 0 = .ok (usual capacity) := by rfl
  exact (keepsUp_make rfl hmake).run rfl rfl hpos rfl (by decide) husable

/-- After one poll, the client of a buffer for one message is up to date. -/
theorem foldl_opening_poll :
    ∃ t, t = (opening "G0 X1" ++ [Move.poll]).foldl (Trail.step defaultCodes) { session := usual 1 } ∧
      t.session.host.attached = true ∧ t.session.host.gate.ready = true ∧ t.session.host.text = "G0 X1" ∧
      (∀ m ∈ t.sent, m.program? = some "G0 X1") ∧ t.session.host.channel.buffer.nextAfter t.session.client.version = none := by
  obtain ⟨host, hattached, hready, htext, hopening⟩ := foldl_opening 1 "G0 X1"
  have hkeeps := keepsUp_usual (by decide : 0 < 1) usable_opening
  rw [hopening] at hkeeps
  have hversion : ({ usual 1 with host } : Session).client.version = (0 : Nat) := rfl
  obtain ⟨surface, -, -, hstate⟩ := hkeeps.poll_state_eq rfl rfl (by decide) (by decide) (by decide) hversion rfl
    (show Fits (2 : Nat) by decide)
  refine ⟨_, rfl, ?_⟩
  rw [List.foldl_append, hopening, List.foldl_cons, List.foldl_nil, Trail.step, hstate]
  refine ⟨hattached, hready, htext, ?_, ?_⟩
  · intro m hm
    obtain rfl : m = (Message.Notice.program true "G0 X1").message defaultCodes := by simpa using hm
    exact Message.program?_program _ _ _
  · rw [hkeeps.published, buffer_published rfl]
    exact (Buffer.nextAfter_filled_eq_none (by decide) _ 2).2 le_rfl

/-! ## The document and the view -/

/-- Whenever a document is attached, the view is ready and the client has nothing more to poll, the scene was last loaded with the
document's text and codes; unless the last message with the document was dropped from the buffer before the client came to it, which
takes as many messages behind it as the buffer holds. -/
theorem document_shown_or_dropped {capacity : Int} {token : String} {channel : Channel Unit} {config : Config} {codes : List String}
    {s₀ : Session} (hchannel : Channel.make capacity token = .ok channel) (hmake : Session.make channel config token 0 = .ok s₀)
    (hcodes : config.excluded = .ok (codes.map .str)) {moves : List Move}
    (husable : ∀ move ∈ moves, ∀ text, move.text? = some text → Usable config codes text) {t : Trail}
    (ht : t = moves.foldl (Trail.step codes) { session := s₀ }) (hattached : t.session.host.attached = true)
    (hready : t.session.host.gate.ready = true)
    (hnext : t.session.host.channel.buffer.nextAfter t.session.client.version = none) :
    t.session.host.channel.buffer = Buffer.filled capacity.toNat (t.sent.map (·.encode)) ∧
      ∃ first before after,
        t.sent = before ++ (Message.Notice.program first t.session.host.text).message codes :: after ∧
        (∀ m ∈ after, m.program? = none) ∧
        (t.session.surface.scene.LoadedWith t.session.host.text (codes.map .str) ∨
          (capacity ≤ after.length ∧ before.length + 1 ∉ t.seen)) := by
  obtain ⟨buffer, hmade, hch⟩ := bind_eq_ok.1 hchannel
  obtain rfl := Except.ok.inj hch
  have hcapacity : ¬capacity < 1 := by
    intro hlt
    rw [Buffer.make, if_pos hlt] at hmade
    cases hmade
  rw [Buffer.make, if_neg hcapacity] at hmade
  obtain rfl := Except.ok.inj hmade
  have hpos : 0 < capacity.toNat := by omega
  have h : KeepsUp codes config _ t := ht ▸ (keepsUp_make rfl hmake).run rfl rfl hpos hcodes (excluded_ne_nil hcodes) husable
  refine ⟨?_, ?_⟩
  · rw [h.published]
    exact buffer_published rfl t.sent
  · obtain ⟨first, before, after, hsent, hafter, hshown | ⟨hdropped, hseen⟩⟩ := h.shown_or_dropped rfl hpos hattached hready hnext
    · exact ⟨first, before, after, hsent, hafter, Or.inl hshown⟩
    · exact ⟨first, before, after, hsent, hafter, Or.inr ⟨Int.toNat_le.1 hdropped, hseen⟩⟩

end Moves

section Usual

attribute [local instance] Json.Room.usual Server.usual

/-- A document that is attached, and polled once the view is ready, is shown: no message came behind it. -/
theorem document_shown_or_dropped_opening :
    ∃ t, t = (opening "G0 X1" ++ [Move.poll]).foldl (Trail.step defaultCodes) { session := usual 1 } ∧
      t.session.surface.scene.LoadedWith "G0 X1" (defaultCodes.map .str) := by
  have hchannel : (Channel.make 1 "secret" : Except Fault (Channel Unit)) = .ok { buffer := { capacity := 1 }, token := "secret" } := by
    rfl
  have hmake : Session.make { buffer := { capacity := 1 }, token := "secret" } {} "secret" 0 = .ok (usual 1) := by rfl
  obtain ⟨t, ht, hattached, hready, htext, hprograms, hnext⟩ := foldl_opening_poll
  refine ⟨t, ht, ?_⟩
  have husable : ∀ move ∈ opening "G0 X1" ++ [Move.poll], ∀ text, move.text? = some text → Usable {} defaultCodes text :=
    List.forall_mem_append.2 ⟨usable_opening, List.forall_mem_singleton.2 nofun⟩
  obtain ⟨-, first, before, after, hsent, hafter, hshown | ⟨hlong, hseen⟩⟩ :=
    document_shown_or_dropped hchannel hmake rfl husable ht hattached hready hnext
  · exact htext ▸ hshown
  · obtain ⟨m, hm⟩ := List.exists_mem_of_length_pos (show 0 < after.length by omega)
    have hnone := hafter m hm
    rw [hprograms m (hsent ▸ List.mem_append_right before (List.mem_cons_of_mem _ hm))] at hnone
    cases hnone

/-- In a buffer for one message, a caret line takes the place of the document. The client then has nothing more to poll, and the
document was never loaded. -/
theorem document_dropped_by_caret :
    ∃ channel t, Channel.make 1 "secret" = .ok channel ∧ Session.make channel {} "secret" 0 = .ok (usual 1) ∧
      t = (opening "G0 X1" ++ [Move.host (.caret 1)] ++ [Move.poll]).foldl (Trail.step defaultCodes) { session := usual 1 } ∧
      t.session.host.attached = true ∧ t.session.host.gate.ready = true ∧ t.session.host.text = "G0 X1" ∧
      t.session.host.channel.buffer.nextAfter t.session.client.version = none ∧ Usable {} defaultCodes "G0 X1" ∧
      ¬t.session.surface.scene.LoadedWith "G0 X1" (defaultCodes.map .str) := by
  obtain ⟨host, hattached, hready, htext, hcaret⟩ : ∃ host : Host Unit, host.attached = true ∧ host.gate.ready = true ∧
      host.text = "G0 X1" ∧
      (opening "G0 X1" ++ [Move.host (.caret 1)]).foldl (Trail.step defaultCodes) { session := usual 1 } =
        { session := { usual 1 with host }
          sent := [(Message.Notice.program true "G0 X1").message defaultCodes, (Message.Notice.program true "G0 X1").message defaultCodes,
            (Message.Notice.caret 1).message defaultCodes] } := by
    rw [opening, List.cons_append, List.cons_append, List.nil_append, List.foldl_cons, List.foldl_cons, List.foldl_cons, List.foldl_nil,
      Trail.step_host rfl rfl, Trail.step_host rfl rfl, Trail.step_host rfl rfl]
    exact ⟨_, rfl, rfl, rfl, rfl⟩
  have hkeeps := keepsUp_usual (by decide : 0 < 1)
    (List.forall_mem_append.2 ⟨usable_opening, (List.forall_mem_singleton (a := Move.host (.caret 1))).2 nofun⟩)
  rw [hcaret] at hkeeps
  have hversion : ({ usual 1 with host } : Session).client.version = (0 : Nat) := rfl
  obtain ⟨surface, -, htakes, hstate⟩ := hkeeps.poll_state_eq rfl rfl (by decide) (by decide) (by decide) hversion rfl
    (show Fits (3 : Nat) by decide)
  refine ⟨_, _, rfl, rfl, rfl, ?_⟩
  rw [List.foldl_append, hcaret, List.foldl_cons, List.foldl_nil, Trail.step, hstate]
  refine ⟨hattached, hready, htext, ?_, usable_of_isOk (by decide +kernel), ?_⟩
  · rw [hkeeps.published, buffer_published rfl]
    exact (Buffer.nextAfter_filled_eq_none (by decide) _ 3).2 le_rfl
  · intro hloaded
    obtain ⟨e, -, hshows⟩ := hloaded.presents
    have hcontent : surface.scene.content = (usual 1).surface.scene.content := htakes.content_eq (Message.program?_caret defaultCodes 1)
    have hsame : surface.scene.loaded = (usual 1).surface.scene.loaded :=
      (congrArg Scene.loaded hcontent : surface.scene.content.loaded = (usual 1).surface.scene.content.loaded)
    rw [hshows.holds.loaded] at hsame
    cases hsame

end Usual

end ToolpathViewer.Session
