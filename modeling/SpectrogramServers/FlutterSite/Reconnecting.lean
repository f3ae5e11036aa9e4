import SpectrogramServers.FlutterSite.Clients
import SpectrogramServers.MyServer.Lockout

/-!
# Pages that connect anew

A page outlives its connections.  `webSocketKeepAlive` runs every three seconds, and where
the channel is closed it reports the failure and connects again; the fields of the page
stay as they are, `_served` included, until a message arrives over the new connection.

`reconnecting` is the server with any number of visitors, each of them a page with one
channel after the other.  A page hears its connections one after the other, and every one
but the last is closed (`Keeps`).  The stale `_served` does no harm: whatever mounts the
window, the present connection has been told that it is admitted.  What comes with it is
better than on the first visit.  There the first announcement mounts the window and is
lost; over a later connection the message of the admission mounts it, and the first
announcement is heard.

`dark_of_locked_out` is the other side: once the server has lost its count, connecting
anew does not bring the window back.
-/

namespace SpectrogramServers.FlutterSite.Reconnecting

open MyServer MyServer.Admission Clients

universe u v w x

variable {Visitor : Type x} {Conn : Type u} {Addr : Type v} {α : Type w}
variable [DecidableEq Visitor] [DecidableEq Conn]

/-- The server and the pages of its visitors.  `connections` is history: who has
connected, in order. -/
structure State (Visitor : Type x) (Conn : Type u) (Addr : Type v) (α : Type w) where
  server : Admission.State Conn Addr
  pages : Visitor → Page α
  /-- `initState` has been called. -/
  loaded : Visitor → Bool
  channel : Visitor → Option Conn
  /-- The channels that have a `closeCode`. -/
  closeCode : Conn → Bool
  delivered : Conn → ℕ
  connections : List (Visitor × Conn)

inductive Event (Visitor : Type x) (Conn : Type u) (α : Type w) where
  /-- A step of the server. -/
  | server (e : Admission.Event Conn)
  /-- `initState`; `connect` makes a connection or throws. -/
  | initState (v : Visitor) (connect : Option Conn)
  /-- `webSocketKeepAlive`; `connect` makes a connection or throws, if it is called. -/
  | keepAlive (v : Visitor) (connect : Option Conn)
  /-- The browser finds a connection closed. -/
  | closed (c : Conn)
  /-- The next message of its channel reaches a page. -/
  | deliver (v : Visitor)
  /-- Anything else that happens to a page. -/
  | page (v : Visitor) (e : Page.Event α)

namespace State

/-- The connections that `v` has made, in order. -/
def channels (s : State Visitor Conn Addr α) (v : Visitor) : List Conn :=
  (s.connections.filter fun made => made.1 = v).map Prod.snd

/-- The messages that have reached a page over `c`, in order. -/
def received (s : State Visitor Conn Addr α) (c : Conn) : List Json :=
  (messagesTo s.server c).take (s.delivered c)

/-- The page of `v` is now `page`. -/
def setPage (s : State Visitor Conn Addr α) (v : Visitor) (page : Page α) :
    State Visitor Conn Addr α :=
  { s with pages := Function.update s.pages v page }

/-- `_websocketFailed = true`. -/
def fail (s : State Visitor Conn Addr α) (v : Visitor) : State Visitor Conn Addr α :=
  s.setPage v { s.pages v with _websocketFailed := true }

/-- `c` is the channel of `v`. -/
def connected (s : State Visitor Conn Addr α) (v : Visitor) (c : Conn) :
    State Visitor Conn Addr α :=
  { s with
    channel := Function.update s.channel v (some c)
    connections := s.connections ++ [(v, c)] }

/-- The call of `connect`, which makes a connection of its own or throws; `thrown` is what
becomes of the page then. -/
def connect (s thrown : State Visitor Conn Addr α) (v : Visitor) :
    Option Conn → Option (State Visitor Conn Addr α)
  | none => some thrown
  | some c => if c ∈ s.connections.map Prod.snd then none else some (s.connected v c)

def load (s : State Visitor Conn Addr α) (v : Visitor) : State Visitor Conn Addr α :=
  { s with loaded := Function.update s.loaded v true }

/-- `channel == null || channel?.closeCode != null`. -/
def closed (s : State Visitor Conn Addr α) (v : Visitor) : Bool :=
  match s.channel v with
  | none => true
  | some c => s.closeCode c

omit [DecidableEq Visitor] [DecidableEq Conn] in
theorem closed_of_none {s : State Visitor Conn Addr α} {v : Visitor}
    (unconnected : s.channel v = none) : s.closed v = true := by
  unfold closed
  rw [unconnected]

omit [DecidableEq Visitor] [DecidableEq Conn] in
theorem closed_of_some {s : State Visitor Conn Addr α} {v : Visitor} {c : Conn}
    (present : s.channel v = some c) : s.closed v = s.closeCode c := by
  unfold closed
  rw [present]

/-- The page of `v` receives a message over `c`. -/
def deliver (parse : String → Option ℤ) (s : State Visitor Conn Addr α) (v : Visitor) (c : Conn)
    (message : Json) : State Visitor Conn Addr α :=
  { s.setPage v ((s.pages v).message parse message) with
    delivered := Function.update s.delivered c (s.delivered c + 1) }

end State

section Steps

variable [DecidableEq Addr]

/-- One step.  A channel hands over its messages before its `closeCode` is set. -/
def step (addr : Conn → Addr) (parse : String → Option ℤ) (s : State Visitor Conn Addr α) :
    Event Visitor Conn α → Option (State Visitor Conn Addr α)
  | .server e => (Admission.step addr s.server e).map fun server => { s with server := server }
  | .initState v connect =>
      if s.loaded v then none else (s.load v).connect ((s.load v).fail v) v connect
  | .keepAlive v connect =>
      if s.loaded v then
        if s.closed v then (s.fail v).connect (s.fail v) v connect else some s
      else none
  | .closed c => some { s with closeCode := Function.update s.closeCode c true }
  | .deliver v =>
      (s.channel v).bind fun c =>
        if s.closeCode c then none
        else (messagesTo s.server c)[s.delivered c]?.map (s.deliver parse v c)
  | .page _ (.message _) => none
  | .page _ (.keepAlive _) => none
  | .page v e => (Page.step parse (s.pages v) e).map (s.setPage v)

/-- What is left for `page`: a selection, a frame or the end of a fetch. -/
theorem step_page {addr : Conn → Addr} {parse : String → Option ℤ}
    {s t : State Visitor Conn Addr α} {v : Visitor} {e : Page.Event α}
    (hstep : step addr parse s (.page v e) = some t) :
    (∀ message, e ≠ .message message) ∧ (∀ closed, e ≠ .keepAlive closed) ∧
      ∃ page, Page.step parse (s.pages v) e = some page ∧ s.setPage v page = t := by
  cases e with
  | message | keepAlive => cases hstep
  | select | frame | completed | failed => exact ⟨nofun, nofun, Option.map_eq_some_iff.mp hstep⟩

/-- A server nobody is connected to, and pages that have not been loaded. -/
def start : State Visitor Conn Addr α where
  server := Admission.start
  pages _ := Page.start false
  loaded _ := false
  channel _ := none
  closeCode _ := false
  delivered _ := 0
  connections := []

/-- The server and its visitors. -/
def reconnecting (addr : Conn → Addr) (parse : String → Option ℤ) :
    Machine (State Visitor Conn Addr α) (Event Visitor Conn α) where
  init s := s = start
  step := step addr parse

end Steps

/-! ## What a page goes by -/

section Invariant

variable {parse : String → Option ℤ} {addr : Conn → Addr} {s t : State Visitor Conn Addr α}
  {v : Visitor}

/-- What holds of a visitor. -/
structure Keeps (parse : String → Option ℤ) (s : State Visitor Conn Addr α) (v : Visitor) :
    Prop where
  hears : (s.pages v).Hears
  present : s.channel v = (s.channels v).getLast?
  /-- The page hears one connection after the other. -/
  told : (s.pages v).announced =
    (s.channels v).flatMap fun c => (s.received c).filterMap (mySocketListenFunction parse)
  /-- Only the present channel is open. -/
  closed : ∀ c ∈ (s.channels v).dropLast, s.closeCode c = true
  /-- `_served` may come from an earlier connection, but then `_websocketFailed` is set, or
  the present one has admitted the page as well. -/
  current : (s.pages v)._websocketFailed = false → (s.pages v)._served = true →
    ∃ c ∈ s.channel v, admittedMessage ∈ s.received c
  unloaded : s.loaded v = false → s.channel v = none ∧ (s.pages v)._served = false

/-- The invariant of the server and its visitors. -/
structure Follows (parse : String → Option ℤ) (s : State Visitor Conn Addr α) : Prop where
  speaks : Speaks parse s.server
  delivered : ∀ c, s.delivered c ≤ (messagesTo s.server c).length
  /-- Every connection is made once. -/
  distinct : (s.connections.map Prod.snd).Nodup
  untouched : ∀ c, c ∉ s.connections.map Prod.snd → s.delivered c = 0
  keeps : ∀ v, Keeps parse s v

theorem follows_start : Follows parse (start : State Visitor Conn Addr α) where
  speaks := speaks_start parse
  delivered _ := Nat.zero_le _
  distinct := List.nodup_nil
  untouched _ _ := rfl
  keeps v :=
    { hears := Page.hears_start false
      present := rfl
      told := rfl
      closed := fun c none => absurd none List.not_mem_nil
      current := fun _ served => by cases served
      unloaded := fun _ => ⟨rfl, rfl⟩ }

omit [DecidableEq Conn] in
theorem mem_channels {c : Conn} : c ∈ s.channels v ↔ (v, c) ∈ s.connections := by
  unfold State.channels
  rw [List.mem_map]
  constructor
  · rintro ⟨⟨w, d⟩, mem, rfl⟩
    obtain ⟨made, same⟩ := List.mem_filter.mp mem
    obtain rfl : w = v := of_decide_eq_true same
    exact made
  · intro mem
    exact ⟨(v, c), List.mem_filter.mpr ⟨mem, decide_eq_true rfl⟩, rfl⟩

/-- No two visitors share a connection. -/
theorem Follows.unshared (hs : Follows parse s) {w : Visitor} {c : Conn} (mine : c ∈ s.channels v)
    (theirs : c ∈ s.channels w) : v = w :=
  congrArg Prod.fst
    (List.inj_on_of_nodup_map hs.distinct (mem_channels.mp mine) (mem_channels.mp theirs) rfl)

theorem Keeps.channels_eq (h : Keeps parse s v) {c : Conn} (present : s.channel v = some c) :
    ∃ earlier, s.channels v = earlier ++ [c] :=
  List.getLast?_eq_some_iff.mp (h.present.symm.trans present)

theorem Keeps.mem_channels (h : Keeps parse s v) {c : Conn} (present : s.channel v = some c) :
    c ∈ s.channels v :=
  List.mem_of_getLast? (h.present.symm.trans present)

/-- A visitor whom a step does not concern. -/
theorem Keeps.frame (h : Keeps parse s v) (pages : t.pages v = s.pages v)
    (loaded : t.loaded v = s.loaded v) (channel : t.channel v = s.channel v)
    (channels : t.channels v = s.channels v)
    (received : ∀ c ∈ s.channels v, t.received c = s.received c)
    (closeCode : ∀ c, s.closeCode c = true → t.closeCode c = true) : Keeps parse t v where
  hears := pages ▸ h.hears
  present := by rw [channel, channels, h.present]
  told := by
    rw [pages, channels, h.told]
    exact List.flatMap_congr fun c mem => by rw [received c mem]
  closed c mem := closeCode c (h.closed c (channels ▸ mem))
  current := by
    rw [pages, channel]
    intro connected served
    obtain ⟨c, present, admitted⟩ := h.current connected served
    exact ⟨c, present, (received c (h.mem_channels present)).symm ▸ admitted⟩
  unloaded := by
    rw [loaded, channel, pages]
    exact h.unloaded

/-- The server takes a step. -/
theorem Follows.server [DecidableEq Addr] (hs : Follows parse s) {e : Admission.Event Conn}
    {server : Admission.State Conn Addr}
    (samples : ∀ c sample_json, e = .woken c sample_json → Sample parse sample_json)
    (hstep : Admission.step addr s.server e = some server) :
    Follows parse { s with server := server } where
  speaks := hs.speaks.step samples hstep
  delivered c := (hs.delivered c).trans (messagesTo_isPrefix hstep c).length_le
  distinct := hs.distinct
  untouched := hs.untouched
  keeps v := by
    refine (hs.keeps v).frame rfl rfl rfl rfl (fun c _ => ?_) fun _ => id
    obtain ⟨later, messages⟩ := messagesTo_isPrefix hstep c
    change (messagesTo server c).take (s.delivered c) = _
    rw [← messages, List.take_append_of_le_length (hs.delivered c)]
    rfl

/-- A page changes by something else than a message. -/
theorem Follows.setPage (hs : Follows parse s) {page : Page α} (hears : page.Hears)
    (announced : page.announced = (s.pages v).announced)
    (failed : page._websocketFailed = false → (s.pages v)._websocketFailed = false)
    (served : page._served = (s.pages v)._served) : Follows parse (s.setPage v page) where
  speaks := hs.speaks
  delivered := hs.delivered
  distinct := hs.distinct
  untouched := hs.untouched
  keeps w := by
    rcases eq_or_ne w v with rfl | other
    · have own := hs.keeps w
      have here : (s.setPage w page).pages w = page := Function.update_self _ _ _
      constructor
      · rw [here]
        exact hears
      · exact own.present
      · rw [here, announced]
        exact own.told
      · exact own.closed
      · rw [here, served]
        exact fun connected => own.current (failed connected)
      · rw [here, served]
        exact own.unloaded
    · exact (hs.keeps w).frame (Function.update_of_ne other _ _) rfl rfl rfl (fun _ _ => rfl)
        fun _ => id

/-- Where the channel of a page is closed, all of them are. -/
theorem Keeps.all_closed (h : Keeps parse s v) (closed : s.closed v = true) :
    ∀ c ∈ s.channels v, s.closeCode c = true := by
  intro c mem
  cases present : s.channel v with
  | none =>
      rw [List.getLast?_eq_none_iff.mp (h.present.symm.trans present)] at mem
      cases mem
  | some last =>
      obtain ⟨earlier, split⟩ := h.channels_eq present
      have before := h.closed c
      rw [split, List.dropLast_concat] at before
      rw [split] at mem
      rcases List.mem_append.mp mem with early | late
      · exact before early
      · obtain rfl := List.mem_singleton.mp late
        exact (State.closed_of_some present).symm.trans closed

omit [DecidableEq Conn] in
theorem connected_channels (s : State Visitor Conn Addr α) (v : Visitor) (c : Conn)
    (w : Visitor) : (s.connected v c).channels w =
      if w = v then s.channels w ++ [c] else s.channels w :=
  map_snd_filter_append s.connections v c w

/-- The visitor with the new connection. -/
theorem Keeps.connected (h : Keeps parse s v) (loaded : s.loaded v = true)
    (closed : s.closed v = true)
    (idle : (s.pages v)._websocketFailed = false → (s.pages v)._served = false) {c : Conn}
    (untouched : s.delivered c = 0) : Keeps parse (s.connected v c) v := by
  have channels : (s.connected v c).channels v = s.channels v ++ [c] := by
    rw [connected_channels, if_pos rfl]
  have nothing : s.received c = [] := by
    unfold State.received
    rw [untouched, List.take_zero]
  constructor
  · exact h.hears
  · rw [channels, List.getLast?_concat]
    exact Function.update_self _ _ _
  · rw [channels, List.flatMap_append, List.flatMap_singleton]
    change _ = _ ++ (s.received c).filterMap _
    rw [nothing, List.filterMap_nil, List.append_nil]
    exact h.told
  · rw [channels, List.dropLast_concat]
    exact h.all_closed closed
  · intro sound served
    exact absurd ((idle sound).symm.trans served) (by decide)
  · intro unloaded
    exact absurd (unloaded.symm.trans loaded) (by decide)

/-- A page makes a connection. -/
theorem Follows.connect (hs : Follows parse s) {thrown : State Visitor Conn Addr α}
    (thrownFollows : Follows parse thrown) (loaded : s.loaded v = true) (closed : s.closed v = true)
    (idle : (s.pages v)._websocketFailed = false → (s.pages v)._served = false)
    {connect : Option Conn} (hstep : s.connect thrown v connect = some t) : Follows parse t := by
  cases connect with
  | none =>
      obtain rfl := Option.some.inj hstep
      exact thrownFollows
  | some c =>
      obtain ⟨new, hstep⟩ := Option.ite_none_left_eq_some.mp hstep
      obtain rfl := Option.some.inj hstep
      have untouched := hs.untouched c new
      have connections : (s.connected v c).connections.map Prod.snd =
          s.connections.map Prod.snd ++ [c] := List.map_append
      refine ⟨hs.speaks, hs.delivered, ?_, fun d unused => ?_, fun w => ?_⟩
      · rw [connections]
        exact nodup_append_singleton hs.distinct new
      · rw [connections, List.mem_append, not_or] at unused
        exact hs.untouched d unused.1
      · have own := hs.keeps w
        rcases eq_or_ne w v with rfl | other
        · exact own.connected loaded closed idle untouched
        · exact own.frame rfl rfl (Function.update_of_ne other _ _)
            (by rw [connected_channels, if_neg other]) (fun _ _ => rfl) fun _ => id

/-- `_websocketFailed` is set. -/
theorem Follows.fail (hs : Follows parse s) (v : Visitor) : Follows parse (s.fail v) :=
  hs.setPage ((hs.keeps v).hears.congr id ⟨rfl, rfl, rfl⟩) rfl (fun sound => by cases sound) rfl

theorem Follows.load (hs : Follows parse s) (v : Visitor) : Follows parse (s.load v) where
  speaks := hs.speaks
  delivered := hs.delivered
  distinct := hs.distinct
  untouched := hs.untouched
  keeps w := by
    have own := hs.keeps w
    refine ⟨own.hears, own.present, own.told, own.closed, own.current, fun unloaded => ?_⟩
    rcases eq_or_ne w v with rfl | other
    · exact absurd ((Function.update_self _ _ _).symm.trans unloaded) (by decide)
    · exact own.unloaded ((Function.update_of_ne other _ _).symm.trans unloaded)

/-- A channel turns out to be closed. -/
theorem Follows.closed (hs : Follows parse s) (c : Conn) :
    Follows parse { s with closeCode := Function.update s.closeCode c true } where
  speaks := hs.speaks
  delivered := hs.delivered
  distinct := hs.distinct
  untouched := hs.untouched
  keeps v := by
    refine (hs.keeps v).frame rfl rfl rfl rfl (fun _ _ => rfl) fun d closed => ?_
    rcases eq_or_ne d c with rfl | other
    · exact Function.update_self _ _ _
    · exact (Function.update_of_ne other _ _).trans closed

omit [DecidableEq Visitor] in
/-- What has reached the page after one more message. -/
theorem take_succ_delivered {c : Conn} {j : Json}
    (next : (messagesTo s.server c)[s.delivered c]? = some j) :
    (messagesTo s.server c).take (s.delivered c + 1) = s.received c ++ [j] := by
  rw [List.take_add_one, next]
  rfl

theorem deliver_received {c : Conn} {j : Json}
    (next : (messagesTo s.server c)[s.delivered c]? = some j) :
    (s.deliver parse v c j).received c = s.received c ++ [j] := by
  change (messagesTo s.server c).take (Function.update s.delivered c (s.delivered c + 1) c) = _
  rw [Function.update_self, take_succ_delivered next]

theorem deliver_received_of_ne {c d : Conn} (other : d ≠ c) (j : Json) :
    (s.deliver parse v c j).received d = s.received d := by
  change (messagesTo s.server d).take (Function.update s.delivered c (s.delivered c + 1) d) = _
  rw [Function.update_of_ne other]
  rfl

/-- **The fields after a message.**  When they mount the window, the page has been told over
`c` that it is admitted, by this message or by an earlier one. -/
theorem Keeps.current_deliver (h : Keeps parse s v) {c : Conn} {j : Json}
    (own : Protocol parse (s.server.handler c) (c ∈ s.server.admitted) (messagesTo s.server c))
    (present : s.channel v = some c) (next : (messagesTo s.server c)[s.delivered c]? = some j)
    (sound : ((s.pages v).message parse j)._websocketFailed = false)
    (served : ((s.pages v).message parse j)._served = true) :
    admittedMessage ∈ s.received c ++ [j] := by
  have sent := own.sent j (List.mem_of_getElem? next)
  cases sent with
  | nothing =>
      obtain ⟨d, there, admitted⟩ := h.current sound served
      obtain rfl : c = d := Option.some.inj (present.symm.trans there)
      exact List.mem_append_left _ admitted
  | waiting position =>
      rw [Page.message_waiting] at served
      cases served
  | admitted => exact List.mem_append_right _ (List.mem_singleton_self _)
  | image data imageTime time =>
      rw [← take_succ_delivered next]
      refine own.admitted_mem ?_
      rw [filterMap_take_succ _ next, Page.listen_image time]
      exact List.append_ne_nil_of_right_ne_nil _ (List.cons_ne_nil _ _)

theorem Follows.nodup_channels (hs : Follows parse s) (v : Visitor) : (s.channels v).Nodup :=
  hs.distinct.sublist (List.filter_sublist.map Prod.snd)

/-- The announcements that have reached the page, after one more message. -/
theorem Follows.deliver_flatMap (hs : Follows parse s) {c : Conn} {j : Json}
    (present : s.channel v = some c)
    (next : (messagesTo s.server c)[s.delivered c]? = some j) :
    ((s.channels v).flatMap fun d =>
        ((s.deliver parse v c j).received d).filterMap (mySocketListenFunction parse)) =
      ((s.channels v).flatMap fun d =>
        (s.received d).filterMap (mySocketListenFunction parse)) ++
        (mySocketListenFunction parse j).toList := by
  obtain ⟨earlier, split⟩ := (hs.keeps v).channels_eq present
  have distinct := hs.nodup_channels v
  rw [split] at distinct ⊢
  have before : ∀ d ∈ earlier, (s.deliver parse v c j).received d = s.received d := by
    intro d mem
    refine deliver_received_of_ne ?_ j
    rintro rfl
    exact (List.nodup_append.mp distinct).2.2 d mem d (List.mem_singleton_self d) rfl
  rw [List.flatMap_append, List.flatMap_append, List.flatMap_singleton, List.flatMap_singleton,
    List.flatMap_congr fun d mem => by rw [before d mem], deliver_received next,
    List.filterMap_append, List.append_assoc]
  rfl

/-- A message reaches a page. -/
theorem Follows.deliver (hs : Follows parse s) {c : Conn} {j : Json}
    (present : s.channel v = some c)
    (next : (messagesTo s.server c)[s.delivered c]? = some j) :
    Follows parse (s.deliver parse v c j) := by
  have own := hs.keeps v
  have protocol := hs.speaks.protocol c
  have sent := protocol.sent j (List.mem_of_getElem? next)
  have mine := own.mem_channels present
  have received : (s.deliver parse v c j).received c = s.received c ++ [j] :=
    deliver_received next
  refine ⟨hs.speaks, fun d => ?_, hs.distinct, fun d unused => ?_, fun w => ?_⟩
  · change Function.update s.delivered c (s.delivered c + 1) d ≤ (messagesTo s.server d).length
    rcases eq_or_ne d c with rfl | other
    · rw [Function.update_self]
      exact (List.getElem?_eq_some_iff.mp next).1
    · rw [Function.update_of_ne other]
      exact hs.delivered d
  · have other : d ≠ c := by
      rintro rfl
      exact unused (List.mem_map.mpr ⟨(v, d), Reconnecting.mem_channels.mp mine, rfl⟩)
    exact (Function.update_of_ne other _ _).trans (hs.untouched d unused)
  · rcases eq_or_ne w v with rfl | other
    · have page : (s.deliver parse w c j).pages w = (s.pages w).message parse j :=
        Function.update_self _ _ _
      constructor
      · rw [page]
        exact own.hears.message sent
      · exact own.present
      · rw [page, Page.announced_message _ sent, own.told]
        exact (hs.deliver_flatMap present next).symm
      · exact own.closed
      · rw [page]
        intro sound served
        exact ⟨c, present, received ▸ own.current_deliver protocol present next sound served⟩
      · intro unloaded
        exact absurd ((own.unloaded unloaded).1.symm.trans present) nofun
    · refine (hs.keeps w).frame (Function.update_of_ne other _ _) rfl rfl rfl
        (fun d theirs => deliver_received_of_ne ?_ j) fun _ => id
      rintro rfl
      exact other (hs.unshared theirs mine)

/-- **The step lemma.** -/
theorem Follows.step [DecidableEq Addr] (hs : Follows parse s) {e : Event Visitor Conn α}
    (samples : ∀ c sample_json, e = .server (.woken c sample_json) → Sample parse sample_json)
    (hstep : Reconnecting.step addr parse s e = some t) : Follows parse t := by
  cases e with
  | server e =>
      obtain ⟨server, moved, rfl⟩ := Option.map_eq_some_iff.mp hstep
      exact hs.server (fun c sample_json woken => samples c sample_json (congrArg _ woken)) moved
  | initState v connect =>
      obtain ⟨notLoaded, hstep⟩ := Option.ite_none_left_eq_some.mp hstep
      obtain ⟨unconnected, notServed⟩ :=
        (hs.keeps v).unloaded (eq_false_of_ne_true notLoaded)
      have closed : (s.load v).closed v = true := State.closed_of_none unconnected
      exact (hs.load v).connect ((hs.load v).fail v) (Function.update_self _ _ _) closed
        (fun _ => notServed) hstep
  | keepAlive v connect =>
      obtain ⟨loaded, hstep⟩ := Option.ite_none_right_eq_some.mp hstep
      by_cases closed : s.closed v = true
      · rw [if_pos closed] at hstep
        have failed : ((s.fail v).pages v)._websocketFailed = true := by
          change (Function.update s.pages v _ v)._websocketFailed = true
          rw [Function.update_self]
        exact (hs.fail v).connect (hs.fail v) loaded closed
          (fun sound => absurd (failed.symm.trans sound) (by decide)) hstep
      · rw [if_neg closed] at hstep
        obtain rfl := Option.some.inj hstep
        exact hs
  | closed c =>
      obtain rfl := Option.some.inj hstep
      exact hs.closed c
  | deliver v =>
      obtain ⟨c, present, hstep⟩ := Option.bind_eq_some_iff.mp hstep
      obtain ⟨-, hstep⟩ := Option.ite_none_left_eq_some.mp hstep
      obtain ⟨j, next, rfl⟩ := Option.map_eq_some_iff.mp hstep
      exact hs.deliver present next
  | page v e =>
      obtain ⟨other, alive, page, moved, rfl⟩ := step_page hstep
      obtain ⟨failed, served⟩ := Page.fields_step other alive moved
      exact hs.setPage ((hs.keeps v).hears.step (fun _ same => absurd same (other _)) moved)
        (Page.announced_step other moved) (fun sound => failed ▸ sound) served

end Invariant

/-! ## Every run -/

section Runs

variable [DecidableEq Addr]
variable {parse : String → Option ℤ} {addr : Conn → Addr} {s t : State Visitor Conn Addr α}

/-- What a visitor sees comes from the present connection. -/
structure Visits (parse : String → Option ℤ) (s : State Visitor Conn Addr α) (v : Visitor) :
    Prop where
  /-- The stream of the page is made of what its connections have announced, one after the
  other. -/
  told : (s.pages v).announced =
    (s.channels v).flatMap fun c => (s.received c).filterMap (mySocketListenFunction parse)
  /-- No two channels are open. -/
  closed : ∀ c ∈ (s.channels v).dropLast, s.closeCode c = true
  /-- A frame has the window only when the present connection is admitted. -/
  admitted : (s.pages v).showsWindow = true →
    ∃ c ∈ s.channel v, admittedMessage ∈ s.received c
  window : ∀ window, (s.pages v).window = some window → 1 ≤ (s.pages v).mountedAt ∧
    window.received = (s.pages v).announced.drop (s.pages v).mountedAt ∧ window.Shown

theorem showsWindow_fields {page : Page α} (shows : page.showsWindow = true) :
    page._websocketFailed = false ∧ page._served = true := by
  unfold Page.showsWindow at shows
  simp only [Bool.and_eq_true, Bool.not_eq_true'] at shows
  exact ⟨shows.1.1.2, shows.2⟩

omit [DecidableEq Addr] in
theorem Keeps.visits {v : Visitor} (h : Keeps parse s v) : Visits parse s v where
  told := h.told
  closed := h.closed
  admitted shows := h.current (showsWindow_fields shows).1 (showsWindow_fields shows).2
  window window mounted := by
    obtain ⟨late, -, heard⟩ := h.hears.heard window mounted
    exact ⟨late, heard, (h.hears.inv window mounted).shown⟩

/-- The announcements of the image thread, along a run. -/
def Samples (parse : String → Option ℤ) (es : List (Event Visitor Conn α)) : Prop :=
  ∀ c sample_json, .server (.woken c sample_json) ∈ es → Sample parse sample_json

/-- The invariant of every run. -/
theorem follows_throughout {es : List (Event Visitor Conn α)} (hs : Follows parse s)
    (samples : Samples parse es) :
    (reconnecting addr parse).Throughout (Follows parse) s es := by
  let machine : Machine (State Visitor Conn Addr α) (Event Visitor Conn α) :=
    reconnecting addr parse
  let sampled : State Visitor Conn Addr α → Event Visitor Conn α → Prop := fun _ e =>
    ∀ c sample_json, e = .server (.woken c sample_json) → Sample parse sample_json
  have along : machine.Along sampled s es :=
    machine.along_of_mem (fun e mem _ c sample_json woken => by
      subst woken
      exact samples c sample_json mem) _
  exact machine.throughout_of_along (Follows parse) (fun s e t hs hc h => hs.step hc h) hs along

/-- **Connecting anew.**  For every number of visitors and connections, every assignment of
addresses and every interleaving of handlers, deliveries, frames, selections and fetches
with closed connections and calls of `webSocketKeepAlive`: a page hears its connections one
after the other, of which only the last can be open, and no frame has a window before the
present connection has told it that it is admitted, whatever earlier ones have left in its
fields. -/
theorem visits_reconnecting (addr : Conn → Addr) (parse : String → Option ℤ)
    (es : List (Event Visitor Conn α)) (samples : Samples parse es) :
    (reconnecting addr parse).Throughout
      (fun s : State Visitor Conn Addr α => ∀ v, Visits parse s v) start es :=
  (follows_throughout follows_start samples).mono _ fun _ hs v => (hs.keeps v).visits

/-- A visitor is admitted, loses the connection, and is admitted over the next one. -/
def twoVisits : List (Event Unit ℕ ℕ) :=
  [.initState () (some 0), .server (.opened 0), .server (.test 0), .server (.poll 0),
    .server (.test 0), .server (.test 0), .server (.woken 0 (announcement "0.jpg")),
    .deliver (), .deliver (), .page () .frame, .closed 0, .keepAlive () (some 1),
    .page () .frame, .server (.opened 1), .server (.test 1), .server (.poll 1), .deliver (),
    .page () .frame, .server (.test 1), .server (.test 1),
    .server (.woken 1 (announcement "1.jpg")), .deliver ()]

/-- The first announcement of the second connection is heard. -/
theorem visits_reconnecting_twoVisits :
    ∃ s window, (reconnecting (fun c : ℕ => c) fun _ => some 0).run start twoVisits = some s ∧
      (s.pages ()).window = some window ∧ s.channels () = [0, 1] ∧
      (s.pages ()).announced = [⟨"0.jpg", 0⟩, ⟨"1.jpg", 0⟩] ∧
      window.received = [⟨"1.jpg", 0⟩] ∧ Visits (fun _ => some 0) s () := by
  let machine : Machine (State Unit ℕ ℕ ℕ) (Event Unit ℕ ℕ) :=
    reconnecting (fun c => c) fun _ => some 0
  have ends : ((machine.run start twoVisits).bind fun s =>
      (s.pages ()).window.map fun window =>
        (s.channels (), (s.pages ()).announced, window.received)) =
      some ([0, 1], [⟨"0.jpg", 0⟩, ⟨"1.jpg", 0⟩], [⟨"1.jpg", 0⟩]) := by rfl
  obtain ⟨s, run, ends⟩ := Option.bind_eq_some_iff.mp ends
  obtain ⟨window, mounted, ends⟩ := Option.map_eq_some_iff.mp ends
  simp only [Prod.mk.injEq] at ends
  obtain ⟨channels, announced, received⟩ := ends
  refine ⟨s, window, run, mounted, channels, announced, received, ?_⟩
  refine (visits_reconnecting (fun c : ℕ => c) (fun _ => some 0) twoVisits
    fun c sample_json woken => ?_).last machine run ()
  have sample : ∀ name, Sample (fun _ => some 0) (announcement name) := fun name =>
    .image ⟨name, 0⟩ _ rfl
  simp only [twoVisits, List.mem_cons, List.not_mem_nil, Event.server.injEq, reduceCtorEq,
    or_false, false_or, Admission.Event.woken.injEq] at woken
  obtain ⟨-, rfl⟩ | ⟨-, rfl⟩ := woken
  · exact sample _
  · exact sample _

end Runs

/-! ## In front of a server that has lost its count -/

section Lockout

variable [DecidableEq Addr]
variable {parse : String → Option ℤ} {addr : Conn → Addr}

omit [DecidableEq Addr] in
/-- A message that is not the admission. -/
theorem told_of_append {s t : Admission.State Conn Addr} {c d : Conn} {j : Json}
    (sent : t.sent = s.sent ++ [(d, j)]) (other : j ≠ admittedMessage)
    (told : admittedMessage ∈ messagesTo t c) : admittedMessage ∈ messagesTo s c := by
  rw [messagesTo_append sent] at told
  by_cases same : c = d
  · rw [if_pos same] at told
    rcases List.mem_append.mp told with before | last
    · exact before
    · exact absurd (List.mem_singleton.mp last).symm other
  · rw [if_neg same] at told
    exact told

/-- **A full server admits nobody**, and says so to nobody. -/
theorem told_of_full_step {s t : Admission.State Conn Addr} {e : Admission.Event Conn}
    (full : 21 < s.socket_counter)
    (samples : ∀ c sample_json, e = .woken c sample_json → Sample parse sample_json)
    (hstep : Admission.step addr s e = some t) {c : Conn}
    (told : admittedMessage ∈ messagesTo t c) : admittedMessage ∈ messagesTo s c := by
  cases step_cases hstep with
  | polled d place t outcome =>
      cases outcome with
      | enqueued | reported =>
          exact told_of_append rfl (queuePosition_ne_admittedMessage _) told
      | fromQueue free | blocked free | newcomer free | undefined free =>
          exact absurd full (Nat.not_lt.mpr free)
  | forwarded d sample_json place status =>
      exact told_of_append rfl (samples d sample_json rfl).ne_admittedMessage told
  | released d place =>
      unfold messagesTo at told ⊢
      rwa [releasedStep_sent] at told
  | opened | entered | leftFirstLoop | waited | leftSecondLoop | completed | brokeOff =>
      exact told

theorem told_of_full {s t : Admission.State Conn Addr} {es : List (Admission.Event Conn)}
    (full : (admission addr).Along (fun s _ => 21 < s.socket_counter) s es)
    (samples : ∀ c sample_json, .woken c sample_json ∈ es → Sample parse sample_json)
    (hrun : (admission addr).run s es = some t) {c : Conn}
    (told : admittedMessage ∈ messagesTo t c) : admittedMessage ∈ messagesTo s c := by
  induction es generalizing s with
  | nil =>
      obtain rfl : s = t := Option.some.inj hrun
      exact told
  | cons e es ih =>
      obtain ⟨u, hstep, hrest⟩ := Option.bind_eq_some_iff.mp hrun
      obtain ⟨now, later⟩ := full u hstep
      have told := ih later
        (fun d sample_json mem => samples d sample_json (List.mem_cons_of_mem e mem)) hrest
      have sampled : ∀ d sample_json, e = .woken d sample_json → Sample parse sample_json :=
        fun d sample_json woken => samples d sample_json (woken ▸ List.mem_cons_self)
      exact told_of_full_step now sampled hstep told

/-- What the server does in a step. -/
def serverEvents : Event Visitor Conn α → List (Admission.Event Conn)
  | .server e => [e]
  | _ => []

omit [DecidableEq Addr] in
theorem connect_server {s thrown t : State Visitor Conn Addr α} {v : Visitor}
    {connect : Option Conn} (same : thrown.server = s.server)
    (hstep : s.connect thrown v connect = some t) : t.server = s.server := by
  cases connect with
  | none =>
      obtain rfl := Option.some.inj hstep
      exact same
  | some c =>
      obtain ⟨-, hstep⟩ := Option.ite_none_left_eq_some.mp hstep
      obtain rfl := Option.some.inj hstep
      rfl

/-- The server goes on by itself. -/
theorem run_server {s t : State Visitor Conn Addr α} {es : List (Event Visitor Conn α)}
    (hrun : (reconnecting addr parse).run s es = some t) :
    (admission addr).run s.server (es.flatMap serverEvents) = some t.server := by
  refine Machine.run_component _ State.server serverEvents (fun s e t hstep => ?_) hrun
  cases e with
  | server e =>
      obtain ⟨server, moved, rfl⟩ := Option.map_eq_some_iff.mp hstep
      exact Option.bind_eq_some_iff.mpr ⟨server, moved, rfl⟩
  | initState v connect =>
      obtain ⟨-, hstep⟩ := Option.ite_none_left_eq_some.mp hstep
      have same : ((s.load v).fail v).server = (s.load v).server := rfl
      exact congrArg some (connect_server same hstep).symm
  | keepAlive v connect =>
      obtain ⟨-, hstep⟩ := Option.ite_none_right_eq_some.mp hstep
      split at hstep
      · have same : (s.fail v).server = s.server := rfl
        exact congrArg some ((connect_server rfl hstep).trans same).symm
      · obtain rfl := Option.some.inj hstep
        rfl
  | closed c =>
      obtain rfl := Option.some.inj hstep
      rfl
  | deliver v =>
      obtain ⟨c, -, hstep⟩ := Option.bind_eq_some_iff.mp hstep
      obtain ⟨-, hstep⟩ := Option.ite_none_left_eq_some.mp hstep
      obtain ⟨j, -, rfl⟩ := Option.map_eq_some_iff.mp hstep
      rfl
  | page v e =>
      obtain ⟨-, -, page, -, rfl⟩ := step_page hstep
      rfl

omit [DecidableEq Visitor] [DecidableEq Conn] in
theorem mem_serverEvents {es : List (Event Visitor Conn α)} {e : Admission.Event Conn} :
    e ∈ es.flatMap serverEvents ↔ .server e ∈ es := by
  rw [List.mem_flatMap]
  constructor
  · rintro ⟨event, mem, inside⟩
    cases event with
    | server d =>
        obtain rfl := List.mem_singleton.mp inside
        exact mem
    | initState | keepAlive | closed | deliver | page => cases inside
  · intro mem
    exact ⟨.server e, mem, List.mem_singleton_self e⟩

/-- **Connecting anew does not help.**  When after some run fewer connections are served
than there have been excess releases, then whatever happens from there, as long as there
are no more than 65514 of these in all: no frame of a page has a window, unless its present
connection had been sent the admission before.  All later connections are made in vain. -/
theorem dark_of_locked_out (addr : Conn → Addr) (parse : String → Option ℤ)
    (es es' : List (Event Visitor Conn α)) (samples : Samples parse (es ++ es'))
    (s t : State Visitor Conn Addr α) (before : (reconnecting addr parse).run start es = some s)
    (lost : s.server.admitted.length < excess addr Admission.start (es.flatMap serverEvents))
    (after : (reconnecting addr parse).run s es' = some t)
    (few : excess addr Admission.start ((es ++ es').flatMap serverEvents) ≤ 65514) (v : Visitor)
    (unadmitted : ∀ c ∈ t.channel v, admittedMessage ∉ messagesTo s.server c) :
    (t.pages v).showsWindow = false := by
  have served : (admission addr).run Admission.start (es.flatMap serverEvents) = some s.server :=
    run_server before
  rw [List.flatMap_append, excess_append served] at few
  have full := (books_run served).full_along lost few
  have whole : (reconnecting addr parse).run start (es ++ es') = some t := by
    rw [Machine.run_append, before, Option.bind_some, after]
  have follows := (follows_throughout follows_start samples).last _ whole
  by_contra shows
  obtain ⟨c, present, admitted⟩ :=
    (follows.keeps v).visits.admitted (eq_true_of_ne_false shows)
  have sampled : ∀ d sample_json, .woken d sample_json ∈ es'.flatMap serverEvents →
      Sample parse sample_json := fun d sample_json woken =>
    samples d sample_json (List.mem_append_right _ (mem_serverEvents.mp woken))
  exact unadmitted c present
    (told_of_full full sampled (run_server after) (List.mem_of_mem_take admitted))

/-- A waiter fails, and everybody who is served leaves. -/
def empty : List (Event Unit ℕ ℕ) := emptied.map .server

/-- Then a visitor comes, and connects anew. -/
def inVain : List (Event Unit ℕ ℕ) :=
  [.initState () (some 23)] ++ (arrive 23).map .server ++
    [.deliver (), .page () .frame, .closed 23, .keepAlive () (some 24)] ++
    (arrive 24).map .server ++ [.deliver (), .page () .frame]

/-- The empty server tells both connections to wait. -/
theorem dark_of_locked_out_inVain :
    ∃ s t : State Unit ℕ ℕ ℕ,
      (reconnecting id fun _ => none).run start empty = some s ∧ s.server.admitted = [] ∧
      (reconnecting id fun _ => none).run s inVain = some t ∧ t.channels () = [23, 24] ∧
      (t.pages ())._queued = true ∧ (t.pages ()).showsWindow = false := by
  let machine : Machine (State Unit ℕ ℕ ℕ) (Event Unit ℕ ℕ) := reconnecting id fun _ => none
  have both : ((machine.run start empty).bind fun s => (machine.run s inVain).map fun t =>
      (s.server.admitted, messagesTo s.server 24, t.channels (), t.channel (),
        (t.pages ())._queued)) = some ([], [], [23, 24], some 24, true) := by
    decide +kernel
  obtain ⟨s, before, both⟩ := Option.bind_eq_some_iff.mp both
  obtain ⟨t, after, ends⟩ := Option.map_eq_some_iff.mp both
  simp only [Prod.mk.injEq] at ends
  obtain ⟨nobody, silent, channels, channel, queued⟩ := ends
  have once : excess id Admission.start (empty.flatMap serverEvents) = 1 := by decide +kernel
  have still : excess id Admission.start ((empty ++ inVain).flatMap serverEvents) = 1 := by
    decide +kernel
  have asleep : ∀ e ∈ (empty ++ inVain).flatMap serverEvents,
      (match e with | .woken _ _ => false | _ => true) = true := by
    decide +kernel
  refine ⟨s, t, before, nobody, after, channels, queued, ?_⟩
  refine dark_of_locked_out id (fun _ => none) empty inVain (fun c sample_json woken => ?_) s t
    before ?_ after ?_ () fun c present => ?_
  · cases asleep _ (mem_serverEvents.mpr woken)
  · rw [nobody, once]
    decide
  · rw [still]
    decide
  · obtain rfl : 24 = c := Option.some.inj (channel.symm.trans present)
    rw [silent]
    exact List.not_mem_nil

end Lockout

end SpectrogramServers.FlutterSite.Reconnecting
