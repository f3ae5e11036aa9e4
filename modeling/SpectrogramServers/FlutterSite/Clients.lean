import SpectrogramServers.FlutterSite.Page
import SpectrogramServers.MyServer.AdmissionInvariant

/-!
# The server and its pages

All handlers of `IQWebSocketServer` together with a page for every connection.  A page
receives the messages of its connection in the order in which they were sent, at any time,
and builds its frames in between.  There may be any number of connections, and any of them
may share addresses.

## The protocol

The messages of a connection keep to a protocol (`Protocol`): its queue positions while it
waits, `Duplicate` once, and from then on what the image thread announces.  This is an
invariant of the server alone (`Speaks`), and the only way in which the rest depends on
it.  A page never has to expect a queue position after it has been admitted.

## Both ends

Joined with what a page makes of its messages (`Hears`, from `Page`) this gives
`served_clients`: whatever the interleaving of handlers, deliveries and frames, a page has
a spectrogram window only after it was told that its connection is admitted, and its
window has heard every announcement since the frame that mounted it, but never the first.

The first announcement is lost to every page: it is what makes the page mount its window,
and the window listens to a broadcast stream, which keeps nothing for those who come
later.

That the Image Times of the announcements can be parsed is an assumption about `put_time`
and `DateTime.parse` (`Sample`); `TimeLabel` proves it of the two as they are.
-/

namespace SpectrogramServers.FlutterSite.Clients

open MyServer MyServer.Admission

universe u v w

variable {Conn : Type u} {Addr : Type v} {α : Type w} [DecidableEq Conn]

/-- What was sent to connection `c`, in order. -/
def messagesTo (s : Admission.State Conn Addr) (c : Conn) : List Json :=
  (s.sent.filter fun sent => sent.1 = c).map Prod.snd

/-- The server and its pages; `delivered` counts the messages that a page has received, so
that what is on its way to a page is what was sent to it and not counted yet. -/
structure State (Conn : Type u) (Addr : Type v) (α : Type w) where
  server : Admission.State Conn Addr
  pages : Conn → Page α
  delivered : Conn → ℕ

inductive Event (Conn : Type u) (α : Type w) where
  /-- A step of the server. -/
  | server (e : Admission.Event Conn)
  /-- The next message of connection `c` reaches its page. -/
  | deliver (c : Conn)
  /-- Anything else that happens to the page of connection `c`. -/
  | page (c : Conn) (e : Page.Event α)

/-- The page of `c` is now `page`. -/
def State.setPage (s : State Conn Addr α) (c : Conn) (page : Page α) : State Conn Addr α :=
  { s with pages := Function.update s.pages c page }

/-- The page of `c` receives a message. -/
def State.deliver (parse : String → Option ℤ) (s : State Conn Addr α) (c : Conn)
    (message : Json) : State Conn Addr α :=
  { s.setPage c ((s.pages c).message parse message) with
    delivered := Function.update s.delivered c (s.delivered c + 1) }

@[simp] theorem setPage_self (s : State Conn Addr α) (c : Conn) (page : Page α) :
    (s.setPage c page).pages c = page := Function.update_self _ _ _

@[simp] theorem setPage_of_ne (s : State Conn Addr α) {c d : Conn} (page : Page α) (h : d ≠ c) :
    (s.setPage c page).pages d = s.pages d := Function.update_of_ne h _ _

@[simp] theorem deliver_pages (parse : String → Option ℤ) (s : State Conn Addr α) (c : Conn)
    (message : Json) : (s.deliver parse c message).pages =
      (s.setPage c ((s.pages c).message parse message)).pages := rfl

@[simp] theorem deliver_delivered_self (parse : String → Option ℤ) (s : State Conn Addr α)
    (c : Conn) (message : Json) :
    (s.deliver parse c message).delivered c = s.delivered c + 1 := Function.update_self _ _ _

@[simp] theorem deliver_delivered_of_ne (parse : String → Option ℤ) (s : State Conn Addr α)
    {c d : Conn} (message : Json) (h : d ≠ c) :
    (s.deliver parse c message).delivered d = s.delivered d := Function.update_of_ne h _ _

variable [DecidableEq Addr]

def step (addr : Conn → Addr) (parse : String → Option ℤ) (s : State Conn Addr α) :
    Event Conn α → Option (State Conn Addr α)
  | .server e => (Admission.step addr s.server e).map fun server => { s with server := server }
  | .deliver c => (messagesTo s.server c)[s.delivered c]?.map (s.deliver parse c)
  | .page _ (.message _) => none
  | .page c e => (Page.step parse (s.pages c) e).map (s.setPage c)

theorem step_page (addr : Conn → Addr) (parse : String → Option ℤ) (s : State Conn Addr α)
    (c : Conn) {e : Page.Event α} (other : ∀ message, e ≠ .message message) :
    step addr parse s (.page c e) = (Page.step parse (s.pages c) e).map (s.setPage c) := by
  cases e with
  | message message => exact absurd rfl (other message)
  | keepAlive | select | frame | completed | failed => rfl

/-- A server nobody is connected to, and fresh pages. -/
def start (failed : Conn → Bool) : State Conn Addr α where
  server := Admission.start
  pages c := Page.start (failed c)
  delivered _ := 0

/-- The server and its pages. -/
def clients (addr : Conn → Addr) (parse : String → Option ℤ) :
    Machine (State Conn Addr α) (Event Conn α) where
  init s := ∃ failed, s = start failed
  step := step addr parse

/-! ## The protocol of a connection -/

/-- What the image thread leaves in `sample_json`. -/
inductive Sample (parse : String → Option ℤ) : Json → Prop
  | nothing : Sample parse .null
  | image (data : ImageData) (imageTime : String) (time : parse imageTime = some data.item2) :
      Sample parse (.object [("Image Name", .string data.item1),
        ("Image Time", .string imageTime), ("Served", .bool true)])

theorem Sample.sent {parse : String → Option ℤ} {j : Json} (h : Sample parse j) :
    Sent parse j := by
  cases h with
  | nothing => exact .nothing
  | image data imageTime time => exact .image data imageTime time

/-- The message with a queue position. -/
def Waiting (j : Json) : Prop :=
  ∃ position, j = .object [("Queue Position", .number position), ("Served", .bool false)]

theorem waiting_queuePosition (position : ℕ) : Waiting (queuePosition position) :=
  ⟨position, rfl⟩

/-- The message of an admitted connection. -/
def admittedMessage : Json := .object [("Duplicate", .bool false)]

theorem queuePosition_ne_admittedMessage (position : ℕ) :
    queuePosition position ≠ admittedMessage := by
  intro same
  cases congrArg (fun j : Json => j.get? "Queue Position") same

theorem Sample.ne_admittedMessage {parse : String → Option ℤ} {j : Json} (h : Sample parse j) :
    j ≠ admittedMessage := by
  intro same
  cases h with
  | nothing => cases same
  | image data imageTime time => cases congrArg (fun j : Json => j.get? "Image Name") same

theorem duplicateFalse_eq (j : Json) : duplicateFalse j = admittedMessage := Json.set_clear _ _ _

/-- Queue positions, and from the admission on `Duplicate` and announcements: the whole of
what an admitted connection is sent. -/
structure Admits (parse : String → Option ℤ) (messages : List Json) : Prop where
  split : ∃ waits samples, messages = waits ++ admittedMessage :: samples ∧
    (∀ j ∈ waits, Waiting j) ∧ ∀ j ∈ samples, Sample parse j

/-- What connection `c` has been sent, by whether it has been admitted. -/
inductive Protocol (parse : String → Option ℤ) (h : Handler) (admitted : Prop)
    (messages : List Json) : Prop
  | outside (notAdmitted : ¬ admitted) (waits : ∀ j ∈ messages, Waiting j)
  | inside (past : admitted ∨ h.place = .finished) (admits : Admits parse messages)

/-- The invariant of the server. -/
structure Speaks (parse : String → Option ℤ) (s : Admission.State Conn Addr) : Prop where
  consistent : Consistent s
  /-- A connection that waits has its last position in `j`. -/
  waits : ∀ c, (s.handler c).queued = true → Waiting (s.handler c).j
  protocol : ∀ c, Protocol parse (s.handler c) (c ∈ s.admitted) (messagesTo s c)

omit [DecidableEq Addr] in
theorem speaks_start (parse : String → Option ℤ) :
    Speaks parse (Admission.start : Admission.State Conn Addr) where
  consistent := consistent_start
  waits c queued := by cases queued
  protocol c := .outside List.not_mem_nil fun j none => absurd none List.not_mem_nil

omit [DecidableEq Addr] in
/-- A message is appended to those of its connection and of no other. -/
theorem messagesTo_append {s t : Admission.State Conn Addr} {c : Conn} {j : Json}
    (sent : t.sent = s.sent ++ [(c, j)]) (d : Conn) :
    messagesTo t d = if d = c then messagesTo s d ++ [j] else messagesTo s d := by
  unfold messagesTo
  rw [sent]
  exact map_snd_filter_append _ _ _ _

section Server

variable {parse : String → Option ℤ} {h h' : Handler} {admitted : Prop} {messages : List Json}

/-- As long as it has not been admitted, a connection is only told to wait. -/
theorem Protocol.waits (own : Protocol parse h admitted messages) (notAdmitted : ¬ admitted)
    (notFinished : h.place ≠ .finished) : ∀ j ∈ messages, Waiting j := by
  cases own with
  | outside _ waits => exact waits
  | inside past _ => exact (past.elim notAdmitted notFinished).elim

/-- A handler that has not finished moves on. -/
theorem Protocol.move (own : Protocol parse h admitted messages)
    (place : h.place = .finished → h'.place = .finished) : Protocol parse h' admitted messages := by
  cases own with
  | outside notAdmitted waits => exact .outside notAdmitted waits
  | inside past admits => exact .inside (past.imp_right place) admits

/-- One more queue position. -/
theorem Protocol.wait {j : Json} (waits : ∀ i ∈ messages, Waiting i) (waiting : Waiting j)
    (notAdmitted : ¬ admitted) : Protocol parse h admitted (messages ++ [j]) := by
  refine .outside notAdmitted fun i mem => ?_
  rcases List.mem_append.mp mem with before | last
  · exact waits i before
  · rw [List.mem_singleton.mp last]
    exact waiting

/-- The admission. -/
theorem Protocol.served (waits : ∀ i ∈ messages, Waiting i) (now : admitted) (j : Json) :
    Protocol parse h admitted (messages ++ [duplicateFalse j]) := by
  rw [duplicateFalse_eq]
  exact .inside (.inl now) ⟨⟨messages, [], rfl, waits, fun i none => absurd none
    List.not_mem_nil⟩⟩

/-- One more announcement. -/
theorem Protocol.forward {sample_json : Json} (own : Protocol parse h admitted messages)
    (now : admitted) (sample : Sample parse sample_json) :
    Protocol parse h' admitted (messages ++ [sample_json]) := by
  cases own with
  | outside notAdmitted _ => exact absurd now notAdmitted
  | inside _ admits =>
      obtain ⟨waits, samples, rfl, before, after⟩ := admits.split
      refine .inside (.inl now) ⟨⟨waits, samples ++ [sample_json], ?_, before, ?_⟩⟩
      · rw [List.append_assoc, List.cons_append]
      · intro j mem
        rcases List.mem_append.mp mem with earlier | last
        · exact after j earlier
        · rw [List.mem_singleton.mp last]
          exact sample

omit [DecidableEq Addr] in
/-- A step of `c` only has to be checked at `c`. -/
theorem Speaks.of_update {s t : Admission.State Conn Addr} (hs : Speaks parse s)
    (consistent : Consistent t) (c : Conn)
    (handler : t.handler = Function.update s.handler c h')
    (frame : ∀ d, d ≠ c → (d ∈ t.admitted ↔ d ∈ s.admitted) ∧ messagesTo t d = messagesTo s d)
    (waits : h'.queued = true → Waiting h'.j)
    (own : Protocol parse h' (c ∈ t.admitted) (messagesTo t c)) : Speaks parse t where
  consistent := consistent
  waits d := by
    by_cases same : d = c
    · subst same
      rw [handler, Function.update_self]
      exact waits
    · rw [handler, Function.update_of_ne same]
      exact hs.waits d
  protocol d := by
    by_cases same : d = c
    · subst same
      rw [handler, Function.update_self]
      exact own
    · rw [handler, Function.update_of_ne same, (frame d same).1, (frame d same).2]
      exact hs.protocol d

omit [DecidableEq Addr] in
/-- A step that sends nothing and admits nobody. -/
theorem Speaks.setHandler {s : Admission.State Conn Addr} (hs : Speaks parse s) (c : Conn)
    (consistent : Consistent (s.setHandler c h')) (waits : h'.queued = true → Waiting h'.j)
    (place : (s.handler c).place = .finished → h'.place = .finished) :
    Speaks parse (s.setHandler c h') :=
  hs.of_update consistent c rfl (fun _ _ => ⟨.rfl, rfl⟩) waits ((hs.protocol c).move place)

/-- **A pass through the critical section.** -/
theorem Speaks.polled {addr : Conn → Addr} {s t : Admission.State Conn Addr}
    (hs : Speaks parse s) {c : Conn} (consistent : Consistent t)
    (place : (s.handler c).place = .entering) (outcome : PollOutcome addr s c t) :
    Speaks parse t := by
  have notAdmitted : c ∉ s.admitted := hs.consistent.not_admitted place
  have waits := (hs.protocol c).waits notAdmitted (by rw [place]; decide)
  have message : ∀ {t : Admission.State Conn Addr} {j : Json}, t.sent = s.sent ++ [(c, j)] →
      messagesTo t c = messagesTo s c ++ [j] := fun sent =>
    (messagesTo_append sent c).trans (if_pos rfl)
  have others : ∀ {t : Admission.State Conn Addr} {j : Json}, t.sent = s.sent ++ [(c, j)] →
      ∀ d, d ≠ c → messagesTo t d = messagesTo s d := fun sent d other =>
    (messagesTo_append sent d).trans (if_neg other)
  cases outcome with
  | enqueued full newcomer =>
      refine hs.of_update consistent c rfl (fun d other => ⟨.rfl, others rfl d other⟩)
        (fun _ => waiting_queuePosition _) ?_
      rw [message rfl]
      exact .wait waits (waiting_queuePosition _) notAdmitted
  | reported full waiter =>
      refine hs.of_update consistent c rfl (fun d other => ⟨.rfl, others rfl d other⟩)
        (fun _ => waiting_queuePosition _) ?_
      rw [message rfl]
      exact .wait waits (waiting_queuePosition _) notAdmitted
  | fromQueue free waiter rest front =>
      refine hs.of_update consistent c rfl
        (fun d other => ⟨mem_append_singleton_of_ne other _, others rfl d other⟩)
        (fun queued => by cases queued) ?_
      rw [message rfl]
      exact .served waits (List.mem_append_right _ (List.mem_singleton_self c)) _
  | blocked free waiter front_ip rest front other =>
      have last := hs.waits c waiter
      refine hs.of_update consistent c rfl (fun d other => ⟨.rfl, others rfl d other⟩)
        (fun _ => last) ?_
      rw [message rfl]
      exact .wait waits last notAdmitted
  | newcomer free newcomer =>
      refine hs.of_update consistent c rfl
        (fun d other => ⟨mem_append_singleton_of_ne other _, others rfl d other⟩)
        (fun queued => by cases queued) ?_
      rw [message rfl]
      exact .served waits (List.mem_append_right _ (List.mem_singleton_self c)) _
  | undefined free waiter empty => exact ⟨consistent, hs.waits, hs.protocol⟩

/-- **The step lemma of the server.**  Each way through the critical section sends what
the protocol has at that point, and the second loop sends only announcements. -/
theorem Speaks.step {addr : Conn → Addr} {s t : Admission.State Conn Addr}
    {e : Admission.Event Conn} (hs : Speaks parse s)
    (samples : ∀ c sample_json, e = .woken c sample_json → Sample parse sample_json)
    (hstep : Admission.step addr s e = some t) : Speaks parse t := by
  have consistent := hs.consistent.step hstep
  cases step_cases hstep with
  | opened c place =>
      exact hs.setHandler c consistent (fun queued => by cases queued)
        fun finished => absurd (place.symm.trans finished) (by decide)
  | entered c place status =>
      exact hs.setHandler c consistent (hs.waits c)
        fun finished => absurd (place.symm.trans finished) (by decide)
  | leftFirstLoop c place status =>
      exact hs.of_update consistent c rfl (fun _ _ => ⟨.rfl, rfl⟩) (hs.waits c)
        ((hs.protocol c).move fun finished => absurd (place.symm.trans finished) (by decide))
  | waited c place status =>
      have isAdmitted : c ∈ s.admitted :=
        (hs.consistent.handler c).of_status_zero status (by rw [place]; decide)
      have notQueued := ((hs.consistent.handler c).of_admitted isAdmitted).2.1
      exact hs.setHandler c consistent
        (fun queued => absurd (notQueued.symm.trans queued) (by decide))
        fun finished => absurd (place.symm.trans finished) (by decide)
  | leftSecondLoop c place status =>
      exact hs.setHandler c consistent (hs.waits c)
        fun finished => absurd (place.symm.trans finished) (by decide)
  | polled c place t outcome => exact hs.polled consistent place outcome
  | completed c ok pending => exact hs.setHandler c consistent (hs.waits c) id
  | brokeOff c sample_json place status =>
      exact hs.setHandler c consistent (hs.waits c)
        fun finished => absurd (place.symm.trans finished) (by decide)
  | forwarded c sample_json place status =>
      have isAdmitted : c ∈ s.admitted := (hs.consistent.handler c).of_place_waiting place
      have sent : (s.forward c sample_json).sent = s.sent ++ [(c, sample_json)] := rfl
      refine hs.of_update consistent c rfl
        (fun d other => ⟨.rfl, (messagesTo_append sent d).trans (if_neg other)⟩) (hs.waits c) ?_
      rw [messagesTo_append sent c, if_pos rfl]
      exact (hs.protocol c).forward isAdmitted (samples c sample_json rfl)
  | released c place =>
      have messages : ∀ d, messagesTo (releasedStep s c) d = messagesTo s d := fun d => by
        unfold messagesTo
        rw [releasedStep_sent]
      refine hs.of_update consistent c (releasedStep_handler s c)
        (fun d other => ⟨?_, messages d⟩) (hs.waits c) ?_
      · rw [releasedStep_admitted]
        exact List.mem_erase_of_ne other
      · rw [messages c, releasedStep_admitted]
        cases hs.protocol c with
        | outside notAdmitted waits =>
            exact .outside (fun mem => notAdmitted (List.mem_of_mem_erase mem)) waits
        | inside past admits => exact .inside (.inr rfl) admits

end Server

/-! ## The server and its pages -/

section Runs

variable {parse : String → Option ℤ}

/-- Every message is one that a page knows. -/
theorem Protocol.sent {h : Handler} {admitted : Prop} {messages : List Json}
    (own : Protocol parse h admitted messages) : ∀ j ∈ messages, Sent parse j := by
  have waiting : ∀ j, Waiting j → Sent parse j := by
    rintro _ ⟨position, rfl⟩
    exact .waiting position
  cases own with
  | outside _ waits => exact fun j mem => waiting j (waits j mem)
  | inside _ admits =>
      obtain ⟨waits, samples, rfl, before, after⟩ := admits.split
      intro j mem
      rcases List.mem_append.mp mem with early | late
      · exact waiting j (before j early)
      · rcases List.mem_cons.mp late with rfl | late
        · exact .admitted
        · exact (after j late).sent

/-- A queue position adds nothing to the stream. -/
theorem listen_waiting {j : Json} (h : Waiting j) : mySocketListenFunction parse j = none := by
  obtain ⟨position, rfl⟩ := h
  rfl

/-- **An announcement comes after the admission.** -/
theorem Protocol.admitted_mem {h : Handler} {admitted : Prop} {messages : List Json}
    (own : Protocol parse h admitted messages) {n : ℕ}
    (some : (messages.take n).filterMap (mySocketListenFunction parse) ≠ []) :
    admittedMessage ∈ messages.take n := by
  have silent : ∀ l : List Json, (∀ j ∈ l, Waiting j) →
      l.filterMap (mySocketListenFunction parse) = [] := fun l waits =>
    List.filterMap_eq_nil_iff.mpr fun j mem => listen_waiting (waits j mem)
  cases own with
  | outside _ waits =>
      exact absurd (silent _ fun j mem => waits j (List.mem_of_mem_take mem)) some
  | inside _ admits =>
      obtain ⟨waits, samples, rfl, before, -⟩ := admits.split
      by_cases reached : waits.length < n
      · rw [List.take_append, List.take_of_length_le reached.le]
        obtain ⟨more, rest⟩ : ∃ more, n - waits.length = more + 1 :=
          ⟨n - waits.length - 1, by omega⟩
        rw [rest, List.take_succ_cons]
        exact List.mem_append_right _ List.mem_cons_self
      · rw [List.take_append_of_le_length (Nat.not_lt.mp reached)] at some
        exact absurd (silent _ fun j mem => before j (List.mem_of_mem_take mem)) some

/-- What was sent stays sent. -/
theorem sent_isPrefix {addr : Conn → Addr} {s t : Admission.State Conn Addr}
    {e : Admission.Event Conn} (hstep : Admission.step addr s e = some t) : s.sent <+: t.sent := by
  cases step_cases hstep with
  | polled c place t outcome =>
      cases outcome with
      | undefined => exact List.prefix_refl _
      | enqueued | reported | fromQueue | blocked | newcomer => exact List.prefix_append _ _
  | forwarded => exact List.prefix_append _ _
  | released c place =>
      have same := releasedStep_sent s c
      exact ⟨[], by rw [same, List.append_nil]⟩
  | opened | entered | leftFirstLoop | waited | leftSecondLoop | completed | brokeOff =>
      exact List.prefix_refl _

/-- What was sent to a connection stays sent, and in its place. -/
theorem messagesTo_isPrefix {addr : Conn → Addr} {s t : Admission.State Conn Addr}
    {e : Admission.Event Conn} (hstep : Admission.step addr s e = some t) (c : Conn) :
    messagesTo s c <+: messagesTo t c :=
  ((sent_isPrefix hstep).filter _).map _

/-- The invariant of the server and its pages. -/
structure Serves (parse : String → Option ℤ) (s : State Conn Addr α) : Prop where
  speaks : Speaks parse s.server
  hears : ∀ c, (s.pages c).Hears
  delivered : ∀ c, s.delivered c ≤ (messagesTo s.server c).length
  told : ∀ c, (s.pages c).announced =
    ((messagesTo s.server c).take (s.delivered c)).filterMap (mySocketListenFunction parse)

omit [DecidableEq Addr] in
theorem serves_start (failed : Conn → Bool) :
    Serves parse (start failed : State Conn Addr α) where
  speaks := speaks_start parse
  hears c := Page.hears_start (failed c)
  delivered _ := Nat.zero_le _
  told _ := rfl

omit [DecidableEq Addr] in
/-- A message reaches its page. -/
theorem Serves.deliver {s : State Conn Addr α} (hs : Serves parse s) {c : Conn} {j : Json}
    (next : (messagesTo s.server c)[s.delivered c]? = some j) :
    Serves parse (s.deliver parse c j) := by
  have sent := (hs.speaks.protocol c).sent j (List.mem_of_getElem? next)
  obtain ⟨inside, at_next⟩ := List.getElem?_eq_some_iff.mp next
  refine ⟨hs.speaks, fun d => ?_, fun d => ?_, fun d => ?_⟩
  · rcases eq_or_ne d c with rfl | other
    · rw [deliver_pages, setPage_self]
      exact (hs.hears d).message sent
    · rw [deliver_pages, setPage_of_ne _ _ other]
      exact hs.hears d
  · rcases eq_or_ne d c with rfl | other
    · rw [deliver_delivered_self]
      exact inside
    · rw [deliver_delivered_of_ne _ _ _ other]
      exact hs.delivered d
  · rcases eq_or_ne d c with rfl | other
    · rw [deliver_pages, setPage_self, deliver_delivered_self, Page.announced_message _ sent,
        hs.told d]
      exact (filterMap_take_succ _ next).symm
    · rw [deliver_pages, setPage_of_ne _ _ other, deliver_delivered_of_ne _ _ _ other]
      exact hs.told d

omit [DecidableEq Addr] in
/-- A page changes by something else than a message. -/
theorem Serves.setPage {s : State Conn Addr α} (hs : Serves parse s) {c : Conn} {page : Page α}
    (hears : page.Hears) (announced : page.announced = (s.pages c).announced) :
    Serves parse (s.setPage c page) := by
  refine ⟨hs.speaks, fun d => ?_, hs.delivered, fun d => ?_⟩
  · rcases eq_or_ne d c with rfl | other
    · rw [setPage_self]
      exact hears
    · rw [setPage_of_ne _ _ other]
      exact hs.hears d
  · rcases eq_or_ne d c with rfl | other
    · rw [setPage_self, announced]
      exact hs.told d
    · rw [setPage_of_ne _ _ other]
      exact hs.told d

/-- The server takes a step. -/
theorem Serves.server {addr : Conn → Addr} {s : State Conn Addr α} (hs : Serves parse s)
    {e : Admission.Event Conn} {t : Admission.State Conn Addr}
    (samples : ∀ c sample_json, e = .woken c sample_json → Sample parse sample_json)
    (hstep : Admission.step addr s.server e = some t) :
    Serves parse { s with server := t } := by
  have grown := messagesTo_isPrefix hstep
  refine ⟨hs.speaks.step samples hstep, hs.hears, fun c => ?_, fun c => ?_⟩
  · exact (hs.delivered c).trans (grown c).length_le
  · obtain ⟨later, messages⟩ := grown c
    rw [hs.told c]
    change _ = ((messagesTo t c).take (s.delivered c)).filterMap _
    rw [← messages, List.take_append_of_le_length (hs.delivered c)]

/-- **The step lemma** of the server with its pages: handlers and pages do not interfere,
and a delivery is the next message of its connection. -/
theorem Serves.step {addr : Conn → Addr} {s t : State Conn Addr α} (hs : Serves parse s)
    {e : Event Conn α}
    (samples : ∀ c sample_json, e = .server (.woken c sample_json) → Sample parse sample_json)
    (hstep : Clients.step addr parse s e = some t) : Serves parse t := by
  cases e with
  | server e =>
      obtain ⟨server, moved, rfl⟩ := Option.map_eq_some_iff.mp hstep
      exact hs.server (fun c sample_json woken => samples c sample_json (congrArg _ woken)) moved
  | deliver c =>
      obtain ⟨j, next, rfl⟩ := Option.map_eq_some_iff.mp hstep
      exact hs.deliver next
  | page c e =>
      by_cases message : ∃ message, e = .message message
      · obtain ⟨message, rfl⟩ := message
        cases hstep
      · have other := not_exists.mp message
        rw [step_page addr parse s c other] at hstep
        obtain ⟨page, moved, rfl⟩ := Option.map_eq_some_iff.mp hstep
        exact hs.setPage ((hs.hears c).step (fun _ same => absurd same (other _)) moved)
          (Page.announced_step other moved)

/-- What a page with a window has been through: it was told that its connection is admitted,
and its window has heard every announcement since the frame that mounted it, but not the
first; what it shows is in order. -/
structure Served (s : State Conn Addr α) (c : Conn) (window : ImageFetching.State α) : Prop where
  admitted : admittedMessage ∈ (messagesTo s.server c).take (s.delivered c)
  late : 1 ≤ (s.pages c).mountedAt
  heard : window.received = (s.pages c).announced.drop (s.pages c).mountedAt
  shown : window.Shown

/-- **The server and its pages.**  For every number of connections, every assignment of
addresses and every interleaving of handlers, deliveries, frames, selections and fetches,
with announcements whose time can be parsed: what a page adds to its stream is the
announcements among the messages it has received, in order; and a page with a window is
`Served`. -/
theorem served_clients (addr : Conn → Addr) (parse : String → Option ℤ) (failed : Conn → Bool)
    (es : List (Event Conn α))
    (samples : ∀ c sample_json, .server (.woken c sample_json) ∈ es → Sample parse sample_json) :
    (clients addr parse).Throughout (fun s : State Conn Addr α => ∀ c,
      (s.pages c).announced =
          ((messagesTo s.server c).take (s.delivered c)).filterMap
            (mySocketListenFunction parse) ∧
        ∀ window, (s.pages c).window = some window → Served s c window)
      (start failed) es := by
  let machine : Machine (State Conn Addr α) (Event Conn α) := clients addr parse
  let sampled : State Conn Addr α → Event Conn α → Prop := fun _ e =>
    ∀ c sample_json, e = .server (.woken c sample_json) → Sample parse sample_json
  have along : machine.Along sampled (start failed) es :=
    machine.along_of_mem (fun e mem _ c sample_json woken => by
      subst woken
      exact samples c sample_json mem) _
  refine (machine.throughout_of_along (Serves parse) (fun s e t hs hc h => hs.step hc h)
    (serves_start failed) along).mono machine fun s hs c => ⟨hs.told c, fun window mounted => ?_⟩
  obtain ⟨late, inside, heard⟩ := (hs.hears c).heard window mounted
  refine ⟨(hs.speaks.protocol c).admitted_mem ?_, late, heard, ?_⟩
  · rw [← hs.told c]
    exact List.ne_nil_of_length_pos (by omega)
  · exact ((hs.hears c).inv window mounted).shown

/-- An image that the image thread announces. -/
def announcement (file_name : String) : Json :=
  .object [("Image Name", .string file_name), ("Image Time", .string "1970-01-01 00:00:00"),
    ("Served", .bool true)]

/-- One visitor is admitted and sees two announcements, with a frame in between. -/
def visit : List (Event Unit ℕ) :=
  [.server (.opened ()), .server (.test ()), .server (.poll ()), .server (.test ()),
    .server (.test ()), .server (.woken () (announcement "0.jpg")), .deliver (), .deliver (),
    .page () .frame, .server (.test ()), .server (.woken () (announcement "1.jpg")), .deliver ()]

/-- The window is on the page, and has heard the second announcement. -/
theorem served_clients_visit :
    ∃ s window, (clients (fun c : Unit => c) fun _ => some 0).run (start fun _ => false) visit =
        some s ∧ (s.pages ()).window = some window ∧ window.received = [⟨"1.jpg", 0⟩] ∧
      Served s () window := by
  let machine := clients (α := ℕ) (fun c : Unit => c) fun _ => some 0
  have mounted : ((machine.run (start fun _ => false) visit).bind fun s =>
      (s.pages ()).window.map fun window => window.received) = some [⟨"1.jpg", 0⟩] := by rfl
  obtain ⟨s, run, mounted⟩ := Option.bind_eq_some_iff.mp mounted
  obtain ⟨window, mounted, received⟩ := Option.map_eq_some_iff.mp mounted
  refine ⟨s, window, run, mounted, received, ?_⟩
  refine ((served_clients (fun c : Unit => c) (fun _ => some 0) (fun _ => false) visit
    fun c sample_json woken => ?_).last machine run ()).2 window mounted
  have sample : ∀ name, Sample (fun _ => some 0) (announcement name) := fun name =>
    .image ⟨name, 0⟩ _ rfl
  simp only [visit, List.mem_cons, List.not_mem_nil, Event.server.injEq, reduceCtorEq, or_false,
    false_or, Admission.Event.woken.injEq] at woken
  obtain ⟨-, rfl⟩ | ⟨-, rfl⟩ := woken
  · exact sample _
  · exact sample _

end Runs

end SpectrogramServers.FlutterSite.Clients
