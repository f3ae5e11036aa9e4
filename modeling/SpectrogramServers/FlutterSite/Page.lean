import SpectrogramServers.FlutterSite.ImageFetching

/-!
# The page around the spectrogram window

`_MyHomePageState` keeps what the servers have told it in five fields, and forwards every
announcement to a broadcast stream.  The window listens to that stream from the frame that
mounts it to the frame that removes it: it is on the page when the home page is selected,
the socket has not failed, and `connected` and `served` are set.

## What a window misses

A broadcast stream drops what is added while nobody listens, and the fields that mount the
window are set by the very message that carries the first announcement.  So what a window
hears is the announcements since the frame that mounted it, and the first one of all is
heard by none (`Hears`).  A window that comes back, after another page was selected or the
socket was closed, is a new one and begins with no picture.

## The model

A message is decoded in an isolate and handled in a callback, which is one step; a frame
is another, since Flutter builds the widgets later than `setState` asks for it.  Between
two frames any number of messages may come.  The window runs inside the page as the
machine of `ImageFetching`, and what is proved there of a mounted window holds of it from
its frame on.

`Sent` is the messages that the two servers send.  The page is lenient, and a message may
have all keys or none; what it makes of values of another type is left out, since neither
server sends them.
-/

namespace SpectrogramServers.FlutterSite

universe u

variable {α : Type u}

/-- The fields of `_MyHomePageState` that the spectrogram depends on, with the window if
it is mounted.  `announced` and `mountedAt` are history: what was added to
`imageController`, and how much of it before the window was mounted. -/
structure Page (α : Type u) where
  _pageSelect : ℕ
  _websocketFailed : Bool
  _connected : Bool
  _queued : Bool
  _queuePosition : ℕ
  _duplicate : Bool
  _served : Bool
  window : Option (ImageFetching.State α)
  announced : List ImageData
  mountedAt : ℕ

namespace Page

/-- After `initState`; `failed` says that the first `connect` has thrown. -/
def start (failed : Bool) : Page α where
  _pageSelect := 0
  _websocketFailed := failed
  _connected := false
  _queued := false
  _queuePosition := 0
  _duplicate := false
  _served := false
  window := none
  announced := []
  mountedAt := 0

/-! ## Messages -/

/-- `imageController.add`, for a broadcast stream. -/
def add (page : Page α) (data : ImageData) : Page α :=
  { page with
    announced := page.announced ++ [data]
    window := page.window.map fun window => window.announced data }

/-- The branch for `Served`. -/
def served (page : Page α) (message : Json) : Page α :=
  match message.get? "Served" with
  | some (.bool value) =>
      { page with _connected := true, _queued := false, _duplicate := false, _served := value }
  | _ => page

/-- The branch for `Queue Position`. -/
def queuePosition (page : Page α) (message : Json) : Page α :=
  match message.get? "Queue Position" with
  | some (.number position) =>
      { page with _connected := true, _queued := true, _queuePosition := position }
  | _ => page

/-- The branch for `Duplicate`. -/
def duplicate (page : Page α) (message : Json) : Page α :=
  match message.get? "Duplicate" with
  | some (.bool value) => { page with _connected := true, _duplicate := value }
  | _ => page

/-- `mySocketListenFunction`.  `null` is not a map, so `jsonDecodeIsolate` throws, and the
callback is not run.  Neither server sends a value of another type under these keys. -/
def message (parse : String → Option ℤ) (page : Page α) : Json → Page α
  | .null => page
  | .object fields =>
      let page := ((({ page with _websocketFailed := false }.served (.object fields)).queuePosition
        (.object fields)).duplicate (.object fields))
      match mySocketListenFunction parse (.object fields) with
      | some data => page.add data
      | none => page

/-! ## Frames -/

/-- The widgets that are built contain the `SpectrogramWindow`. -/
def showsWindow (page : Page α) : Bool :=
  decide (page._pageSelect = 0) && !page._websocketFailed && page._connected && page._served

/-- A frame: the window is mounted, kept or disposed of. -/
def build (page : Page α) : Page α :=
  if page.showsWindow then
    match page.window with
    | some _ => page
    | none =>
        { page with window := some ImageFetching.start, mountedAt := page.announced.length }
  else { page with window := none }

inductive Event (α : Type u) where
  /-- The callback of `messageFuture`. -/
  | message (message : Json)
  /-- `webSocketKeepAlive`; `closed` says that there is no channel or it has a close code. -/
  | keepAlive (closed : Bool)
  /-- `_selectHomePage`, `_selectAboutPage` or `_selectWhatPage`. -/
  | select (page : ℕ)
  /-- A frame. -/
  | frame
  /-- The `n`-th fetch of the window in flight completes with an image. -/
  | completed (n : ℕ) (image : α)
  /-- The `n`-th fetch of the window in flight fails. -/
  | failed (n : ℕ)

/-- What the window does on its own. -/
def fetched (page : Page α) (e : ImageFetching.Event α) : Option (Page α) :=
  page.window.bind fun window =>
    (ImageFetching.step window e).map fun window => { page with window := some window }

/-- One event.  The fetches of a window that has been disposed of are not waited for. -/
def step (parse : String → Option ℤ) (page : Page α) : Event α → Option (Page α)
  | .message message => some (page.message parse message)
  | .keepAlive closed => some (if closed then { page with _websocketFailed := true } else page)
  | .select selected => some { page with _pageSelect := selected }
  | .frame => some page.build
  | .completed n image => page.fetched (.completed n image)
  | .failed n => page.fetched (.failed n)

end Page

/-! ## The messages of the servers -/

/-- The messages that the two servers send, with announcements whose time can be parsed. -/
inductive Sent (parse : String → Option ℤ) : Json → Prop
  /-- `sample_json` before its first assignment. -/
  | nothing : Sent parse .null
  /-- The message of a connection that has to wait. -/
  | waiting (position : ℕ) :
      Sent parse (.object [("Queue Position", .number position), ("Served", .bool false)])
  /-- The message of an admitted connection. -/
  | admitted : Sent parse (.object [("Duplicate", .bool false)])
  /-- An announcement. -/
  | image (data : ImageData) (imageTime : String) (time : parse imageTime = some data.item2) :
      Sent parse (.object [("Image Name", .string data.item1), ("Image Time", .string imageTime),
        ("Served", .bool true)])

namespace Page

variable {parse : String → Option ℤ}

/-- The message of a connection that has to wait takes the window away. -/
theorem message_waiting (page : Page α) (position : ℕ) :
    page.message parse (.object [("Queue Position", .number position), ("Served", .bool false)]) =
      { page with
        _websocketFailed := false, _connected := true, _queued := true
        _queuePosition := position, _duplicate := false, _served := false } := rfl

theorem message_admitted (page : Page α) :
    page.message parse (.object [("Duplicate", .bool false)]) =
      { page with _websocketFailed := false, _connected := true, _duplicate := false } := rfl

/-- What an announcement adds to the stream. -/
theorem listen_image {data : ImageData} {imageTime : String}
    (time : parse imageTime = some data.item2) :
    mySocketListenFunction parse (.object [("Image Name", .string data.item1),
      ("Image Time", .string imageTime), ("Served", .bool true)]) = some data := by
  change (parse imageTime).map _ = some data
  rw [time]
  rfl

/-- An announcement sets the fields that mount the window, and goes to the window that is
mounted already. -/
theorem message_image (page : Page α) {data : ImageData} {imageTime : String}
    (time : parse imageTime = some data.item2) :
    page.message parse (.object [("Image Name", .string data.item1),
        ("Image Time", .string imageTime), ("Served", .bool true)]) =
      { page with
        _websocketFailed := false, _connected := true, _queued := false, _duplicate := false
        _served := true }.add data := by
  unfold message
  dsimp only
  rw [listen_image time]
  rfl

/-! ## What a window hears -/

/-- The invariant of the page. -/
structure Hears (page : Page α) : Prop where
  /-- `served` comes with an announcement. -/
  served : page._served = true → page.announced ≠ []
  /-- A window hears what is announced since it was mounted, and that is not the first
  announcement. -/
  heard : ∀ window, page.window = some window →
    1 ≤ page.mountedAt ∧ page.mountedAt ≤ page.announced.length ∧
      window.received = page.announced.drop page.mountedAt
  /-- What it shows is in order. -/
  inv : ∀ window, page.window = some window → ImageFetching.Inv window

theorem hears_start (failed : Bool) : Hears (start failed : Page α) where
  served h := by cases h
  heard _ h := by cases h
  inv _ h := by cases h

/-- Fields that neither the window nor its history depends on. -/
theorem Hears.congr {page page' : Page α} (h : Hears page)
    (served : page'._served = true → page._served = true)
    (same : page'.announced = page.announced ∧ page'.window = page.window ∧
      page'.mountedAt = page.mountedAt) : Hears page' := by
  obtain ⟨announced, window, mountedAt⟩ := same
  refine ⟨fun on => ?_, fun w mounted => ?_, fun w mounted => ?_⟩
  · rw [announced]
    exact h.served (served on)
  · rw [announced, mountedAt]
    exact h.heard w (window ▸ mounted)
  · exact h.inv w (window ▸ mounted)

/-- An announcement is heard by the window that is mounted. -/
theorem Hears.add {page : Page α} (data : ImageData)
    (heard : ∀ window, page.window = some window →
      1 ≤ page.mountedAt ∧ page.mountedAt ≤ page.announced.length ∧
        window.received = page.announced.drop page.mountedAt)
    (inv : ∀ window, page.window = some window → ImageFetching.Inv window) :
    Hears (page.add data) := by
  refine ⟨fun _ => List.append_ne_nil_of_right_ne_nil _ (List.cons_ne_nil _ _),
    fun w mounted => ?_, fun w mounted => ?_⟩
  · obtain ⟨before, there, rfl⟩ := Option.map_eq_some_iff.mp mounted
    obtain ⟨late, inside, received⟩ := heard before there
    have grown : (before.announced data).received = before.received ++ [data] := by
      rcases ImageFetching.announced_cases (inv before there) data with ⟨-, same⟩ | ⟨-, same⟩
      · rw [same]
      · rw [same]
    change 1 ≤ page.mountedAt ∧ page.mountedAt ≤ (page.announced ++ [data]).length ∧
      (before.announced data).received = (page.announced ++ [data]).drop page.mountedAt
    refine ⟨late, ?_, ?_⟩
    · rw [List.length_append]
      omega
    · rw [grown, received, List.drop_append_of_le_length inside]
  · obtain ⟨before, there, rfl⟩ := Option.map_eq_some_iff.mp mounted
    exact (inv before there).announced data

theorem Hears.message {page : Page α} (h : Hears page) {message : Json}
    (sent : Sent parse message) : Hears (page.message parse message) := by
  cases sent with
  | nothing => exact h
  | waiting position =>
      rw [message_waiting]
      exact h.congr (fun on => by cases on) ⟨rfl, rfl, rfl⟩
  | admitted =>
      rw [message_admitted]
      exact h.congr id ⟨rfl, rfl, rfl⟩
  | image data imageTime time =>
      rw [message_image page time]
      exact .add data h.heard h.inv

/-- A frame mounts a window when something has been announced. -/
theorem Hears.build {page : Page α} (h : Hears page) : Hears page.build := by
  unfold Page.build
  split
  next shows =>
      cases mounted : page.window with
      | some window => exact h
      | none =>
          have served : page._served = true := by
            unfold showsWindow at shows
            exact (Bool.and_eq_true _ _ ▸ shows).2
          have some := List.length_pos_iff.mpr (h.served served)
          refine ⟨h.served, ?_, ?_⟩
          · rintro w ⟨⟩
            refine ⟨some, Nat.le_refl _, ?_⟩
            rw [List.drop_length]
            rfl
          · rintro w ⟨⟩
            exact ImageFetching.inv_start
  next =>
      exact ⟨h.served, fun w none => (by cases none), fun w none => (by cases none)⟩

/-- The end of a fetch changes nothing that was heard. -/
theorem Hears.fetched {page page' : Page α} (h : Hears page) {e : ImageFetching.Event α}
    (ends : ∀ data, e ≠ .announced data) (hstep : page.fetched e = some page') :
    Hears page' := by
  obtain ⟨window, mounted, hstep⟩ := Option.bind_eq_some_iff.mp hstep
  obtain ⟨window', moved, rfl⟩ := Option.map_eq_some_iff.mp hstep
  have received : window'.received = window.received := by
    cases e with
    | announced data => exact absurd rfl (ends data)
    | completed n image =>
        obtain ⟨fetch, -, rfl⟩ := Option.map_eq_some_iff.mp moved
        rfl
    | failed n =>
        obtain ⟨fetch, -, rfl⟩ := Option.map_eq_some_iff.mp moved
        rfl
  refine ⟨h.served, ?_, ?_⟩
  · rintro w ⟨⟩
    rw [received]
    exact h.heard window mounted
  · rintro w ⟨⟩
    exact (h.inv window mounted).step moved

/-- **The step lemma.** -/
theorem Hears.step {page page' : Page α} {e : Event α} (h : Hears page)
    (sent : ∀ message, e = .message message → Sent parse message)
    (hstep : Page.step parse page e = some page') : Hears page' := by
  cases e with
  | message message =>
      obtain rfl := Option.some.inj hstep
      exact h.message (sent message rfl)
  | keepAlive closed =>
      obtain rfl := Option.some.inj hstep
      cases closed with
      | true => exact h.congr id ⟨rfl, rfl, rfl⟩
      | false => exact h
  | select selected =>
      obtain rfl := Option.some.inj hstep
      exact h.congr id ⟨rfl, rfl, rfl⟩
  | frame =>
      obtain rfl := Option.some.inj hstep
      exact h.build
  | completed n image => exact h.fetched (fun _ other => by cases other) hstep
  | failed n => exact h.fetched (fun _ other => by cases other) hstep

/-- What a message adds to the stream. -/
theorem announced_message (page : Page α) {message : Json} (sent : Sent parse message) :
    (page.message parse message).announced =
      page.announced ++ (mySocketListenFunction parse message).toList := by
  cases sent with
  | nothing | waiting position | admitted => exact (List.append_nil _).symm
  | image data imageTime time =>
      rw [message_image page time, listen_image time]
      rfl

/-- Only a message adds to the stream. -/
theorem announced_step {page page' : Page α} {e : Event α}
    (other : ∀ message, e ≠ .message message) (hstep : Page.step parse page e = some page') :
    page'.announced = page.announced := by
  cases e with
  | message message => exact absurd rfl (other message)
  | keepAlive closed =>
      obtain rfl := Option.some.inj hstep
      cases closed with
      | true => rfl
      | false => rfl
  | select selected =>
      obtain rfl := Option.some.inj hstep
      rfl
  | frame =>
      obtain rfl := Option.some.inj hstep
      unfold Page.build
      split
      · split
        · rfl
        · rfl
      · rfl
  | completed n image | failed n =>
      obtain ⟨window, -, moved⟩ := Option.bind_eq_some_iff.mp hstep
      obtain ⟨window', -, rfl⟩ := Option.map_eq_some_iff.mp moved
      rfl

/-- Only messages and `webSocketKeepAlive` change what mounts the window on the home page. -/
theorem fields_step {page page' : Page α} {e : Event α} (other : ∀ message, e ≠ .message message)
    (alive : ∀ closed, e ≠ .keepAlive closed) (hstep : Page.step parse page e = some page') :
    page'._websocketFailed = page._websocketFailed ∧ page'._served = page._served := by
  cases e with
  | message message => exact absurd rfl (other message)
  | keepAlive closed => exact absurd rfl (alive closed)
  | select selected =>
      obtain rfl := Option.some.inj hstep
      exact ⟨rfl, rfl⟩
  | frame =>
      obtain rfl := Option.some.inj hstep
      unfold Page.build
      split
      · split
        · exact ⟨rfl, rfl⟩
        · exact ⟨rfl, rfl⟩
      · exact ⟨rfl, rfl⟩
  | completed n image | failed n =>
      obtain ⟨window, -, moved⟩ := Option.bind_eq_some_iff.mp hstep
      obtain ⟨window', -, rfl⟩ := Option.map_eq_some_iff.mp moved
      exact ⟨rfl, rfl⟩

end Page

end SpectrogramServers.FlutterSite
