import Mathlib.Data.Int.Notation
import SpectrogramServers.Json

/-!
# The spectrogram window of the web page

The page decodes every websocket message.  One that has an `Image Name` goes, with its
parsed `Image Time`, to a broadcast stream that `_SpectrogramWindowState` listens to: it
fetches the image of that name and, when the fetch completes, shows it with two times
computed from the `Image Time`.

## What is load-bearing

* The callback of a fetch uses the time of the message that started the fetch, not of the
  latest message, so an image and its times belong together.
* No second fetch is started while `_fetchingImage` is set, so there is one at most.
* The flag is cleared in the callback of success only.  A fetch that fails leaves it set.

The two times are `Image Time` less four hours, and the same ten seconds later: the page
shows a fixed offset from what it is sent, whatever the time zone of the visitor.

The window is a record with one function for each piece of code that changes it.  Images
are of any type; fetching them is left to the modules that run the window, `ImageFetching`
for one that stays mounted, and `LiveImages` for the page with its server.
-/

namespace SpectrogramServers.FlutterSite

universe u

/-- A `Tuple2<String, DateTime>`; the time is in seconds. -/
structure ImageData where
  item1 : String
  item2 : ℤ
  deriving DecidableEq

/-- What `mySocketListenFunction` adds to `imageController`; `parse` is
`DateTime.parse`, `none` where it throws. -/
def mySocketListenFunction (parse : String → Option ℤ) (message : Json) : Option ImageData :=
  match message.get? "Image Name", message.get? "Image Time" with
  | some (.string imageName), some (.string imageTime) =>
      (parse imageTime).map fun time => ⟨imageName, time⟩
  | _, _ => none

/-- `Duration(hours: .., minutes: .., seconds: ..)`. -/
def duration (hours minutes seconds : ℤ) : ℤ := 3600 * hours + 60 * minutes + seconds

/-- `_SpectrogramWindowState`, for images of type `α`, with the fields that its code reads
and assigns. -/
structure WindowState (α : Type u) where
  mounted : Bool
  _fetchingImage : Bool
  myImage : Option α
  myTime : Option ℤ
  laterTime : Option ℤ

namespace WindowState

variable {α : Type u}

/-- The state that `initState` leaves. -/
def initState : WindowState α where
  mounted := true
  _fetchingImage := false
  myImage := none
  myTime := none
  laterTime := none

/-- Whether the listener goes on to call `fetchImage`. -/
def fetches (w : WindowState α) : Bool := w.mounted && !w._fetchingImage

/-- The listener: it marks that a fetch is running, or drops the message. -/
def listen (w : WindowState α) : WindowState α :=
  if w.fetches then { w with _fetchingImage := true } else w

/-- The callback of a completed fetch; `setState` refuses an unmounted state. -/
def imageFetched (w : WindowState α) (data : ImageData) (image : α) : WindowState α :=
  if w.mounted then
    { w with
      _fetchingImage := false
      myImage := some image
      myTime := some (data.item2 - duration 4 0 0)
      laterTime := some (data.item2 - duration 3 59 50) }
  else { w with _fetchingImage := false }

def dispose (w : WindowState α) : WindowState α := { w with mounted := false }

end WindowState

end SpectrogramServers.FlutterSite
