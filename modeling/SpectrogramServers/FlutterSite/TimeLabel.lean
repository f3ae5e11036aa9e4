import SpectrogramServers.Lib.Calendar
import SpectrogramServers.Lib.Scanner
import SpectrogramServers.CloudServer.Freshness
import SpectrogramServers.FlutterSite.SpectrogramWindow

/-!
# The times under the picture

An Image Time goes from the server to the page as text.  The server writes its local time
with `put_time`, without a zone; the page reads it with `DateTime.parse`, which takes a
text without a zone for its own local time, subtracts four hours, and shows hour, minute
and second in its local time again, followed by `EST`.

## The text

`put_time` writes nineteen characters, and `DateTime.parse` matches a regular expression
with many optional parts.  The text is read back as it was written (`fullMatch_put_time`):
the proof follows the expression from left to right with the rules of `Lib.Scanner`, and
the only thing to check at each option is that a digit is no sign and no separator.

## The two zones

Offsets are arbitrary functions of the moment, so that daylight saving time is included.
Since both zones stand for the same clock, the zone of the page drops out: what is shown
is the local time of the *server* less four hours (`labels_of_announcement`), unless the
page's own zone shifts in those four hours.  A page in another zone than the server takes
the text for another moment, and shows the same label.

A local time that does not exist, or exists twice, is where `DateTime.parse` has a choice.
`resolve` stands for it, and the theorem only asks that it gives some moment with that
local time.
-/

namespace SpectrogramServers.FlutterSite.TimeLabel

open Scanner

universe u

/-! ## What the server writes -/

/-- `struct tm`. -/
structure Tm where
  date : Date
  tm_hour : ℤ
  tm_min : ℤ
  tm_sec : ℤ

/-- The days before 1970. -/
def epoch : ℤ := 719162

/-- `std::localtime`; at `t` local time is `offset t` seconds ahead. -/
def localtime (offset : ℤ → ℤ) (t : ℤ) : Tm where
  date := Date.ofDays ((t + offset t) / 86400 + epoch)
  tm_hour := (t + offset t) / 3600 % 24
  tm_min := (t + offset t) / 60 % 60
  tm_sec := (t + offset t) % 60

/-- Two digits. -/
def padded (n : ℤ) : List Char := [Nat.digitChar (n.toNat / 10), Nat.digitChar (n.toNat % 10)]

/-- `std::put_time(.., "%Y-%m-%d %H:%M:%S")`. -/
def put_time (tm : Tm) : String :=
  String.ofList ((toString tm.date.year).toList ++
    '-' :: (padded tm.date.month ++ '-' :: (padded tm.date.day ++
      ' ' :: (padded tm.tm_hour ++ ':' :: (padded tm.tm_min ++ ':' :: (padded tm.tm_sec ++ []))))))

/-! ## What the page reads -/

/-- What the pattern of `DateTime.parse` captures, without fractions of a second.  `zone`
is the offset of a text that has one, in seconds. -/
structure Fields where
  years : ℤ
  month : ℤ
  day : ℤ
  hour : ℤ
  minute : ℤ
  second : ℤ
  zone : Option ℤ
  deriving DecidableEq

/-- `:?(\d\d)(?:[.,](\d+))?`. -/
def seconds : Scanner ℕ :=
  (optional (oneOf [':'])).bind fun _ => (digits 2).bind fun second =>
    (optional ((oneOf ['.', ',']).bind fun _ => someDigits)).bind fun _ => pure second

/-- `:?(\d\d)(?:`seconds`)?`. -/
def minutes : Scanner (ℕ × ℕ) :=
  (optional (oneOf [':'])).bind fun _ => (digits 2).bind fun minute =>
    (optional seconds).bind fun second => pure (minute, second.getD 0)

/-- ` ?[zZ]| ?([-+])(\d\d)(?::?(\d\d))?`. -/
def zone : Scanner ℤ :=
  orElse
    ((optional (oneOf [' '])).bind fun _ => (oneOf ['z', 'Z']).bind fun _ => pure 0)
    ((optional (oneOf [' '])).bind fun _ => (oneOf ['-', '+']).bind fun sign =>
      (digits 2).bind fun hours =>
        (optional ((optional (oneOf [':'])).bind fun _ => digits 2)).bind fun minutes =>
          pure ((if sign = '-' then -60 else 60) * (60 * (hours : ℤ) + (minutes.getD 0 : ℕ))))

/-- `[ T](\d\d)(?:`minutes`)?(`zone`)?`. -/
def time : Scanner ((ℕ × ℕ × ℕ) × Option ℤ) :=
  (oneOf [' ', 'T']).bind fun _ => (digits 2).bind fun hour =>
    (optional minutes).bind fun rest => (optional zone).bind fun zone =>
      pure ((hour, rest.getD (0, 0)), zone)

/-- `([+-]?\d{4,6})-?(\d\d)-?(\d\d)(?:`time`)?`. -/
def parseFormat : Scanner Fields :=
  (optional (oneOf ['+', '-'])).bind fun sign =>
    (orElse (digits 6) (orElse (digits 5) (digits 4))).bind fun years =>
      (optional (oneOf ['-'])).bind fun _ => (digits 2).bind fun month =>
        (optional (oneOf ['-'])).bind fun _ => (digits 2).bind fun day =>
          (optional time).bind fun time =>
            let clock := time.getD ((0, 0, 0), none)
            pure ⟨if sign = some '-' then -years else years, month, day, clock.1.1, clock.1.2.1,
              clock.1.2.2, clock.2⟩

/-- The seconds of a date and time since 1970; months that are not of the year are carried. -/
def Fields.seconds (f : Fields) : ℤ :=
  let months := 12 * f.years + f.month - 1
  86400 * ((Date.mk (months / 12) (months % 12 + 1) f.day).toDays - epoch) +
    3600 * f.hour + 60 * f.minute + f.second

/-- `DateTime.parse`.  A text without a zone is local time, and `resolve` is the moment of a
local time. -/
def parse (resolve : ℤ → ℤ) (formattedString : String) : Option ℤ :=
  (fullMatch parseFormat formattedString.toList).map fun f =>
    match f.zone with
    | none => resolve f.seconds
    | some zone => f.seconds - zone

/-! ## What the page shows -/

/-- Hour, minute and second of a local time. -/
def clock (seconds : ℤ) : String :=
  String.ofList (padded (seconds / 3600 % 24) ++ ':' :: (padded (seconds / 60 % 60) ++
    ':' :: padded (seconds % 60)))

/-- `getFormatTime`, where local time is `offset` ahead. -/
def getFormatTime (offset : ℤ → ℤ) (time : ℤ) : String := clock (time + offset time)

/-- The two texts of the `TimePainter`, if there is one. -/
def labels {α : Type u} (offset : ℤ → ℤ) (w : WindowState α) : Option (String × String) :=
  match w.myImage, w.myTime, w.laterTime with
  | some _, some myTime, some laterTime =>
      some (getFormatTime offset laterTime ++ " EST", getFormatTime offset myTime ++ " EST")
  | _, _, _ => none

/-! ## Digits -/

theorem isDigit_of_mem_padded {n : ℤ} (small : n < 100) : ∀ c ∈ padded n, c.isDigit = true := by
  intro c mem
  unfold padded at mem
  rcases List.mem_cons.mp mem with rfl | mem
  · rw [Nat.isDigit_digitChar]
    exact decide_eq_true (by omega)
  · rw [List.mem_singleton.mp mem, Nat.isDigit_digitChar]
    exact decide_eq_true (by omega)

/-- Two digits are read back. -/
theorem finds_padded {n : ℤ} (nonneg : 0 ≤ n) (small : n < 100) (text : List Char) :
    Finds (digits 2) (padded n ++ text) n.toNat text := by
  have read := finds_digits rfl (isDigit_of_mem_padded small) text
  have value : Nat.ofDigitChars 10 (padded n) 0 = n.toNat := by
    unfold padded
    rw [Nat.ofDigitChars_cons_digitChar_of_lt_ten (by omega),
      Nat.ofDigitChars_cons_digitChar_of_lt_ten (by omega), Nat.ofDigitChars_nil]
    omega
  rwa [value] at read

/-- A year of four digits. -/
theorem exists_digits {year : ℤ} (range : 1000 ≤ year ∧ year ≤ 9999) :
    (toString year).toList.length = 4 ∧ (∀ c ∈ (toString year).toList, c.isDigit = true) ∧
      Nat.ofDigitChars 10 (toString year).toList 0 = year.toNat := by
  obtain ⟨n, rfl⟩ := Int.eq_ofNat_of_zero_le (show 0 ≤ year by omega)
  have text : (toString (n : ℤ)).toList = Nat.toDigits 10 n := Nat.toList_repr
  have atMost : (Nat.toDigits 10 n).length ≤ 4 :=
    (Nat.length_toDigits_le_iff (by decide) (by decide)).mpr (by omega)
  have notLess : ¬(Nat.toDigits 10 n).length ≤ 3 :=
    (Nat.length_toDigits_le_iff (by decide) (by decide)).not.mpr (by omega)
  rw [text]
  refine ⟨by omega, fun c mem => ?_, Nat.ofDigitChars_ten_toDigits⟩
  exact Nat.isDigit_of_mem_toDigits (by decide) (by decide) mem

/-- A digit is no sign. -/
theorem sign_eq_nil {ds : List Char} (some : ds ≠ []) (all : ∀ c ∈ ds, c.isDigit = true)
    (text : List Char) : oneOf ['+', '-'] (ds ++ text) = [] := by
  obtain ⟨c, ds, rfl⟩ := List.exists_cons_of_ne_nil some
  refine oneOf_eq_nil (fun sign => ?_) _
  have digit := all c List.mem_cons_self
  rcases List.mem_cons.mp sign with rfl | sign
  · cases digit
  · rw [List.mem_singleton.mp sign] at digit
    cases digit

/-! ## The text is read back -/

/-- The fields of a `struct tm` that `put_time` writes with two digits or four, so that
every field has the width that the pattern expects. -/
structure Tm.InRange (tm : Tm) : Prop where
  year : 1000 ≤ tm.date.year ∧ tm.date.year ≤ 9999
  date : tm.date.WellFormed
  hour : 0 ≤ tm.tm_hour ∧ tm.tm_hour < 24
  min : 0 ≤ tm.tm_min ∧ tm.tm_min < 60
  sec : 0 ≤ tm.tm_sec ∧ tm.tm_sec < 60

section ReadBack

variable {tm : Tm} (range : tm.InRange)

include range

theorem finds_seconds : Finds seconds (':' :: (padded tm.tm_sec ++ [])) tm.tm_sec.toNat [] := by
  have sec := range.sec
  refine finds_bind (finds_optional (finds_oneOf (by decide) _)) ?_
  refine finds_bind (finds_padded sec.1 (by omega) _) ?_
  exact finds_bind (finds_optional_none rfl) (finds_pure _ _)

theorem finds_minutes :
    Finds minutes (':' :: (padded tm.tm_min ++ ':' :: (padded tm.tm_sec ++ [])))
      (tm.tm_min.toNat, tm.tm_sec.toNat) [] := by
  have min := range.min
  refine finds_bind (finds_optional (finds_oneOf (by decide) _)) ?_
  refine finds_bind (finds_padded min.1 (by omega) _) ?_
  exact finds_bind (finds_optional (finds_seconds range)) (finds_pure _ _)

theorem finds_time :
    Finds time (' ' :: (padded tm.tm_hour ++ ':' :: (padded tm.tm_min ++
        ':' :: (padded tm.tm_sec ++ []))))
      ((tm.tm_hour.toNat, tm.tm_min.toNat, tm.tm_sec.toNat), none) [] := by
  have hour := range.hour
  refine finds_bind (finds_oneOf (by decide) _) ?_
  refine finds_bind (finds_padded hour.1 (by omega) _) ?_
  refine finds_bind (finds_optional (finds_minutes range)) ?_
  exact finds_bind (finds_optional_none rfl) (finds_pure _ _)

/-- **`DateTime.parse` reads what `put_time` has written.** -/
theorem fullMatch_put_time :
    fullMatch parseFormat (put_time tm).toList =
      some ⟨tm.date.year, tm.date.month, tm.date.day, tm.tm_hour, tm.tm_min, tm.tm_sec, none⟩ := by
  obtain ⟨length, all, value⟩ := exists_digits range.year
  obtain ⟨year, ⟨month, day⟩, hour, min, sec⟩ := range
  have captured : Fields.mk
      (if (none : Option Char) = some '-' then
          -(Nat.ofDigitChars 10 (toString tm.date.year).toList 0 : ℤ)
        else (Nat.ofDigitChars 10 (toString tm.date.year).toList 0 : ℤ))
      tm.date.month.toNat tm.date.day.toNat tm.tm_hour.toNat tm.tm_min.toNat tm.tm_sec.toNat none =
      ⟨tm.date.year, tm.date.month, tm.date.day, tm.tm_hour, tm.tm_min, tm.tm_sec, none⟩ := by
    rw [if_neg (by decide), value, Int.toNat_of_nonneg (by omega), Int.toNat_of_nonneg (by omega),
      Int.toNat_of_nonneg (by omega), Int.toNat_of_nonneg hour.1, Int.toNat_of_nonneg min.1,
      Int.toNat_of_nonneg sec.1]
  rw [← captured, put_time, String.toList_ofList]
  refine fullMatch_of_finds ?_
  refine finds_bind (finds_optional_none (sign_eq_nil ?_ all _)) ?_
  · exact List.ne_nil_of_length_pos (by omega)
  refine finds_bind (finds_orElse_right (digits_eq_nil (by omega) rfl _)
    (finds_orElse_right (digits_eq_nil (by omega) rfl _) (finds_digits length all _))) ?_
  refine finds_bind (finds_optional (finds_oneOf (by decide) _)) ?_
  refine finds_bind (finds_padded (by omega) (by omega) _) ?_
  refine finds_bind (finds_optional (finds_oneOf (by decide) _)) ?_
  refine finds_bind (finds_padded (by omega) (by omega) _) ?_
  exact finds_bind (finds_optional (finds_time ⟨year, ⟨month, day⟩, hour, min, sec⟩))
    (finds_pure _ _)

end ReadBack

/-- What `std::localtime` fills in is in range, for a year of four digits. -/
theorem localtime_inRange {offset : ℤ → ℤ} {t : ℤ}
    (year : 1000 ≤ (localtime offset t).date.year ∧ (localtime offset t).date.year ≤ 9999) :
    (localtime offset t).InRange where
  year := year
  date := Date.ofDays_wellFormed _
  hour := ⟨Int.emod_nonneg _ (by decide), Int.emod_lt_of_pos _ (by decide)⟩
  min := ⟨Int.emod_nonneg _ (by decide), Int.emod_lt_of_pos _ (by decide)⟩
  sec := ⟨Int.emod_nonneg _ (by decide), Int.emod_lt_of_pos _ (by decide)⟩

/-- The fields of a local time are those of its seconds. -/
theorem seconds_localtime (offset : ℤ → ℤ) (t : ℤ) (zone : Option ℤ) :
    (Fields.mk (localtime offset t).date.year (localtime offset t).date.month
      (localtime offset t).date.day (localtime offset t).tm_hour (localtime offset t).tm_min
      (localtime offset t).tm_sec zone).seconds = t + offset t := by
  unfold localtime Fields.seconds
  dsimp only
  have month := (Date.ofDays_wellFormed ((t + offset t) / 86400 + epoch)).month
  have days := Date.toDays_ofDays ((t + offset t) / 86400 + epoch)
  generalize Date.ofDays ((t + offset t) / 86400 + epoch) = date at month days
  have year : (12 * date.year + date.month - 1) / 12 = date.year := by omega
  have ofYear : (12 * date.year + date.month - 1) % 12 + 1 = date.month := by omega
  rw [year, ofYear, days]
  omega

/-- What the page makes of the text. -/
theorem parse_put_time (resolve offset : ℤ → ℤ) {t : ℤ}
    (year : 1000 ≤ (localtime offset t).date.year ∧ (localtime offset t).date.year ≤ 9999) :
    parse resolve (put_time (localtime offset t)) = some (resolve (t + offset t)) := by
  rw [parse, fullMatch_put_time (localtime_inRange year), Option.map_some]
  dsimp only
  rw [seconds_localtime]

/-! ## The labels -/

/-- **The labels show the clock of the server.**  For every zone of the server and of the
page, every moment with a year of four digits that the page's zone has a moment for, and
every mounted window: the message that announces an image made at `t` is understood, and
when its fetch completes the labels are the local time of the server at `t`, less four
hours, and ten seconds more; but for what the page's zone has shifted since then. -/
theorem labels_of_announcement {α : Type u} (offset pageOffset resolve : ℤ → ℤ) (t moment : ℤ)
    (year : 1000 ≤ (localtime offset t).date.year ∧ (localtime offset t).date.year ≤ 9999)
    (localTime : moment + pageOffset moment = t + offset t)
    (resolves : resolve (t + offset t) = moment) (sample_json : Json) (i : Fin 10)
    (w : WindowState α) (mounted : w.mounted = true) (image : α) :
    ∃ data : ImageData,
      mySocketListenFunction (parse resolve) (CloudServer.Announcements.announce
        (fun t => put_time (localtime offset t)) sample_json i t) = some data ∧
      data.item1 = toString (i : ℕ) ++ ".jpg" ∧
      labels pageOffset (w.imageFetched data image) = some
        (clock (t + offset t - 14390 + (pageOffset (moment - 14390) - pageOffset moment)) ++ " EST",
          clock (t + offset t - 14400 + (pageOffset (moment - 14400) - pageOffset moment)) ++
            " EST") := by
  refine ⟨⟨toString (i : ℕ) ++ ".jpg", moment⟩, ?_, rfl, ?_⟩
  · have read := parse_put_time resolve offset year
    rw [resolves] at read
    rw [CloudServer.Capture.announce_eq]
    generalize parse resolve = parsed at read ⊢
    generalize put_time (localtime offset t) = imageTime at read ⊢
    change (parsed imageTime).map _ = _
    rw [read]
    rfl
  · have later : ∀ h, getFormatTime pageOffset (moment - h) =
        clock (t + offset t - h + (pageOffset (moment - h) - pageOffset moment)) := fun h =>
      congrArg clock (by omega)
    have hours : duration 4 0 0 = 14400 := by decide
    have seconds : duration 3 59 50 = 14390 := by decide
    rw [WindowState.imageFetched, if_pos mounted, hours, seconds, ← later, ← later]
    unfold labels
    dsimp only

/-- A quarter past midnight of the first of March 2024 on the server, for a page five hours
behind it. -/
theorem labels_of_announcement_leapDay :
    ∃ data : ImageData,
      mySocketListenFunction (parse fun l => l + 18000) (CloudServer.Announcements.announce
        (fun t => put_time (localtime (fun _ => 0) t)) .null 3 1709252100) = some data ∧
      labels (fun _ => -18000) (WindowState.imageFetched .initState data ()) =
        some ("20:15:10 EST", "20:15:00 EST") := by
  obtain ⟨data, understood, -, shown⟩ := labels_of_announcement (fun _ => 0) (fun _ => -18000)
    (fun l => l + 18000) 1709252100 1709270100 (by decide) (by decide) (by decide) .null 3
    (WindowState.initState) rfl ()
  refine ⟨data, understood, shown.trans ?_⟩
  decide

end SpectrogramServers.FlutterSite.TimeLabel
