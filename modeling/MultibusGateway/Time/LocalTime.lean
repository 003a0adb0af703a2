import Mathlib.Data.Nat.Notation

/-! Civil local time: the time zone and daylight-saving settings, and the conversion
of unix time to the local date and minute. Divisions of signed numbers truncate
towards zero as in C. -/

namespace Time

structure DstTransition where
  month : UInt8 := 0
  week : UInt8 := 0
  weekday : UInt8 := 0
  minuteOfDay : UInt16 := 0
  deriving DecidableEq

structure DstSettings where
  enabled : Bool := false
  biasMinutes : UInt8 := 0
  start : DstTransition := {}
  finish : DstTransition := {}
  deriving DecidableEq

structure Settings where
  utcOffsetMinutes : Int16 := 0
  dst : DstSettings := {}
  deriving DecidableEq

def validUtcOffsetMinutes (minutes : Int16) : Bool := minutes ≥ -720 && minutes ≤ 840

def validDstTransition (transition : DstTransition) : Bool :=
  transition.month ≥ 1 && transition.month ≤ 12 &&
    transition.week ≥ 1 && transition.week ≤ 5 &&
    transition.weekday ≥ 1 && transition.weekday ≤ 7 &&
    transition.minuteOfDay ≤ 1439

def validDstSettings (settings : DstSettings) : Bool :=
  if !settings.enabled then settings.biasMinutes ≤ 120
  else settings.biasMinutes ≥ 1 && settings.biasMinutes ≤ 120 &&
    validDstTransition settings.start && validDstTransition settings.finish

structure LocalDateTime where
  year : Int := 1970
  month : UInt8 := 1
  day : UInt8 := 1
  /-- ISO: Monday is 1, Sunday is 7. -/
  weekday : UInt8 := 4
  hour : UInt8 := 0
  minute : UInt8 := 0
  deriving DecidableEq

def daysFromCivil (year : Int) (month day : Nat) : Int :=
  let year := if month ≤ 2 then year - 1 else year
  let era := (if year ≥ 0 then year else year - 399).tdiv 400
  let yoe := (year - era * 400).toNat
  let doy := (153 * (if month > 2 then month - 3 else month + 9) + 2) / 5 + day - 1
  let doe := yoe * 365 + yoe / 4 - yoe / 100 + doy
  era * 146097 + doe - 719468

def leapYear (year : Int) : Bool :=
  (year.tmod 4 == 0 && year.tmod 100 != 0) || year.tmod 400 == 0

def kDays : List UInt8 := [31, 28, 31, 30, 31, 30, 31, 31, 30, 31, 30, 31]

def daysInMonth (year : Int) (month : UInt8) : UInt8 :=
  if month == 2 && leapYear year then 29
  else if month ≥ 1 && month ≤ 12 then kDays.getD (month - 1).toNat 0
  else 0

def isoWeekday (year : Int) (month day : UInt8) : UInt8 :=
  let days := daysFromCivil year month.toNat day.toNat
  let value := (days + 3).tmod 7
  let value := if value < 0 then value + 7 else value
  UInt8.ofNat (value + 1).toNat

/-- Day of the month of a transition; zero when there is none. -/
def transitionDayOfMonth (year : Int) (transition : DstTransition) : UInt8 :=
  let dim := daysInMonth year transition.month
  if dim == 0 || !validDstTransition transition then 0
  else if transition.week < 5 then
    let firstWeekday := isoWeekday year transition.month 1
    let delta := ((7 + transition.weekday.toNat : Int) - firstWeekday.toNat).tmod 7
    let day := 1 + delta + ((transition.week.toNat : Int) - 1) * 7
    if day ≤ dim.toNat then UInt8.ofNat day.toNat else 0
  else
    let lastWeekday := isoWeekday year transition.month dim
    let delta := ((7 + lastWeekday.toNat : Int) - transition.weekday.toNat).tmod 7
    UInt8.ofNat ((dim.toNat : Int) - delta).toNat

/-- Wall-clock second of a transition; `none` stands for `INT64_MIN`. -/
def localSecondsForTransition (year : Int) (transition : DstTransition) : Option Int :=
  let day := transitionDayOfMonth year transition
  if day == 0 then none
  else some (daysFromCivil year transition.month.toNat day.toNat * 86400 +
    transition.minuteOfDay.toNat * 60)

def dateTimeFromEpoch (seconds : Int) : LocalDateTime :=
  let days := seconds.tdiv 86400
  let sod := seconds.tmod 86400
  let (days, sod) := if sod < 0 then (days - 1, sod + 86400) else (days, sod)
  let z := days + 719468
  let era := (if z ≥ 0 then z else z - 146096).tdiv 146097
  let doe := (z - era * 146097).toNat
  let yoe := (doe - doe / 1460 + doe / 36524 - doe / 146096) / 365
  let doy := doe - (365 * yoe + yoe / 4 - yoe / 100)
  let mp := (5 * doy + 2) / 153
  let day := doy - (153 * mp + 2) / 5 + 1
  let month := if mp < 10 then mp + 3 else mp - 9
  let year := (yoe : Int) + era * 400 + (if month ≤ 2 then 1 else 0)
  { year := year
    month := UInt8.ofNat month
    day := UInt8.ofNat day
    weekday := isoWeekday year (UInt8.ofNat month) (UInt8.ofNat day)
    hour := UInt8.ofNat (sod.tdiv 3600).toNat
    minute := UInt8.ofNat ((sod.tmod 3600).tdiv 60).toNat }

def dstActiveForStandardLocalSeconds (standardLocalSeconds : Int) (settings : Settings) : Bool :=
  if !settings.dst.enabled || !validDstSettings settings.dst then false
  else
    let standard := dateTimeFromEpoch standardLocalSeconds
    match localSecondsForTransition standard.year settings.dst.start,
        localSecondsForTransition standard.year settings.dst.finish with
    | some start, some finish =>
      -- the end transition is given in daylight wall time
      let finish := finish - settings.dst.biasMinutes.toNat * 60
      if start < finish then
        decide (standardLocalSeconds ≥ start) && decide (standardLocalSeconds < finish)
      else decide (standardLocalSeconds ≥ start) || decide (standardLocalSeconds < finish)
    | _, _ => false

def localDateTime (unixSeconds : UInt32) (settings : Settings) : LocalDateTime :=
  let localSeconds := (unixSeconds.toNat : Int) + settings.utcOffsetMinutes.toInt * 60
  if dstActiveForStandardLocalSeconds localSeconds settings then
    dateTimeFromEpoch (localSeconds + settings.dst.biasMinutes.toNat * 60)
  else dateTimeFromEpoch localSeconds

end Time
