import LibcdioRs.Shared.Target
import LibcdioRs.Shared.Calendar

/-!
# Local time

`convert_tm_local`, which gives a broken-down local time its offset. The offset
is a function of the instant; the code looks it up at the instant that the
local time would be if it were UTC.
-/

namespace LibcdioRs

open Rust Calendar
set_option autoImplicit false

/-- The fields of `struct tm` that are read. -/
structure Tm where
  tmSec : Int32
  tmMin : Int32
  tmHour : Int32
  tmYear : Int32
  tmYday : Int32

/-- `tm` shows the calendar fields of the second `l`. -/
def Tm.Shows (tm : Tm) (l : Int) : Prop :=
  Fields l (tm.tmYear.toInt + 1900) tm.tmYday.toInt tm.tmHour.toInt tm.tmMin.toInt tm.tmSec.toInt

def YearInRange (year : Int) : Prop := -9999 ≤ year ∧ year ≤ 9999

instance (year : Int) : Decidable (YearInRange year) := by
  unfold YearInRange
  infer_instance

section Shows

theorem toInt_ofInt_eq {n : Int} (h0 : -20000 ≤ n) (h1 : n ≤ 20000) :
    (Int32.ofInt n).toInt = n :=
  Int32.toInt_ofInt_of_le (by simp; omega) (by simp; omega)

theorem Tm.shows_inj {tm tm' : Tm} {l : Int} (h : tm.Shows l) (h' : tm'.Shows l) : tm = tm' := by
  obtain ⟨hyear, hyday, hhour, hminute, hsecond⟩ := h.unique h'
  cases tm
  cases tm'
  simp only [Tm.mk.injEq]
  exact ⟨Int32.toInt_inj.mp hsecond, Int32.toInt_inj.mp hminute, Int32.toInt_inj.mp hhour,
    Int32.toInt_inj.mp (by simpa using hyear), Int32.toInt_inj.mp hyday⟩

theorem Tm.exists_shows {l : Int} (hlo : daysBeforeYear (-9999) ≤ l / 86400)
    (hhi : l / 86400 < daysBeforeYear 10000) :
    ∃ tm : Tm, tm.Shows l ∧ YearInRange (tm.tmYear.toInt + 1900) := by
  obtain ⟨year, yday, hour, minute, second, h⟩ := exists_fields l
  have hday := h.day
  have hyday := h.yday_range
  have hlast : -9999 < year + 1 := by
    apply daysBeforeYear_strictMono.lt_iff_lt.mp
    rw [daysBeforeYear_succ]
    omega
  have hfirst : year < 10000 := daysBeforeYear_strictMono.lt_iff_lt.mp (by omega)
  have hdays := daysInYear_le year
  have hhour := h.hour_range
  have hminute := h.minute_range
  have hsecond := h.second_range
  refine ⟨⟨.ofInt second, .ofInt minute, .ofInt hour, .ofInt (year - 1900), .ofInt yday⟩, ?_, ?_⟩
  · simp only [Tm.Shows]
    rw [toInt_ofInt_eq (by omega) (by omega), toInt_ofInt_eq (by omega) (by omega),
      toInt_ofInt_eq (by omega) (by omega), toInt_ofInt_eq (by omega) (by omega),
      toInt_ofInt_eq (by omega) (by omega), Int.sub_add_cancel]
    exact h
  · rw [toInt_ofInt_eq (by omega) (by omega)]
    unfold YearInRange
    omega

end Shows

/-- What the code uses of the `time` crate. -/
structure TimeCrate where
  Date : Type
  Time : Type
  UtcOffset : Type
  OffsetDateTime : Type
  ComponentRange : Type
  IndeterminateOffset : Type
  fromOrdinalDate : Int32 → UInt16 → Except ComponentRange Date
  year : Date → Int32
  ordinal : Date → UInt16
  fromHms : UInt8 → UInt8 → UInt8 → Except ComponentRange Time
  asHms : Time → UInt8 × UInt8 × UInt8
  wholeSeconds : UtcOffset → Int
  localOffsetAt : OffsetDateTime → Except IndeterminateOffset UtcOffset
  newUtc : Date → Time → OffsetDateTime
  newInOffset : Date → Time → UtcOffset → OffsetDateTime
  unixTimestamp : OffsetDateTime → Int

/-- The second that a date and a time of day show. -/
def shownSecond (year : Int32) (ordinal : UInt16) (hms : UInt8 × UInt8 × UInt8) : Int :=
  secondNumber (dayNumber year.toInt ordinal.toNat) hms.1.toNat hms.2.1.toNat hms.2.2.toNat

namespace TimeCrate

def reading (C : TimeCrate) (date : C.Date) (time : C.Time) : Int :=
  shownSecond (C.year date) (C.ordinal date) (C.asHms time)

/-- What the documentation of the crate says, on a host whose offset from UTC is `off`. -/
structure AsDocumented (C : TimeCrate) (off : Int → Int) : Prop where
  fromOrdinalDate : ∀ year ordinal, YearInRange year.toInt → 1 ≤ ordinal.toNat →
    (ordinal.toNat : Int) ≤ daysInYear year.toInt →
    ∃ date, C.fromOrdinalDate year ordinal = .ok date ∧ C.year date = year ∧
      C.ordinal date = ordinal
  fromHms : ∀ hour minute second : UInt8, hour.toNat < 24 → minute.toNat < 60 →
    second.toNat < 60 →
    ∃ time, C.fromHms hour minute second = .ok time ∧ C.asHms time = (hour, minute, second)
  newUtc : ∀ date time, C.unixTimestamp (C.newUtc date time) = C.reading date time
  newInOffset : ∀ date time offset, C.unixTimestamp (C.newInOffset date time offset) =
    C.reading date time - C.wholeSeconds offset
  localOffsetAt : ∀ u, ∃ offset, C.localOffsetAt u = .ok offset ∧
    C.wholeSeconds offset = off (C.unixTimestamp u)

end TimeCrate

section Plain

/-- Dates and times as they are given, an instant as its time stamp. -/
def TimeCrate.plain (off : Int → Int) : TimeCrate where
  Date := Int32 × UInt16
  Time := UInt8 × UInt8 × UInt8
  UtcOffset := Int
  OffsetDateTime := Int
  ComponentRange := Unit
  IndeterminateOffset := Unit
  fromOrdinalDate year ordinal :=
    if YearInRange year.toInt ∧ 1 ≤ ordinal.toNat ∧ (ordinal.toNat : Int) ≤ daysInYear year.toInt
    then .ok (year, ordinal) else .error ()
  year := Prod.fst
  ordinal := Prod.snd
  fromHms hour minute second :=
    if hour.toNat < 24 ∧ minute.toNat < 60 ∧ second.toNat < 60 then .ok (hour, minute, second)
    else .error ()
  asHms := id
  wholeSeconds := id
  localOffsetAt u := .ok (off u)
  newUtc date time := shownSecond date.1 date.2 time
  newInOffset date time offset := shownSecond date.1 date.2 time - offset
  unixTimestamp := id

theorem TimeCrate.plain_asDocumented (off : Int → Int) :
    (TimeCrate.plain off).AsDocumented off where
  fromOrdinalDate year ordinal hyear hlo hhi :=
    ⟨(year, ordinal), if_pos ⟨hyear, hlo, hhi⟩, rfl, rfl⟩
  fromHms hour minute second hhour hminute hsecond :=
    ⟨(hour, minute, second), if_pos ⟨hhour, hminute, hsecond⟩, rfl⟩
  newUtc _ _ := rfl
  newInOffset _ _ _ := rfl
  localOffsetAt u := ⟨off u, rfl, rfl⟩

end Plain

/-- The errors that end up in the `Box<dyn Error>`. -/
inductive ConvertError (C : TimeCrate) where
  | tryFromInt
  | componentRange (error : C.ComponentRange)
  | indeterminateOffset (error : C.IndeterminateOffset)

section Convert
variable (T : Target) (C : TimeCrate)

def tryFromInt {α : Type} (n : Option α) : Except (ConvertError C) α :=
  match n with
  | some a => .ok a
  | none => .error .tryFromInt

def convertTmLocal (tm : Tm) : Act Unit (ConvertError C) C.OffsetDateTime := do
  let year ← Act.lift (T.addI32 tm.tmYear 1900)
  let yday ← Act.ofExcept (tryFromInt C (tryU16 tm.tmYday))
  let ordinal ← Act.lift (T.addU16 yday 1)
  let date ← Act.ofExcept ((C.fromOrdinalDate year ordinal).mapError .componentRange)
  let hour ← Act.ofExcept (tryFromInt C (tryU8 tm.tmHour))
  let minute ← Act.ofExcept (tryFromInt C (tryU8 tm.tmMin))
  let second ← Act.ofExcept (tryFromInt C (tryU8 tm.tmSec))
  let time ← Act.ofExcept ((C.fromHms hour minute second).mapError .componentRange)
  let offset ← Act.ofExcept
    ((C.localOffsetAt (C.newUtc date time)).mapError .indeterminateOffset)
  return C.newInOffset date time offset

variable {T C}

/-- The result stands for the local reading less the offset found at that reading. -/
theorem convertTmLocal_shows {off : Int → Int} (hC : C.AsDocumented off) {tm : Tm} {l : Int}
    (htm : tm.Shows l) (hyear : YearInRange (tm.tmYear.toInt + 1900)) :
    ∃ dt, convertTmLocal T C tm () = .ret (.ok dt, ()) ∧ C.unixTimestamp dt = l - off l := by
  obtain ⟨hyday, hhour, hminute, hsecond, hl⟩ := htm
  have hdays := daysInYear_le (tm.tmYear.toInt + 1900)
  have hsum : (tm.tmYear + 1900).toInt = tm.tmYear.toInt + 1900 := by
    unfold YearInRange at hyear
    rw [Int32.toInt_add]
    exact Int.bmod_eq_of_le (by simp; omega) (by simp; omega)
  obtain ⟨yday, hyd, hydn⟩ := tryU16_eq hyday.1 (by omega)
  obtain ⟨hour, hh, hhn⟩ := tryU8_eq hhour.1 (by omega)
  obtain ⟨minute, hm, hmn⟩ := tryU8_eq hminute.1 (by omega)
  obtain ⟨second, hs, hsn⟩ := tryU8_eq hsecond.1 (by omega)
  have hord : (yday + 1).toNat = yday.toNat + 1 := by
    rw [UInt16.toNat_add]
    exact Nat.mod_eq_of_lt (by change yday.toNat + 1 < 2 ^ 16; omega)
  obtain ⟨date, hdate, hdy, hdo⟩ := hC.fromOrdinalDate (tm.tmYear + 1900) (yday + 1)
    (hsum ▸ hyear) (by omega) (by rw [hsum, hord]; push_cast; omega)
  obtain ⟨time, htime, hhms⟩ := hC.fromHms hour minute second (by omega) (by omega) (by omega)
  obtain ⟨offset, hoffset, hoff⟩ := hC.localOffsetAt (C.newUtc date time)
  have hreading : C.reading date time = l := by
    rw [TimeCrate.reading, hdy, hdo, hhms, shownSecond, hsum, hord, hhn, hmn, hsn]
    push_cast
    rw [hydn]
    exact hl
  refine ⟨C.newInOffset date time offset, ?_, ?_⟩
  · simp only [convertTmLocal, T.addI32_eq (fun _ => hsum), Act.lift_ret_bind_apply, hyd,
      tryFromInt, Act.ofExcept_ok_bind_apply,
      T.addU16_eq (show yday.toNat + (1 : UInt16).toNat < 2 ^ 16 by change yday.toNat + 1 < _; omega),
      hdate, Except.mapError, hh, hm, hs, htime, hoffset, Act.pure_apply]
  · rw [hC.newInOffset, hoff, hC.newUtc, hreading]

end Convert

/-- The instant comes back exactly when the offset is the same at the local reading, taken as
an instant, as at the instant itself. -/
theorem convertTmLocal_exact_iff (T : Target) (C : TimeCrate) (off : Int → Int)
    (hC : C.AsDocumented off) (t : Int) (tm : Tm) (htm : tm.Shows (t + off t))
    (hyear : YearInRange (tm.tmYear.toInt + 1900)) :
    (∃ dt, convertTmLocal T C tm () = .ret (.ok dt, ()) ∧ C.unixTimestamp dt = t) ↔
      off (t + off t) = off t := by
  obtain ⟨dt, h, hdt⟩ := convertTmLocal_shows (T := T) hC htm hyear
  rw [h]
  constructor
  · intro hexact
    rcases hexact with ⟨dt', heq, hdt'⟩
    cases heq
    omega
  · intro hoff
    exact ⟨dt, rfl, by omega⟩

section Callers
variable (T : Target) (C : TimeCrate)

structure IsoInvalidEntryError where
  name : String
  source : ConvertError C

/-- `IsoEntry::timestamp` of an entry whose `filename()` is `filename`. -/
def timestamp {ε : Type} (filename : Except ε String) (tm : Tm) :
    Act Unit (IsoInvalidEntryError C) C.OffsetDateTime :=
  (convertTmLocal T C tm).mapError fun err => ⟨filename.toOption.getD "", err⟩

/-- `iso_rock_time_s`; `τ` is its union of a long and a short date. -/
structure IsoRockTime (τ : Type) where
  bUsed : Bool
  bLongdate : Bool
  t : τ

variable {τ : Type} (getLtime getDtime : τ → Tm)

/-- What the functions of libcdio make of the date in a field. -/
def IsoRockTime.tm (field : IsoRockTime τ) : Tm :=
  if field.bLongdate then getLtime field.t else getDtime field.t

def convertRockTimefield (field : IsoRockTime τ) : Exec (Option C.OffsetDateTime) :=
  if !field.bUsed then .ret none
  else convertTmLocal T C (field.tm getLtime getDtime) () >>= fun r => .ret r.1.toOption

variable {T C} {getLtime getDtime}

/-- A file time and a Rock Ridge time that show one reading are off by the same amount. -/
theorem callers_show {off : Int → Int} (hC : C.AsDocumented off) {l : Int} {ε : Type}
    (filename : Except ε String) {tm : Tm} (htm : tm.Shows l)
    (hyear : YearInRange (tm.tmYear.toInt + 1900)) {field : IsoRockTime τ}
    (hused : field.bUsed = true) (hfield : field.tm getLtime getDtime = tm) :
    ∃ dt, timestamp T C filename tm () = .ret (.ok dt, ()) ∧
      convertRockTimefield T C getLtime getDtime field = .ret (some dt) ∧
      C.unixTimestamp dt = l - off l := by
  obtain ⟨dt, h, hdt⟩ := convertTmLocal_shows (T := T) hC htm hyear
  refine ⟨dt, Act.mapError_ok h, ?_, hdt⟩
  rw [convertRockTimefield, hused, hfield, h]
  rfl

end Callers

/-- No other instant has the local reading of `t`. -/
def Unambiguous (off : Int → Int) (t : Int) : Prop := ∀ t', t' + off t' = t + off t → t' = t

section Concrete

/-- Central Europe around the 28th of March 2021: at one o'clock UTC the clock goes from two to
three. -/
def springForward (u : Int) : Int := if u < 1616893200 then 3600 else 7200

def newYearsDayAtOne : Tm where
  tmSec := 0
  tmMin := 0
  tmHour := 13
  tmYear := 121
  tmYday := 0

/-- The second before the change. -/
def oneFiftyNine : Tm where
  tmSec := 59
  tmMin := 59
  tmHour := 1
  tmYear := 121
  tmYday := 86

theorem convertTmLocal_newYearsDay :
    ∃ dt, convertTmLocal ⟨.w64, .w64, true⟩ (.plain springForward) newYearsDayAtOne () =
        .ret (.ok dt, ()) ∧
      (TimeCrate.plain springForward).unixTimestamp dt = 1609502400 :=
  (convertTmLocal_exact_iff ⟨.w64, .w64, true⟩ (.plain springForward) springForward
    (TimeCrate.plain_asDocumented springForward) 1609502400 newYearsDayAtOne
    ⟨by decide, by decide, by decide, by decide, by decide⟩ (by decide)).mpr (by decide)

theorem convertTmLocal_hour_early :
    (TimeCrate.plain springForward).AsDocumented springForward ∧
      Unambiguous springForward 1616893199 ∧
      oneFiftyNine.Shows (1616893199 + springForward 1616893199) ∧
      ∃ dt, convertTmLocal ⟨.w64, .w64, true⟩ (.plain springForward) oneFiftyNine () =
          .ret (.ok dt, ()) ∧
        (TimeCrate.plain springForward).unixTimestamp dt = 1616893199 - 3600 := by
  have hshows : oneFiftyNine.Shows (1616893199 + springForward 1616893199) :=
    ⟨by decide, by decide, by decide, by decide, by decide⟩
  refine ⟨TimeCrate.plain_asDocumented springForward, ?_, hshows, ?_⟩
  · intro t' h
    unfold springForward at h
    split at h <;> simp at h <;> omega
  · obtain ⟨dt, h, hdt⟩ := convertTmLocal_shows (T := ⟨.w64, .w64, true⟩)
      (TimeCrate.plain_asDocumented springForward) hshows (by decide)
    exact ⟨dt, h, hdt.trans (by decide)⟩

end Concrete

end LibcdioRs
