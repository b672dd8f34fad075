import RepairConsole.Proofs.Window.ShownTime
/-!
# Two notations of one instant

A millisecond of epoch time can be written as a number, or as the clocks of an offset show it. The
window starts at the same instant either way, wherever the clocks are.
-/

namespace RepairConsole.Window

open Calendar (LocalTime Moment epochDay lastMillis millisDigits)
open Calendar.Rfc3339 (Zone)

/-- At this millisecond of epoch time the clocks that are so many minutes ahead of UTC show this
second, and so many milliseconds of it are over. -/
structure ShownAt (ms : Nat) (offset : Int) (t : LocalTime) (millis : Nat) : Prop where
  valid : t.Valid
  below : millis < 1000
  same : (t.seconds * 1000 + millis : Int) = epochDay * 86400000 + ms + offset * 60000

/-- The local time is there and is the only one, whichever side of midnight the offset is on. -/
theorem existsUnique_shownAt (ms : Nat) {offset : Int} (h : offset.natAbs < 1440) :
    ∃! shown : LocalTime × Nat, ShownAt ms offset shown.1 shown.2 := by
  -- Counted from the start of the year 0, no local time of an epoch millisecond is negative.
  obtain ⟨total, htotal⟩ : ∃ total : Nat,
      (total : Int) = epochDay * 86400000 + ms + offset * 60000 := by
    refine ⟨(epochDay * 86400000 + ms + offset * 60000 : Int).toNat, ?_⟩
    unfold epochDay
    omega
  obtain ⟨t, hvalid, hseconds⟩ := LocalTime.exists_seconds (total / 1000)
  refine ⟨(t, total % 1000), ⟨hvalid, Nat.mod_lt _ (by decide), by dsimp only; omega⟩, ?_⟩
  rintro ⟨t', millis⟩ ⟨hvalid', hmillis, hsame⟩
  dsimp only at hmillis hsame
  have hseconds' : t'.seconds = t.seconds := by omega
  obtain rfl := LocalTime.seconds_inj hvalid' hvalid hseconds'
  have hsecond : millis = total % 1000 := by omega
  rw [hsecond]

/-- A local time in RFC 3339: its milliseconds with so many zeros after them, and the offset. -/
def written (t : LocalTime) (separator : Char) (millis zeros : Nat) (zone : Zone) : String :=
  String.ofList (t.stamp separator (millisDigits millis zeros) zone).chars

theorem readSince_written {ms millis : Nat} {offset : Int} {t : LocalTime} {separator : Char}
    {zone : Zone} (hshown : ShownAt ms offset t millis) (hyear : t.date.year ≤ 9999)
    (hseparator : separator.toNat < 128) (hzone : zone.Valid)
    (hoffset : zone.seconds = offset * 60) (zeros : Nat) :
    readSince (written t separator millis zeros zone) = .ok ⟨ms * 1000000, zone.seconds⟩ := by
  obtain ⟨hvalid, hmillis, hsame⟩ := hshown
  have hdigits : ∀ c ∈ millisDigits millis zeros, c.isDigit = true := fun _ =>
    Calendar.isDigit_of_mem_millisDigits
  have hstamp := LocalTime.valid_stamp hvalid (Nat.lt_succ_of_le hyear) hseparator hdigits hzone
  rw [written, readSince_of_chars hstamp String.toList_ofList, LocalTime.moment_stamp hvalid,
    Calendar.fractionNanos_millisDigits hmillis]
  congr 2
  omega

theorem readSince_repr {ms : Nat} (h : ms ≤ lastMillis) :
    readSince (Nat.repr ms) = .ok ⟨ms * 1000000, 0⟩ := by
  have hread := @readSince_of_digits (Nat.repr ms)
  rw [Text.trim_repr, Text.digitsValue_repr, if_pos h] at hread
  exact hread (Text.allDigits_repr ms)

/-- The instant that a window with this start begins at, in nanoseconds of epoch time. -/
def startNanos (raw : String) (duration : Option String) (now : Moment) :
    Except Fault (Option Int) :=
  (resolve (some raw) duration now).map fun w => w.start.map Moment.nanos

/-- Nothing of the text is left in the instant but what was read off it. -/
theorem startNanos_of_readSince {raw : String} {m : Moment} (hraw : raw ≠ "")
    (hread : readSince raw = .ok m) (duration : Option String) (now : Moment) :
    startNanos raw duration now =
      ((given duration).mapM Duration.parse).map fun _ => some m.nanos := by
  have hgiven : given (some raw) = some raw := by
    rw [given, Option.filter_some, if_pos (by simpa using hraw)]
  have hstart : (some raw).mapM readSince = .ok (some m) := by
    rw [Option.mapM_some, hread]
    rfl
  unfold startNanos resolve
  rw [hgiven]
  dsimp only
  rw [if_neg (by simp), hstart]
  cases (given duration).mapM Duration.parse <;> rfl

theorem notations_agree {ms : Nat} {offset : Int} (hms : ms ≤ 253402300799999)
    (hoffset : -1439 ≤ offset ∧ offset ≤ 1439) :
    (∃! shown : LocalTime × Nat, ShownAt ms offset shown.1 shown.2) ∧
    (∃ zone : Zone, zone.Valid ∧ zone.seconds = offset * 60) ∧
    ∀ (t : LocalTime) (millis zeros : Nat) (separator : Char) (zone : Zone)
      (duration : Option String) (now : Moment),
      ShownAt ms offset t millis → t.date.year ≤ 9999 → separator.toNat < 128 → zone.Valid →
      zone.seconds = offset * 60 →
      startNanos (written t separator millis zeros zone) duration now =
        startNanos (Nat.repr ms) duration now ∧
      ((∀ fault, ¬ Refused duration Duration.parse fault) →
        startNanos (Nat.repr ms) duration now = .ok (some (ms * 1000000))) := by
  have hminutes : offset.natAbs < 1440 := by omega
  refine ⟨existsUnique_shownAt ms hminutes, ⟨Calendar.zoneOfMinutes offset,
    Calendar.valid_zoneOfMinutes hminutes, Calendar.seconds_zoneOfMinutes offset⟩, ?_⟩
  intro t millis zeros separator zone duration now hshown hyear hseparator hzone hseconds
  have hlocal := readSince_written hshown hyear hseparator hzone hseconds zeros
  have hnumber := readSince_repr hms
  have hne : Nat.repr ms ≠ "" := by
    intro hempty
    have hdigits := Text.allDigits_repr ms
    rw [hempty] at hdigits
    cases hdigits
  have hne' : written t separator millis zeros zone ≠ "" := by
    intro hempty
    rw [hempty] at hlocal
    cases hlocal
  rw [startNanos_of_readSince hne hnumber, startNanos_of_readSince hne' hlocal]
  refine ⟨rfl, fun hpassed => ?_⟩
  have hchecked := checked_mapM duration Duration.parse
  cases hresult : (given duration).mapM Duration.parse with
  | ok d => rfl
  | error fault =>
    rw [hresult] at hchecked
    cases hchecked with
    | refused refused => exact absurd refused (hpassed fault)

/-- Behind UTC an early hour of the first of March is still the leap day, and ahead of UTC the last
millisecond of a year is in the next one. -/
theorem notations_agree_across_days :
    startNanos "2000-02-29T23:30:00.1230-01:00" none ⟨0, 0⟩ = .ok (some 951870600123000000) ∧
    startNanos "2000-01-01t23:58:59.9990000000000+23:59" (some "1d") ⟨0, 0⟩ =
      startNanos "946684799999" (some "1d") ⟨0, 0⟩ := by
  constructor
  · obtain ⟨-, -, hagree⟩ := @notations_agree 951870600123 (-60) (by decide) (by decide)
    obtain ⟨hsame, hstart⟩ := hagree ⟨⟨2000, 2, 29⟩, 23, 30, 0⟩ 123 1 'T'
      (Calendar.zoneOfMinutes (-60)) none ⟨0, 0⟩ ⟨⟨by decide, by decide, by decide, by decide⟩,
        by decide, by decide⟩ (by decide) (by decide) (Calendar.valid_zoneOfMinutes (by decide))
      (Calendar.seconds_zoneOfMinutes _)
    exact hsame.trans (hstart fun fault ⟨raw, hraw, _⟩ => nomatch hraw.1)
  · obtain ⟨-, -, hagree⟩ := @notations_agree 946684799999 1439 (by decide) (by decide)
    exact (hagree ⟨⟨2000, 1, 1⟩, 23, 58, 59⟩ 999 10 't' (Calendar.zoneOfMinutes 1439) (some "1d")
      ⟨0, 0⟩ ⟨⟨by decide, by decide, by decide, by decide⟩, by decide, by decide⟩ (by decide)
      (by decide) (Calendar.valid_zoneOfMinutes (by decide)) (Calendar.seconds_zoneOfMinutes _)).1

end RepairConsole.Window
