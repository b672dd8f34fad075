import RepairConsole.Proofs.Calendar.Stamp
import RepairConsole.Proofs.Window.Resolution
import RepairConsole.Report.Cell
/-!
# Shown times as starts

A time from a report is taken as the start of a window once `Z` is put after it. What is lost is
the part of it below a second.
-/

namespace RepairConsole.Window

open Calendar (Moment lastMillis)

theorem readSince_of_chars {raw : String} {stamp : Calendar.Rfc3339.Stamp} (h : stamp.Valid)
    (hraw : raw.toList = stamp.chars) : readSince raw = .ok stamp.moment := by
  refine readSince_eq_ok_iff.2 (Or.inr ⟨stamp, h, ?_, rfl⟩)
  rw [Calendar.trim_of_chars h hraw, hraw]

theorem time_of_shown {ms : Int} (h : 0 < ms ∧ ms ≤ lastMillis) :
    Report.time ms = Calendar.stampOfSeconds (ms.toNat / 1000) := by
  rw [Report.time, Calendar.stamp?, if_pos h, Option.getD_some]

theorem time_of_not_shown {ms : Int} (h : ¬ (0 < ms ∧ ms ≤ lastMillis)) :
    Report.time ms = "-" := by
  rw [Report.time, Calendar.stamp?, if_neg h]
  rfl

theorem readSince_time {ms : Int} (h : 0 < ms ∧ ms ≤ lastMillis) :
    readSince (Report.time ms ++ "Z") = .ok ⟨ms / 1000 * 1000000000, 0⟩ := by
  have hle : ms.toNat / 1000 ≤ lastMillis / 1000 := Nat.div_le_div_right (by omega)
  obtain ⟨stamp, hvalid, hchars, hmoment⟩ := Calendar.exists_stamp hle
  have hseconds : ((ms.toNat / 1000 : Nat) : Int) = ms / 1000 := by omega
  rw [time_of_shown h, readSince_of_chars hvalid hchars, hmoment, hseconds]

theorem readSince_dash {raw : String} (h : raw ∈ ["-", "-Z"]) :
    readSince raw = .error (.badSince raw) := by
  simp only [List.mem_cons, List.not_mem_nil, or_false] at h
  rcases h with rfl | rfl <;> rfl

theorem shown_time_read_back (ms : Int) (duration : Option String) (now : Moment) :
    (0 < ms ∧ ms ≤ lastMillis → (∀ fault, ¬ Refused duration Duration.parse fault) →
      ∃ w, resolve (some (Report.time ms ++ "Z")) duration now = .ok w ∧
        w.start = some ⟨ms / 1000 * 1000000000, 0⟩) ∧
    (¬ (0 < ms ∧ ms ≤ lastMillis) → Report.time ms = "-" ∧
      ∀ zone ∈ ["", "Z"], ∃ fault, resolve (some (Report.time ms ++ zone)) duration now =
          .error fault ∧ fault.failure.kind = .invalidArgument ∧
        ((∀ fault, ¬ Refused duration Duration.parse fault) →
          fault = .badSince (Report.time ms ++ zone))) := by
  constructor
  · intro h hpassed
    have hne : Report.time ms ++ "Z" ≠ "" := by simp
    exact exists_window_of_readSince now hne (readSince_time h) hpassed
  · intro h
    refine ⟨time_of_not_shown h, fun zone hzone => ?_⟩
    rw [time_of_not_shown h]
    have hdash : "-" ++ zone ∈ ["-", "-Z"] := by
      simp only [List.mem_cons, List.not_mem_nil, or_false] at hzone
      rcases hzone with rfl | rfl <;> decide
    exact exists_fault_of_readSince duration now (by simp) (readSince_dash hdash)

/-- The last second of a leap day, the last millisecond of all, and the one after it. -/
theorem shown_time_read_back_ends :
    (∃ w, resolve (some "2000-02-29 23:59:59Z") none ⟨0, 0⟩ = .ok w ∧
      w.start = some ⟨951868799000000000, 0⟩) ∧
    (∃ w, resolve (some "9999-12-31 23:59:59Z") (some "1d") ⟨0, 0⟩ = .ok w ∧
      w.start = some ⟨253402300799000000000, 0⟩) ∧
    ∃ fault, resolve (some "-") none ⟨0, 0⟩ = .error fault ∧
      fault.failure.kind = .invalidArgument := by
  refine ⟨?_, ?_, ?_⟩
  · exact (shown_time_read_back 951868799999 none ⟨0, 0⟩).1 ⟨by decide, by decide⟩
      fun fault ⟨raw, hraw, _⟩ => nomatch hraw.1
  · refine (shown_time_read_back lastMillis (some "1d") ⟨0, 0⟩).1 ⟨by decide, by decide⟩ ?_
    rintro fault ⟨raw, ⟨hraw, -⟩, hrefused⟩
    obtain rfl := Option.some.inj hraw
    cases hrefused
  · obtain ⟨hdash, hrefused⟩ :=
      (shown_time_read_back (lastMillis + 1) none ⟨0, 0⟩).2 (by decide)
    obtain ⟨fault, hfault, hkind, -⟩ := hrefused "" (by decide)
    rw [hdash] at hfault
    exact ⟨fault, hfault, hkind⟩

end RepairConsole.Window
