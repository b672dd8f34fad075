import RepairConsole.Proofs.Output
/-!
# Outputs with little room

A text goes to an output in pieces, and an output too small for all of them refuses the first that
does not fit. What it holds by then is the front of the text, wherever the text was cut.
-/

namespace RepairConsole

/-- How the text of lines is cut into writes. -/
structure Cutting where
  pieces : List String → List ByteArray
  joined_pieces : ∀ lines, joined (pieces lines) = (textOf lines).toUTF8

/-- One write for each line. -/
def Cutting.byLines : Cutting := ⟨lineWrites, joined_lineWrites⟩

namespace Sink

variable {ρ δ : Type} {full : ρ} {room : Nat} {written bytes : ByteArray}

/-- What becomes of writing when the output has only so much room, beside what becomes of it when
there is no bound: the same if all of it fits, else a failure and the front of what was to come. -/
structure Curbed (full : ρ) (room : Nat) (free curbed : ρ × Sink) : Prop where
  fits : free.2.written.size ≤ room → curbed.1 = free.1 ∧ curbed.2.written = free.2.written
  overflows : room < free.2.written.size →
    curbed.1 = full ∧ curbed.2.written.size ≤ room ∧
      ∃ rest, free.2.written = curbed.2.written ++ rest

theorem Curbed.map (f : ρ → δ) {free curbed : ρ × Sink} (h : Curbed full room free curbed) :
    Curbed (f full) room (f free.1, free.2) (f curbed.1, curbed.2) where
  fits hfits := by
    obtain ⟨hresult, hwritten⟩ := h.fits hfits
    exact ⟨congrArg f hresult, hwritten⟩
  overflows hover := by
    obtain ⟨hresult, hfront⟩ := h.overflows hover
    exact ⟨congrArg f hresult, hfront⟩

theorem write_of_le (h : (written ++ bytes).size ≤ room) :
    write ⟨some room, written⟩ bytes = (.ok (), ⟨some room, written ++ bytes⟩) := if_pos h

theorem write_of_lt (h : room < (written ++ bytes).size) :
    write ⟨some room, written⟩ bytes = (.error .sinkFull, ⟨some room, written⟩) :=
  if_neg (Nat.not_le.2 h)

theorem curbed_writeAll (pieces : List ByteArray) (h : written.size ≤ room) :
    Curbed (.error .sinkFull) room (writeAll ⟨none, written⟩ pieces)
      (writeAll ⟨some room, written⟩ pieces) := by
  induction pieces generalizing written with
  | nil => exact ⟨fun _ => ⟨rfl, rfl⟩, fun hover => absurd h (Nat.not_le.2 hover)⟩
  | cons bytes rest ih =>
    by_cases hfits : (written ++ bytes).size ≤ room
    · have hstep : writeAll ⟨some room, written⟩ (bytes :: rest) =
          writeAll ⟨some room, written ++ bytes⟩ rest := by rw [writeAll, write_of_le hfits]
      rw [hstep]
      exact ih hfits
    · have hover : room < (written ++ bytes).size := Nat.not_le.1 hfits
      have hstop : writeAll ⟨some room, written⟩ (bytes :: rest) =
          (.error .sinkFull, ⟨some room, written⟩) := by rw [writeAll, write_of_lt hover]
      rw [hstop, writeAll_boundless, joined_cons, ← ByteArray.append_assoc]
      refine ⟨fun hall => ?_, fun _ => ⟨rfl, h, bytes ++ joined rest, ByteArray.append_assoc⟩⟩
      -- The piece alone is too much, so all of them are.
      rw [ByteArray.size_append] at hall
      omega

/-- Without a bound it does not matter where a text is cut. -/
theorem writeAll_cutting (cutting : Cutting) (lines : List String) :
    (empty none).writeAll (cutting.pieces lines) = (.ok (), ⟨none, (textOf lines).toUTF8⟩) := by
  rw [empty, writeAll_boundless, cutting.joined_pieces, ByteArray.empty_append]

theorem curbed_cutting (cutting : Cutting) (lines : List String) (room : Nat) :
    Curbed (.error .sinkFull) room (.ok (), ⟨none, (textOf lines).toUTF8⟩)
      ((empty (some room)).writeAll (cutting.pieces lines)) := by
  rw [← writeAll_cutting cutting]
  exact curbed_writeAll _ (Nat.zero_le room)

end Sink
end RepairConsole
