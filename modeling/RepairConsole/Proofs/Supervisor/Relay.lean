import RepairConsole.Proofs.Text.Cut
import RepairConsole.Supervisor.Relay
/-!
# Nothing is lost on the way

A byte of the stream is written, or in the writing hand, or on the channel, or in the reading hand,
or not yet read, and these together are the stream, whatever the two hands do and in whatever
order. So a relay that finishes has written all of it, and one that leaves has written whole lines.
-/

namespace RepairConsole.Relay

/-! ## Lines -/

/-- The bytes are the front of the stream up to the end of one of its lines. -/
def EndsLine (stream front : List UInt8) : Prop :=
  front <+: stream ∧ (front = [] ∨ front = stream ∨ front.getLast? = some lineFeed)

theorem cutLine_cases (stream : List UInt8) :
    (cutLine stream = (stream, []) ∧ lineFeed ∉ stream) ∨
      ∃ front rest, stream = front ++ lineFeed :: rest ∧ lineFeed ∉ front ∧
        cutLine stream = (front ++ [lineFeed], rest) := by
  rcases Text.span_cases (· != lineFeed) stream with
    ⟨hspan, hall⟩ | ⟨front, c, rest, rfl, hfront, hc, hspan⟩
  · refine Or.inl ⟨?_, fun h => absurd (hall _ h) (by simp)⟩
    rw [List.span_eq_takeWhile_dropWhile, Prod.mk.injEq] at hspan
    simp only [cutLine, hspan]
  · obtain rfl : c = lineFeed := by simpa using hc
    refine Or.inr ⟨front, rest, rfl, fun h => absurd (hfront _ h) (by simp), ?_⟩
    rw [List.span_eq_takeWhile_dropWhile, Prod.mk.injEq] at hspan
    simp only [cutLine, hspan]

theorem linesFrom_of_not_mem {held stream : List UInt8} (h : lineFeed ∉ stream)
    (hne : held.reverse ++ stream ≠ []) : linesFrom held stream = [held.reverse ++ stream] := by
  induction stream generalizing held with
  | nil =>
    rw [linesFrom, if_neg, List.append_nil]
    intro hempty
    exact hne (by simp [List.isEmpty_iff.1 hempty])
  | cons byte rest ih =>
    have hbyte : byte ≠ lineFeed := fun e => h (e ▸ List.mem_cons_self)
    rw [linesFrom, if_neg hbyte, ih (fun hr => h (List.mem_cons_of_mem _ hr)) (by simp)]
    simp

theorem linesFrom_append_feed {held front : List UInt8} (rest : List UInt8) (h : lineFeed ∉ front) :
    linesFrom held (front ++ lineFeed :: rest) =
      (held.reverse ++ front ++ [lineFeed]) :: lines rest := by
  induction front generalizing held with
  | nil => simp [linesFrom, lines]
  | cons byte front ih =>
    have hbyte : byte ≠ lineFeed := fun e => h (e ▸ List.mem_cons_self)
    rw [List.cons_append, linesFrom, if_neg hbyte, ih fun hf => h (List.mem_cons_of_mem _ hf)]
    simp

/-- The lines of a stream are the one that is cut off first and the lines of what is left. -/
theorem lines_eq_cons {stream : List UInt8} (h : stream ≠ []) :
    lines stream = (cutLine stream).1 :: lines (cutLine stream).2 := by
  rcases cutLine_cases stream with ⟨hcut, hnone⟩ | ⟨front, rest, rfl, hfront, hcut⟩
  · rw [hcut, lines, linesFrom_of_not_mem hnone (by simpa using h)]
    rfl
  · rw [hcut, lines, linesFrom_append_feed rest hfront]
    rfl

theorem cutLine_ne_nil {stream : List UInt8} (h : stream ≠ []) : (cutLine stream).1 ≠ [] := by
  rcases cutLine_cases stream with ⟨hcut, -⟩ | ⟨front, rest, -, -, hcut⟩
  · rwa [hcut]
  · rw [hcut]
    exact List.append_ne_nil_of_right_ne_nil _ (List.cons_ne_nil _ _)

theorem endsLine_flatten {stream : List UInt8} {taken rest : List (List UInt8)}
    (h : lines stream = taken ++ rest) : EndsLine stream taken.flatten := by
  induction taken generalizing stream with
  | nil => exact ⟨List.nil_prefix, Or.inl rfl⟩
  | cons line taken ih =>
    have hne : stream ≠ [] := by
      rintro rfl
      cases h
    rw [lines_eq_cons hne, List.cons_append, List.cons.injEq] at h
    obtain ⟨rfl, hrest⟩ := h
    obtain ⟨hbegins, hend⟩ := ih hrest
    have happend := cutLine_append stream
    rw [List.flatten_cons]
    refine ⟨?_, Or.inr ?_⟩
    · conv_rhs => rw [← happend]
      exact (List.prefix_append_right_inj _).2 hbegins
    · rcases hend with hnil | hwhole | hfeed
      · rw [hnil, List.append_nil]
        rcases cutLine_cases stream with ⟨hcut, -⟩ | ⟨front, left, -, -, hcut⟩
        · exact Or.inl (by rw [hcut])
        · exact Or.inr (by rw [hcut, List.getLast?_concat])
      · exact Or.inl (by rw [hwhole, happend])
      · exact Or.inr (by rw [List.getLast?_append, hfeed, Option.some_or])

/-! ## What a step does -/

/-- The state that an event leads to: the same, where the event does not fit. -/
inductive Moves (s : State) : Event → State → Prop
  | stays (e : Event) : Moves s e s
  | drained (caught : s.caught = []) (unread : s.unread = []) :
    Moves s .read { s with reading := false }
  | caught (reading : s.reading = true) (caught : s.caught = []) (unread : s.unread ≠ []) :
    Moves s .read { s with unread := (cutLine s.unread).2, caught := (cutLine s.unread).1 }
  | deserted (ending : Ending) (stage : s.stage = .ended ending) :
    Moves s .send { s with reading := false }
  | sent (reading : s.reading = true) (caught : s.caught ≠ []) :
    Moves s .send { s with channel := s.channel ++ [s.caught], caught := [] }
  | told : Moves s .tell { s with told := true }
  | looked (stage : s.stage = .looking) (told : s.told = false) :
    Moves s .look { s with stage := .waiting }
  | left (stage : s.stage = .looking) (told : s.told = true) :
    Moves s .look { s with stage := .ended .cancelled }
  | took {line : List UInt8} {rest : List (List UInt8)} (stage : s.stage = .waiting)
    (channel : s.channel = line :: rest) :
    Moves s .receive { s with channel := rest, inHand := line, stage := .writing }
  | finished (stage : s.stage = .waiting) (channel : s.channel = []) (reading : s.reading = false) :
    Moves s .receive { s with stage := .ended .finished }
  | gaveUp (stage : s.stage = .waiting) : Moves s .giveUp { s with stage := .looking }
  | wrote (count : Nat) (stage : s.stage = .writing) :
    Moves s (.write count)
      { s with written := s.written ++ s.inHand.take count, inHand := s.inHand.drop count }
  | flushed (stage : s.stage = .writing) (inHand : s.inHand = []) :
    Moves s .flush { s with stage := .looking }
  | refused (error : SystemError) (stage : s.stage = .writing) :
    Moves s (.refuse error) { s with stage := .ended (.failed error) }

theorem moves_step (s : State) (e : Event) : Moves s e (s.step e) := by
  cases e with
  | read =>
    simp only [State.step]
    split
    · next _ hcaught hunread => exact .drained hcaught hunread
    · next hreading hcaught hunread =>
      exact .caught hreading hcaught (hunread ▸ List.cons_ne_nil _ _)
    · exact .stays _
  | send =>
    simp only [State.step]
    split
    · next hstage => exact .deserted _ hstage
    · next hreading hcaught _ => exact .sent hreading (hcaught ▸ List.cons_ne_nil _ _)
    · exact .stays _
  | tell => exact .told
  | look =>
    simp only [State.step]
    split
    · next hstage =>
      by_cases htold : s.told = true
      · rw [if_pos htold]
        exact .left hstage htold
      · rw [if_neg htold]
        exact .looked hstage (Bool.not_eq_true _ ▸ htold)
    · exact .stays _
  | receive =>
    simp only [State.step]
    split
    · next hstage hchannel => exact .took hstage hchannel
    · next hstage hchannel =>
      split
      · exact .stays _
      · next hreading => exact .finished hstage hchannel (Bool.not_eq_true _ ▸ hreading)
    · exact .stays _
  | giveUp =>
    simp only [State.step]
    split
    · next hstage => exact .gaveUp hstage
    · exact .stays _
  | write count =>
    simp only [State.step]
    split
    · next hstage => exact .wrote count hstage
    · exact .stays _
  | flush =>
    simp only [State.step]
    split
    · next hstage hhand => exact .flushed hstage hhand
    · exact .stays _
  | refuse error =>
    simp only [State.step]
    split
    · next hstage => exact .refused error hstage
    · exact .stays _

/-! ## What a relay keeps -/

/-- In these stages a line may be in the hand. -/
def Stage.MayHold : Stage → Prop
  | .writing | .ended (.failed _) => True
  | _ => False

/-- The lines of the stream are those that were taken, those on the channel and those not yet
there, in this order, and of those taken nothing is missing. -/
structure Keeps (stream : List UInt8) (s : State) : Prop where
  lines : ∃ taken, lines stream = taken ++ (s.channel ++ lines (s.caught ++ s.unread)) ∧
    s.written ++ s.inHand = taken.flatten
  caught : s.caught ≠ [] → Relay.lines (s.caught ++ s.unread) = s.caught :: Relay.lines s.unread
  free : ¬ s.stage.MayHold → s.inHand = []
  stopped : s.reading = false → s.caught ++ s.unread = [] ∨ ∃ ending, s.stage = .ended ending
  finished : s.stage = .ended .finished → s.channel = [] ∧ s.caught ++ s.unread = []
  cancelled : s.stage = .ended .cancelled → s.told = true

variable {stream : List UInt8} {s t : State} {e : Event}

theorem keeps_start (stream : List UInt8) : Keeps stream (State.start stream) where
  lines := ⟨[], rfl, rfl⟩
  caught := fun h => absurd rfl h
  free := fun _ => rfl
  stopped := nofun
  finished := nofun
  cancelled := nofun

theorem Moves.keeps (h : Moves s e t) (hs : Keeps stream s) : Keeps stream t := by
  obtain ⟨⟨taken, hlines, hwritten⟩, hcaught, hfree, hstopped, hfinished, hcancelled⟩ := hs
  -- Before the end the reading hand stops only where nothing is left to read.
  have hdrained : ∀ {stage : Stage}, s.stage = stage → (∀ ending, stage ≠ .ended ending) →
      s.reading = false → s.caught ++ s.unread = [] := by
    intro stage hstage hlive hreading
    rcases hstopped hreading with hnone | ⟨ending, hended⟩
    · exact hnone
    · exact absurd (hstage.symm.trans hended) (hlive ending)
  have hempty : s.stage = .looking ∨ s.stage = .waiting → s.inHand = [] := by
    rintro (hstage | hstage) <;> exact hfree (by rw [hstage]; exact id)
  cases h with
  | stays => exact ⟨⟨taken, hlines, hwritten⟩, hcaught, hfree, hstopped, hfinished, hcancelled⟩
  | drained hnone hunread =>
    refine ⟨⟨taken, hlines, hwritten⟩, hcaught, hfree, fun _ => Or.inl ?_, hfinished, hcancelled⟩
    exact List.append_eq_nil_iff.2 ⟨hnone, hunread⟩
  | caught hreading hnone hunread =>
    have hcut : (cutLine s.unread).1 ++ (cutLine s.unread).2 = s.caught ++ s.unread := by
      rw [cutLine_append, hnone, List.nil_append]
    refine ⟨⟨taken, ?_, hwritten⟩, fun _ => ?_, hfree, ?_, ?_, hcancelled⟩
    · rw [hlines, hcut]
    · rw [cutLine_append]
      exact lines_eq_cons hunread
    · intro hnot
      rw [hreading] at hnot
      cases hnot
    · intro hstage
      exact absurd (List.append_eq_nil_iff.1 (hfinished hstage).2).2 hunread
  | deserted ending hstage =>
    exact ⟨⟨taken, hlines, hwritten⟩, hcaught, hfree, fun _ => Or.inr ⟨ending, hstage⟩, hfinished,
      hcancelled⟩
  | sent hreading hline =>
    refine ⟨⟨taken, ?_, hwritten⟩, fun h => absurd rfl h, hfree, ?_, ?_, hcancelled⟩
    · rw [hlines, hcaught hline, List.nil_append, List.append_assoc]
      rfl
    · intro hnot
      rw [hreading] at hnot
      cases hnot
    · intro hstage
      exact absurd (List.append_eq_nil_iff.1 (hfinished hstage).2).1 hline
  | told =>
    exact ⟨⟨taken, hlines, hwritten⟩, hcaught, hfree, hstopped, hfinished, fun _ => rfl⟩
  | looked hstage htold =>
    refine ⟨⟨taken, hlines, hwritten⟩, hcaught, fun _ => hempty (Or.inl hstage), ?_, nofun, nofun⟩
    exact fun hreading => Or.inl (hdrained hstage nofun hreading)
  | left hstage htold =>
    refine ⟨⟨taken, hlines, hwritten⟩, hcaught, fun _ => hempty (Or.inl hstage), ?_, nofun,
      fun _ => htold⟩
    exact fun _ => Or.inr ⟨_, rfl⟩
  | @took line rest hstage hchannel =>
    refine ⟨⟨taken ++ [line], ?_, ?_⟩, hcaught, fun h => absurd trivial h, ?_, nofun, nofun⟩
    · rw [hlines, hchannel]
      simp
    · rw [hempty (Or.inr hstage), List.append_nil] at hwritten
      simp [hwritten]
    · exact fun hreading => Or.inl (hdrained hstage nofun hreading)
  | finished hstage hchannel hreading =>
    refine ⟨⟨taken, hlines, hwritten⟩, hcaught, fun _ => hempty (Or.inr hstage), ?_, ?_, nofun⟩
    · exact fun _ => Or.inr ⟨_, rfl⟩
    · exact fun _ => ⟨hchannel, hdrained hstage nofun hreading⟩
  | gaveUp hstage =>
    refine ⟨⟨taken, hlines, hwritten⟩, hcaught, fun _ => hempty (Or.inr hstage), ?_, nofun, nofun⟩
    exact fun hreading => Or.inl (hdrained hstage nofun hreading)
  | wrote count hstage =>
    refine ⟨⟨taken, hlines, ?_⟩, hcaught, fun h => absurd ?_ h, hstopped, hfinished, hcancelled⟩
    · rw [List.append_assoc, List.take_append_drop, hwritten]
    · rw [hstage]
      trivial
  | flushed hstage hhand =>
    refine ⟨⟨taken, hlines, hwritten⟩, hcaught, fun _ => hhand, ?_, nofun, nofun⟩
    exact fun hreading => Or.inl (hdrained hstage nofun hreading)
  | refused error hstage =>
    refine ⟨⟨taken, hlines, hwritten⟩, hcaught, fun h => absurd trivial h, ?_, nofun, nofun⟩
    exact fun _ => Or.inr ⟨_, rfl⟩

/-! ## A whole relay -/

theorem keeps_run (events : List Event) (hs : Keeps stream s) : Keeps stream (s.run events) := by
  induction events generalizing s with
  | nil => exact hs
  | cons e rest ih => exact ih ((moves_step s e).keeps hs)

/-- After its end a relay writes nothing. -/
theorem Moves.ended {ending : Ending} (h : Moves s e t) (hs : s.stage = .ended ending) :
    t.stage = .ended ending ∧ t.written = s.written := by
  cases h with
  | stays | drained | caught | deserted | sent | told => exact ⟨hs, rfl⟩
  | looked hstage | left hstage | took hstage | finished hstage | gaveUp hstage | wrote _ hstage
  | flushed hstage | refused _ hstage =>
    rw [hs] at hstage
    cases hstage

theorem written_run_of_ended {ending : Ending} (hs : s.stage = .ended ending) (later : List Event) :
    (s.run later).written = s.written := by
  induction later generalizing s with
  | nil => rfl
  | cons e rest ih =>
    obtain ⟨hstage, hwritten⟩ := (moves_step s e).ended hs
    exact (ih hstage).trans hwritten

/-- What one event alone can bring about does not come about without it. -/
theorem mem_of_run {P : State → Prop} {cause : Event}
    (hcause : ∀ s e, P (s.step e) → P s ∨ e = cause) {events : List Event} (h : P (s.run events)) :
    P s ∨ cause ∈ events := by
  induction events generalizing s with
  | nil => exact Or.inl h
  | cons e rest ih =>
    rcases ih h with hs | hrest
    · rcases hcause s e hs with hs | rfl
      · exact Or.inl hs
      · exact Or.inr List.mem_cons_self
    · exact Or.inr (List.mem_cons_of_mem _ hrest)

theorem told_of_moves (h : Moves s e t) (ht : t.told = true) : s.told = true ∨ e = .tell := by
  cases h with
  | told => exact Or.inr rfl
  | stays | drained | caught | deserted | sent | looked | left | took | finished | gaveUp | wrote
  | flushed | refused => exact Or.inl ht

theorem failed_of_moves {error : SystemError} (h : Moves s e t)
    (ht : t.stage = .ended (.failed error)) :
    s.stage = .ended (.failed error) ∨ e = .refuse error := by
  cases h with
  | refused =>
    cases ht
    exact Or.inr rfl
  | stays | drained | caught | deserted | sent | told | wrote => exact Or.inl ht
  | looked | left | took | finished | gaveUp | flushed => cases ht

/-! ## The relay from end to end -/

theorem run_append (s : State) (first later : List Event) :
    s.run (first ++ later) = (s.run first).run later :=
  List.foldl_append

/-- The reading hand can go through the whole stream before a line is taken. -/
theorem run_reads (hstage : s.stage = .looking) (hreading : s.reading = true)
    (hcaught : s.caught = []) :
    ∃ events, s.run events =
      { s with unread := [], reading := false, channel := s.channel ++ lines s.unread } := by
  induction hlines : lines s.unread generalizing s with
  | nil =>
    have hunread : s.unread = [] := by
      by_contra hne
      rw [lines_eq_cons hne] at hlines
      cases hlines
    refine ⟨[.read], ?_⟩
    simp [State.run, State.step, hcaught, hreading, hunread]
  | cons line rest ih =>
    have hne : s.unread ≠ [] := by
      intro hunread
      rw [hunread] at hlines
      cases hlines
    rw [lines_eq_cons hne, List.cons.injEq] at hlines
    obtain ⟨rfl, hrest⟩ := hlines
    have hmoved : s.run [.read, .send] = { s with
        unread := (cutLine s.unread).2, channel := s.channel ++ [(cutLine s.unread).1] } := by
      obtain ⟨b, bs, hunread⟩ := List.exists_cons_of_ne_nil hne
      obtain ⟨c, cs, hline⟩ := List.exists_cons_of_ne_nil (cutLine_ne_nil hne)
      rw [hunread] at hline
      simp [State.run, State.step, hstage, hreading, hcaught, hunread, hline]
    obtain ⟨events, hrun⟩ := ih (s := s.run [.read, .send]) (by rw [hmoved]; exact hstage)
      (by rw [hmoved]; exact hreading) (by rw [hmoved]; exact hcaught) (by rw [hmoved]; exact hrest)
    refine ⟨[.read, .send] ++ events, ?_⟩
    rw [run_append, hrun, hmoved, List.append_assoc]
    rfl

section Host

variable {σ : Type} (told : σ → Bool) (write : List UInt8 → σ → Except SystemError Unit × σ)
  (output : σ → List UInt8)

/-- What was written to the host is the line, or where it failed some of the line. -/
structure Faithful : Prop where
  ok : ∀ line world, (write line world).1 = .ok () →
    output (write line world).2 = output world ++ line
  error : ∀ line world error, (write line world).1 = .error error →
    ∃ count, output (write line world).2 = output world ++ line.take count

theorem relay_cons_ok {line : List UInt8} {world : σ} (rest : List (List UInt8))
    (hstay : told world = false) (hw : (write line world).1 = .ok ()) :
    relay told write (line :: rest) world = relay told write rest (write line world).2 := by
  rw [relay, if_neg (by simp [hstay])]
  generalize write line world = x at hw
  obtain ⟨result, after⟩ := x
  obtain rfl : result = .ok () := hw
  rfl

theorem relay_cons_error {line : List UInt8} {world : σ} {error : SystemError}
    (rest : List (List UInt8)) (hstay : told world = false)
    (hw : (write line world).1 = .error error) :
    relay told write (line :: rest) world = (.failed error, (write line world).2) := by
  rw [relay, if_neg (by simp [hstay])]
  generalize write line world = x at hw
  obtain ⟨result, after⟩ := x
  obtain rfl : result = .error error := hw
  rfl

theorem run_relay (h : Faithful write output) (unread : List UInt8) (channel : List (List UInt8))
    (written : List UInt8) (world : σ) :
    let s : State := ⟨unread, [], false, channel, .looking, [], written, false⟩
    ∃ events new, (s.run events).stage = .ended (relay told write channel world).1 ∧
      (s.run events).written = written ++ new ∧
      output (relay told write channel world).2 = output world ++ new := by
  intro s
  induction channel generalizing written world with
  | nil =>
    cases hleave : told world with
    | true =>
      refine ⟨[.tell, .look], [], ?_, by simp [s, State.run, State.step], by simp [relay]⟩
      simp [s, State.run, State.step, relay, hleave]
    | false =>
      refine ⟨[.look, .receive], [], ?_, by simp [s, State.run, State.step], by simp [relay]⟩
      simp [s, State.run, State.step, relay, hleave]
  | cons line rest ih =>
    cases hleave : told world with
    | true =>
      refine ⟨[.tell, .look], [], ?_, by simp [s, State.run, State.step], by simp [relay, hleave]⟩
      simp [s, State.run, State.step, relay, hleave]
    | false =>
      cases hw : (write line world).1 with
      | ok done =>
        obtain ⟨events, new, hstage, hwritten, houtput⟩ := ih (written ++ line) (write line world).2
        have htaken : s.run [.look, .receive, .write line.length, .flush] =
            ⟨unread, [], false, rest, .looking, [], written ++ line, false⟩ := by
          simp [s, State.run, State.step]
        refine ⟨[.look, .receive, .write line.length, .flush] ++ events, line ++ new, ?_, ?_, ?_⟩
        · rw [run_append, htaken, hstage, relay_cons_ok told write rest hleave hw]
        · rw [run_append, htaken, hwritten, List.append_assoc]
        · rw [relay_cons_ok told write rest hleave hw, houtput, h.ok line world hw,
            List.append_assoc]
      | error error =>
        obtain ⟨count, hcount⟩ := h.error line world error hw
        refine ⟨[.look, .receive, .write count, .refuse error], line.take count, ?_, ?_, ?_⟩
        · rw [relay_cons_error told write rest hleave hw]
          simp [s, State.run, State.step]
        · simp [s, State.run, State.step]
        · rw [relay_cons_error told write rest hleave hw, hcount]

/-- The relay from end to end takes one of the courses that the two hands can take: it ends as a
run of theirs does, and what reached its output is what was written in that run. -/
theorem relay_is_run (h : Faithful write output) (stream : List UInt8) (world : σ) :
    ∃ events, let s := (State.start stream).run events
      s.stage = .ended (relay told write (lines stream) world).1 ∧
      output (relay told write (lines stream) world).2 = output world ++ s.written := by
  obtain ⟨reads, hreads⟩ := run_reads (s := State.start stream) rfl rfl rfl
  obtain ⟨events, new, hstage, hwritten, houtput⟩ :=
    run_relay told write output h [] (lines stream) [] world
  refine ⟨reads ++ events, ?_, ?_⟩
  · rw [run_append, hreads]
    exact hstage
  · rw [run_append, hreads, houtput]
    exact congrArg _ hwritten.symm

end Host

/-! ## What a relay conserves -/

/-- Whatever the two hands have done, no byte is lost, doubled or out of its place. A relay that
finishes has written the stream; one that leaves was told to, and has written whole lines; and once
it has ended, nothing more is written. The relay from end to end takes one of these courses. -/
theorem relay_conserves (stream : List UInt8) :
    (∀ events : List Event, let s := (State.start stream).run events
      s.written ++ s.inHand ++ s.channel.flatten ++ s.caught ++ s.unread = stream ∧
      (s.stage = .ended .finished → s.written = stream) ∧
      (s.stage = .ended .cancelled → .tell ∈ events ∧ EndsLine stream s.written) ∧
      (∀ error, s.stage = .ended (.failed error) → .refuse error ∈ events) ∧
      (∀ ending, s.stage = .ended ending → ∀ later, (s.run later).written = s.written)) ∧
    ∀ {σ : Type} (told : σ → Bool) (write : List UInt8 → σ → Except SystemError Unit × σ)
      (output : σ → List UInt8), Faithful write output → ∀ world, ∃ events,
      let s := (State.start stream).run events
      s.stage = .ended (relay told write (lines stream) world).1 ∧
      output (relay told write (lines stream) world).2 = output world ++ s.written := by
  refine ⟨fun events => ?_, fun told write output h world =>
    relay_is_run told write output h stream world⟩
  intro s
  have hkeeps : Keeps stream s := keeps_run events (keeps_start stream)
  obtain ⟨taken, hlines, hwritten⟩ := hkeeps.lines
  have hwhole : s.written ++ s.inHand ++ s.channel.flatten ++ s.caught ++ s.unread = stream := by
    calc s.written ++ s.inHand ++ s.channel.flatten ++ s.caught ++ s.unread
        = (taken ++ (s.channel ++ lines (s.caught ++ s.unread))).flatten := by
          rw [hwritten, List.flatten_append, List.flatten_append, flatten_lines, List.append_assoc,
            List.append_assoc]
      _ = stream := by rw [← hlines, flatten_lines]
  have hfront : ¬ s.stage.MayHold → s.written = taken.flatten := by
    intro hfree
    rw [← hwritten, hkeeps.free hfree, List.append_nil]
  refine ⟨hwhole, ?_, ?_, ?_, fun ending hended => written_run_of_ended hended⟩
  · intro hfinished
    obtain ⟨hchannel, hnone⟩ := hkeeps.finished hfinished
    have hhand : s.inHand = [] := hkeeps.free (by rw [hfinished]; exact id)
    rw [List.append_assoc, hhand, hchannel, hnone] at hwhole
    simpa using hwhole
  · intro hcancelled
    refine ⟨?_, ?_⟩
    · have htold : s.told = true := hkeeps.cancelled hcancelled
      exact (mem_of_run (P := fun s => s.told = true)
        (fun s e => told_of_moves (moves_step s e)) htold).resolve_left nofun
    · rw [hfront (by rw [hcancelled]; exact id)]
      exact endsLine_flatten hlines
  · intro error hfailed
    exact (mem_of_run (P := fun s => s.stage = .ended (.failed error))
      (fun s e => failed_of_moves (moves_step s e)) hfailed).resolve_left nofun

end RepairConsole.Relay
