import RepairConsole.Proofs.Window.Given
import RepairConsole.Proofs.Window.Notation
import RepairConsole.Proofs.Window.Since
/-!
# Which window is resolved

A start and a duration are looked at only where they are given, and the duration first. The two
settle every field of the window, and the first of them that is refused settles the fault.
-/

namespace RepairConsole.Window

open Calendar (Moment)

/-! ## Refusals -/

/-- The fault that is reported, where nothing, the duration or the start is at fault. -/
inductive FirstRefusal (since duration : Option String) : Fault → Prop
  | unasked (noSince : Absent since) (noDuration : Absent duration) :
    FirstRefusal since duration .noWindow
  | ofDuration {fault : Fault} (refused : Refused duration Duration.parse fault) :
    FirstRefusal since duration fault
  | ofSince {fault : Fault} (passed : ∀ fault, ¬ Refused duration Duration.parse fault)
    (refused : Refused since readSince fault) : FirstRefusal since duration fault

theorem FirstRefusal.unique {since duration : Option String} {fault fault' : Fault}
    (h : FirstRefusal since duration fault) (h' : FirstRefusal since duration fault') :
    fault = fault' := by
  cases h with
  | unasked noSince noDuration =>
    cases h' with
    | unasked => rfl
    | ofDuration refused => exact absurd noDuration refused.not_absent
    | ofSince _ refused => exact absurd noSince refused.not_absent
  | ofDuration refused =>
    cases h' with
    | unasked _ noDuration => exact absurd noDuration refused.not_absent
    | ofDuration refused' => exact refused.unique refused'
    | ofSince passed => exact absurd refused (passed _)
  | ofSince passed refused =>
    cases h' with
    | unasked noSince => exact absurd noSince refused.not_absent
    | ofDuration refused' => exact absurd refused' (passed _)
    | ofSince _ refused' => exact refused.unique refused'

theorem exists_firstRefusal_iff {since duration : Option String} :
    (∃ fault, FirstRefusal since duration fault) ↔
      (Absent since ∧ Absent duration) ∨ (∃ fault, Refused duration Duration.parse fault) ∨
        ∃ fault, Refused since readSince fault := by
  constructor
  · rintro ⟨fault, h⟩
    cases h with
    | unasked noSince noDuration => exact Or.inl ⟨noSince, noDuration⟩
    | ofDuration refused => exact Or.inr (Or.inl ⟨_, refused⟩)
    | ofSince _ refused => exact Or.inr (Or.inr ⟨_, refused⟩)
  · rintro (⟨noSince, noDuration⟩ | ⟨fault, refused⟩ | ⟨fault, refused⟩)
    · exact ⟨_, .unasked noSince noDuration⟩
    · exact ⟨_, .ofDuration refused⟩
    · -- A duration that is refused as well is reported first.
      by_cases hduration : ∃ fault, Refused duration Duration.parse fault
      · obtain ⟨first, hfirst⟩ := hduration
        exact ⟨_, .ofDuration hfirst⟩
      · exact ⟨_, .ofSince (not_exists.1 hduration) refused⟩

theorem kind_of_readSince {raw : String} {fault : Fault} (h : readSince raw = .error fault) :
    fault.failure.kind = .invalidArgument := by
  have hnone : ∀ m, ¬ StartsAt raw m := by
    intro m hm
    rw [readSince_eq_ok_iff.2 hm] at h
    cases h
  obtain ⟨cause, hcause, hone⟩ := readSince_refused hnone
  obtain rfl : cause = fault := Except.error.inj (hcause.symm.trans h)
  rcases hone with rfl | rfl <;> rfl

theorem FirstRefusal.kind {since duration : Option String} {fault : Fault}
    (h : FirstRefusal since duration fault) : fault.failure.kind = .invalidArgument := by
  cases h with
  | unasked => rfl
  | ofDuration refused =>
    obtain ⟨raw, -, hparse⟩ := refused
    exact Duration.kind_of_parse hparse
  | ofSince _ refused =>
    obtain ⟨raw, -, hread⟩ := refused
    exact kind_of_readSince hread

/-! ## Windows -/

/-- The window that a start and a duration ask for, field by field. -/
structure Settles (since duration : Option String) (now : Moment) (w : Window) : Prop where
  /-- The start is kept as it was typed, with the blanks around it. -/
  kept : ∀ raw, w.since = some raw ↔ Gives since raw
  start : Reads since readSince w.start
  start_present : w.start.isSome = w.since.isSome
  finish : ∀ m, w.finish = some m ↔ w.since = none ∧ m = now
  token : Reads duration (fun raw => (Duration.parse raw).map Duration.token)
    (w.duration.map Duration.token)
  duration_present : w.duration.isSome = true ↔ ¬ Absent duration
  present : w.since ≠ none ∨ w.duration ≠ none

/-- All that a start and a duration come to. -/
inductive Resolves (since duration : Option String) (now : Moment) : Except Fault Window → Prop
  | refused {fault : Fault} (first : FirstRefusal since duration fault) :
    Resolves since duration now (.error fault)
  | settled {w : Window} (settles : Settles since duration now w)
    (passed : ∀ fault, ¬ FirstRefusal since duration fault) :
    Resolves since duration now (.ok w)

theorem settles_of_checked {since duration : Option String} {start : Option Moment}
    {d : Option Duration} (now : Moment) (hasked : ¬ (Absent since ∧ Absent duration))
    (hstart : Checked since readSince (.ok start))
    (hduration : Checked duration Duration.parse (.ok d)) :
    Settles since duration now
      ⟨given since, start, if (given since).isNone then some now else none, d⟩ where
  kept := fun _ => given_eq_some_iff
  start := hstart.reads
  start_present := by
    rw [Bool.eq_iff_iff, hstart.isSome_iff, isSome_given]
  finish := by
    intro m
    cases given since <;> simp [eq_comm]
  token := hduration.reads.map Duration.token
  duration_present := hduration.isSome_iff
  present := by
    by_contra hnot
    obtain ⟨hs, hd⟩ := not_or.1 hnot
    refine hasked ⟨given_eq_none_iff.1 (not_not.1 hs), ?_⟩
    by_contra habsent
    have hnone : d = none := not_not.1 hd
    have hsome := hduration.isSome_iff.2 habsent
    rw [hnone] at hsome
    cases hsome

theorem resolve_resolves (since duration : Option String) (now : Moment) :
    Resolves since duration now (resolve since duration now) := by
  have hstart := checked_mapM since readSince
  have hduration := checked_mapM duration Duration.parse
  unfold resolve
  dsimp only
  split
  · next hnone =>
    obtain ⟨hs, hd⟩ := Bool.and_eq_true_iff.1 hnone
    exact .refused (.unasked (isNone_given.1 hs) (isNone_given.1 hd))
  · next hsome =>
    have hasked : ¬ (Absent since ∧ Absent duration) := by
      rwa [Bool.and_eq_true, isNone_given, isNone_given] at hsome
    -- The duration is checked first, so the start counts only where that went well.
    generalize (given duration).mapM Duration.parse = x at hduration ⊢
    cases x with
    | error fault =>
      cases hduration with
      | refused refused => exact .refused (.ofDuration refused)
    | ok d =>
      generalize (given since).mapM readSince = y at hstart ⊢
      cases y with
      | error fault =>
        cases hstart with
        | refused refused => exact .refused (.ofSince hduration.not_refused refused)
      | ok start =>
        refine .settled (settles_of_checked now hasked hstart hduration) fun fault hfirst => ?_
        cases hfirst with
        | unasked noSince noDuration => exact hasked ⟨noSince, noDuration⟩
        | ofDuration refused => exact hduration.not_refused _ refused
        | ofSince _ refused => exact hstart.not_refused _ refused

theorem resolve_eq_error_iff {since duration : Option String} {now : Moment} {fault : Fault} :
    resolve since duration now = .error fault ↔ FirstRefusal since duration fault := by
  have hresolves := resolve_resolves since duration now
  generalize resolve since duration now = result at hresolves
  cases hresolves with
  | refused first =>
    constructor
    · rintro ⟨⟩
      exact first
    · intro hfirst
      rw [first.unique hfirst]
  | settled _ passed => exact iff_of_false nofun (passed fault)

theorem settles_of_resolve {since duration : Option String} {now : Moment} {w : Window}
    (h : resolve since duration now = .ok w) : Settles since duration now w := by
  have hresolves := resolve_resolves since duration now
  rw [h] at hresolves
  cases hresolves with
  | settled settles _ => exact settles

/-- A start that is read is the start of the window, where no duration is refused before it. -/
theorem exists_window_of_readSince {raw : String} {duration : Option String} {m : Moment}
    (now : Moment) (hraw : raw ≠ "") (hread : readSince raw = .ok m)
    (hpassed : ∀ fault, ¬ Refused duration Duration.parse fault) :
    ∃ w, resolve (some raw) duration now = .ok w ∧ w.start = some m := by
  have hgives : Gives (some raw) raw := ⟨rfl, hraw⟩
  cases hresolve : resolve (some raw) duration now with
  | ok w => exact ⟨w, rfl, ((settles_of_resolve hresolve).start m).2 ⟨raw, hgives, hread⟩⟩
  | error fault =>
    cases resolve_eq_error_iff.1 hresolve with
    | unasked noSince => exact absurd hgives (noSince raw)
    | ofDuration refused => exact absurd refused (hpassed fault)
    | ofSince _ refused =>
      obtain ⟨raw', hraw', hrefused⟩ := refused
      rw [hraw'.unique hgives, hread] at hrefused
      cases hrefused

/-- A start that is not read is the fault, where no duration is refused before it. -/
theorem exists_fault_of_readSince {raw : String} {fault : Fault} (duration : Option String)
    (now : Moment) (hraw : raw ≠ "") (hread : readSince raw = .error fault) :
    ∃ first, resolve (some raw) duration now = .error first ∧
      first.failure.kind = .invalidArgument ∧
      ((∀ fault, ¬ Refused duration Duration.parse fault) → first = fault) := by
  have hrefused : Refused (some raw) readSince fault := ⟨raw, ⟨rfl, hraw⟩, hread⟩
  obtain ⟨first, hfirst⟩ := exists_firstRefusal_iff.2 (Or.inr (Or.inr ⟨fault, hrefused⟩))
  refine ⟨first, resolve_eq_error_iff.2 hfirst, hfirst.kind, fun hpassed => ?_⟩
  exact hfirst.unique (.ofSince hpassed hrefused)

theorem resolve_outcome (since duration : Option String) (now : Moment) :
    ((∃ fault, resolve since duration now = .error fault) ↔
      (Absent since ∧ Absent duration) ∨ (∃ fault, Refused duration Duration.parse fault) ∨
        ∃ fault, Refused since readSince fault) ∧
    (∀ fault, resolve since duration now = .error fault ↔ FirstRefusal since duration fault) ∧
    (∀ fault, resolve since duration now = .error fault →
      fault.failure.kind = .invalidArgument) ∧
    (∀ w, resolve since duration now = .ok w → Settles since duration now w) := by
  refine ⟨?_, fun fault => resolve_eq_error_iff, fun fault h => ?_, fun w h => settles_of_resolve h⟩
  · simp only [resolve_eq_error_iff, exists_firstRefusal_iff]
  · exact (resolve_eq_error_iff.1 h).kind

/-- An empty start is not given, and a blank one is given and refused. -/
theorem resolve_outcome_blank :
    (∃ w, resolve (some "") (some "1d") ⟨5, 0⟩ = .ok w ∧ w.finish = some ⟨5, 0⟩ ∧
      w.start = none) ∧
    ∃ fault, resolve (some " ") (some "1d") ⟨5, 0⟩ = .error fault ∧
      fault.failure.kind = .invalidArgument := by
  constructor
  · obtain ⟨w, hw⟩ : ∃ w, resolve (some "") (some "1d") ⟨5, 0⟩ = .ok w := ⟨_, rfl⟩
    have hsettles := (resolve_outcome (some "") (some "1d") ⟨5, 0⟩).2.2.2 w hw
    have hsince : w.since = none := by
      rw [Option.eq_none_iff_forall_ne_some]
      intro raw hraw
      obtain ⟨hempty, hne⟩ := (hsettles.kept raw).1 hraw
      exact hne (Option.some.inj hempty).symm
    refine ⟨w, hw, (hsettles.finish _).2 ⟨hsince, rfl⟩, ?_⟩
    rw [← Option.isNone_iff_eq_none, ← Option.not_isSome, hsettles.start_present, hsince]
    rfl
  · obtain ⟨hfails, -, hkind, -⟩ := resolve_outcome (some " ") (some "1d") ⟨5, 0⟩
    have hread : Refused (some " ") readSince (.badSince " ") := ⟨" ", ⟨rfl, by decide⟩, rfl⟩
    obtain ⟨fault, hfault⟩ := hfails.2 (Or.inr (Or.inr ⟨_, hread⟩))
    exact ⟨fault, hfault, hkind fault hfault⟩

end RepairConsole.Window
