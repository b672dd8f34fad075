import RepairConsole.Launch
import RepairConsole.Proofs.Course
import RepairConsole.Proofs.Text.Utf8
/-!
# What is read of an installation

The launch of an installation is settled by two answers of the disk: the bytes of the options file
and the listing of the libraries.
-/

namespace RepairConsole.Launch

/-- A disk: what it answers to each request, while nobody changes it. -/
abbrev Disk := (q : Request) → q.Answer

def optionsFile (home : String) : String := Path.join (configuration home) "jvm.options"

namespace Disk

variable {disk : Disk} {home : String} {foreground : Bool}

def answer (disk : Disk) (q : Request) (s : Unit) : q.Answer × Unit := (disk q, s)

def launch (disk : Disk) (home : String) (foreground : Bool) : Except Fault Launch :=
  ((ofInstallation home foreground).run disk.answer ()).1

/-- All that was asked of the disk, in order. -/
def asked (disk : Disk) (home : String) (foreground : Bool) : List Request :=
  ((ofInstallation home foreground).course disk.answer ()).map (·.request)

/-- The options file is there, and holds this text in UTF-8. -/
def Holds (disk : Disk) (home text : String) : Prop :=
  disk (.readFile (optionsFile home)) = .ok text.toUTF8

/-- Why the options file cannot be read as text. -/
def Withholds (disk : Disk) (home : String) (error : SystemError) : Prop :=
  disk (.readFile (optionsFile home)) = .error error ∨
    error = .notText ∧ ∃ bytes, disk (.readFile (optionsFile home)) = .ok bytes ∧
      ∀ text : String, bytes ≠ text.toUTF8

/-- The library directory has these names, or is missing and has none. -/
inductive Lists (disk : Disk) (home : String) : List String → Prop
  /-- An entry that the disk cannot read is passed over. -/
  | listed {entries : List (Except SystemError String)}
    (there : disk (.listNames (libraryDirectory home)) = .ok entries) :
    Lists disk home (entries.filterMap Except.toOption)
  | missing (gone : disk (.listNames (libraryDirectory home)) = .error .notFound) :
    Lists disk home []

/-- The library directory is there, but cannot be listed. -/
def Bars (disk : Disk) (home : String) (error : SystemError) : Prop :=
  disk (.listNames (libraryDirectory home)) = .error error ∧ error ≠ .notFound

/-- All that an installation can come to. -/
inductive Yields (disk : Disk) (home : String) (foreground : Bool) : Except Fault Launch → Prop
  | assembled {text : String} {names : List String} (holds : disk.Holds home text)
    (lists : disk.Lists home names) :
    Yields disk home foreground (.ok (assemble home text names foreground))
  | noOptions {error : SystemError} (withholds : disk.Withholds home error) :
    Yields disk home foreground (.error (.optionsUnreadable (optionsFile home) error))
  | noListing {text : String} {error : SystemError} (holds : disk.Holds home text)
    (bars : disk.Bars home error) :
    Yields disk home foreground (.error (.librariesUnlisted (libraryDirectory home) error))

/-! ## The two answers -/

theorem bind_textOf_eq_ok_iff {text : String} :
    (disk (.readFile (optionsFile home))).bind SystemError.textOf = .ok text ↔
      disk.Holds home text := by
  unfold Holds
  cases disk (.readFile (optionsFile home)) with
  | error error => exact iff_of_false nofun nofun
  | ok bytes => rw [Except.bind, SystemError.textOf_eq_ok_iff, Except.ok.injEq]

theorem bind_textOf_eq_error_iff {error : SystemError} :
    (disk (.readFile (optionsFile home))).bind SystemError.textOf = .error error ↔
      disk.Withholds home error := by
  unfold Withholds
  cases disk (.readFile (optionsFile home)) with
  | error error' => simp [Except.bind]
  | ok bytes =>
    rw [Except.bind, SystemError.textOf_eq_error_iff]
    simp

theorem holds_or_withholds (disk : Disk) (home : String) :
    (∃ text, disk.Holds home text) ∨ ∃ error, disk.Withholds home error := by
  cases hread : (disk (.readFile (optionsFile home))).bind SystemError.textOf with
  | ok text => exact Or.inl ⟨text, bind_textOf_eq_ok_iff.1 hread⟩
  | error error => exact Or.inr ⟨error, bind_textOf_eq_error_iff.1 hread⟩

theorem not_holds {error : SystemError} (h : disk.Withholds home error) :
    ¬ ∃ text, disk.Holds home text := by
  rintro ⟨text, holds⟩
  exact nomatch (bind_textOf_eq_ok_iff.2 holds).symm.trans (bind_textOf_eq_error_iff.2 h)

theorem readOptions_eq (home : String) :
    readOptions home = .ask (.readFile (optionsFile home)) fun answer =>
      .done (match Except.bind answer SystemError.textOf with
        | .error error => .error (.optionsUnreadable (optionsFile home) error)
        | .ok text => .ok text) := by
  unfold readOptions readFile
  apply congrArg (Dialogue.ask _)
  funext answer
  change (match Except.bind answer SystemError.textOf with
    | .error error => _
    | .ok text => _) = _
  cases Except.bind answer SystemError.textOf <;> rfl

theorem readLibraries_eq (home : String) :
    readLibraries home = .ask (.listNames (libraryDirectory home)) fun answer =>
      .done (match answer with
        | .ok entries => .ok (entries.filterMap Except.toOption)
        | .error error =>
          if error = .notFound then .ok []
          else .error (.librariesUnlisted (libraryDirectory home) error)) := by
  unfold readLibraries listNames
  apply congrArg (Dialogue.ask _)
  funext answer
  cases answer with
  | ok entries => rfl
  | error error =>
    change (if error = .notFound then Dialogue.done _ else Dialogue.done _) =
      Dialogue.done (if error = .notFound then _ else _)
    split <;> rfl

theorem run_readOptions (disk : Disk) (home : String) :
    ((readOptions home).run disk.answer ()).1 =
      match (disk (.readFile (optionsFile home))).bind SystemError.textOf with
      | .error error => .error (.optionsUnreadable (optionsFile home) error)
      | .ok text => .ok text := by
  rw [readOptions_eq]
  rfl

theorem run_readLibraries (disk : Disk) (home : String) :
    ((readLibraries home).run disk.answer ()).1 =
      match disk (.listNames (libraryDirectory home)) with
      | .ok entries => .ok (entries.filterMap Except.toOption)
      | .error error =>
        if error = .notFound then .ok []
        else .error (.librariesUnlisted (libraryDirectory home) error) := by
  rw [readLibraries_eq]
  rfl

theorem asked_readOptions (disk : Disk) (home : String) :
    ((readOptions home).course disk.answer ()).map (·.request) =
      [.readFile (optionsFile home)] := by
  rw [readOptions_eq]
  rfl

theorem asked_readLibraries (disk : Disk) (home : String) :
    ((readLibraries home).course disk.answer ()).map (·.request) =
      [.listNames (libraryDirectory home)] := by
  rw [readLibraries_eq]
  rfl

inductive OptionsRead (disk : Disk) (home : String) : Except Fault String → Prop
  | held {text : String} (holds : disk.Holds home text) : OptionsRead disk home (.ok text)
  | withheld {error : SystemError} (withholds : disk.Withholds home error) :
    OptionsRead disk home (.error (.optionsUnreadable (optionsFile home) error))

theorem optionsRead (disk : Disk) (home : String) :
    OptionsRead disk home ((readOptions home).run disk.answer ()).1 := by
  rw [run_readOptions]
  cases hread : (disk (.readFile (optionsFile home))).bind SystemError.textOf with
  | ok text => exact .held (bind_textOf_eq_ok_iff.1 hread)
  | error error => exact .withheld (bind_textOf_eq_error_iff.1 hread)

inductive LibrariesRead (disk : Disk) (home : String) : Except Fault (List String) → Prop
  | listed {names : List String} (lists : disk.Lists home names) :
    LibrariesRead disk home (.ok names)
  | barred {error : SystemError} (bars : disk.Bars home error) :
    LibrariesRead disk home (.error (.librariesUnlisted (libraryDirectory home) error))

theorem librariesRead (disk : Disk) (home : String) :
    LibrariesRead disk home ((readLibraries home).run disk.answer ()).1 := by
  rw [run_readLibraries]
  cases hlist : disk (.listNames (libraryDirectory home)) with
  | ok entries => exact .listed (.listed hlist)
  | error error =>
    dsimp only
    split
    · next hgone => exact .listed (.missing (hgone ▸ hlist))
    · next hthere => exact .barred ⟨hlist, hthere⟩

theorem yields_launch (disk : Disk) (home : String) (foreground : Bool) :
    Yields disk home foreground (disk.launch home foreground) := by
  have hoptions := optionsRead disk home
  have hlibraries := librariesRead disk home
  change Yields disk home foreground (((readOptions home).bind _).run disk.answer ()).1
  rw [Dialogue.run_bind]
  generalize ((readOptions home).run disk.answer ()).1 = first at hoptions
  cases hoptions with
  | withheld withholds => exact .noOptions withholds
  | held holds =>
    change Yields disk home foreground (((readLibraries home).bind _).run disk.answer ()).1
    rw [Dialogue.run_bind]
    generalize ((readLibraries home).run disk.answer ()).1 = second at hlibraries
    cases hlibraries with
    | barred bars => exact .noListing holds bars
    | listed lists => exact .assembled holds lists

/-- And it comes to nothing else. -/
theorem launch_of_yields {result : Except Fault Launch}
    (h : Yields disk home foreground result) : disk.launch home foreground = result := by
  change (((readOptions home).bind _).run disk.answer ()).1 = _
  rw [Dialogue.run_bind, run_readOptions]
  cases h with
  | noOptions withholds =>
    rw [bind_textOf_eq_error_iff.2 withholds]
    rfl
  | assembled holds lists =>
    rw [bind_textOf_eq_ok_iff.2 holds]
    change (((readLibraries home).bind _).run disk.answer ()).1 = _
    rw [Dialogue.run_bind, run_readLibraries]
    cases lists with
    | listed there =>
      rw [there]
      rfl
    | missing gone =>
      rw [gone]
      rfl
  | noListing holds bars =>
    rw [bind_textOf_eq_ok_iff.2 holds]
    change (((readLibraries home).bind _).run disk.answer ()).1 = _
    rw [Dialogue.run_bind, run_readLibraries, bars.1]
    dsimp only
    rw [if_neg bars.2]
    rfl

/-- Where a command line comes of it, both places were looked at and nothing else was. -/
theorem asked_of_launch {made : Launch} (h : disk.launch home foreground = .ok made) :
    disk.asked home foreground =
      [.readFile (optionsFile home), .listNames (libraryDirectory home)] := by
  have hoptions := optionsRead disk home
  change (((readOptions home).bind _).run disk.answer ()).1 = Except.ok made at h
  change (((readOptions home).bind _).course disk.answer ()).map _ = _
  rw [Dialogue.run_bind] at h
  rw [Dialogue.course_bind, List.map_append]
  generalize ((readOptions home).run disk.answer ()).1 = first at h hoptions ⊢
  cases hoptions with
  | withheld withholds => cases h
  | held holds =>
    change _ ++ (((readLibraries home).bind _).course disk.answer ()).map _ = _
    rw [Dialogue.course_bind, List.map_append, asked_readOptions, asked_readLibraries]
    cases ((readLibraries home).run disk.answer ()).1 <;> rfl

end Disk
end RepairConsole.Launch
