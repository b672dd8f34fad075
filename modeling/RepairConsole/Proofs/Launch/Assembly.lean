import RepairConsole.Proofs.Launch.Installation
import RepairConsole.Proofs.Path
import RepairConsole.Proofs.Text.Lines
/-!
# The command line of a service

Every word of the command line is accounted for: the options come from the lines of their file, the
class path from the names under `lib`, whatever order the disk has these in.
-/

namespace RepairConsole.Launch

/-! ## Options -/

/-- The options among some lines. A line is one if it starts with a dash after its blanks. -/
inductive OptionLines : List (List Char) → List String → Prop
  | none : OptionLines [] []
  | option {line core : List Char} {later : List (List Char)} {others : List String}
    (trimmed : Text.Trimmed line core) (dash : core.head? = some '-')
    (rest : OptionLines later others) :
    OptionLines (line :: later) (String.ofList core :: others)
  | remark {line core : List Char} {later : List (List Char)} {others : List String}
    (trimmed : Text.Trimmed line core) (plain : core.head? ≠ some '-')
    (rest : OptionLines later others) : OptionLines (line :: later) others

/-- These are the options in the text of an options file, in order and as often as they stand
there. -/
def OptionsOf (text : String) (all : List String) : Prop :=
  ∃ lines, Text.Lines text.toList lines ∧ OptionLines lines all

theorem optionLines_filter (lines : List (List Char)) :
    OptionLines lines (((lines.map String.ofList).map Text.trim).filter fun line =>
      line.toList.head? == some '-') := by
  induction lines with
  | nil => exact .none
  | cons line later ih =>
    have htrimmed := Text.trimmed_trim (String.ofList line)
    rw [String.toList_ofList] at htrimmed
    rw [List.map_cons, List.map_cons, List.filter_cons]
    split
    · next hdash =>
      have hoption := OptionLines.option htrimmed (beq_iff_eq.1 hdash) ih
      rwa [String.ofList_toList] at hoption
    · next hplain => exact .remark htrimmed (fun hdash => hplain (beq_iff_eq.2 hdash)) ih

theorem OptionLines.filter_eq {lines : List (List Char)} {all : List String}
    (h : OptionLines lines all) :
    (((lines.map String.ofList).map Text.trim).filter fun line =>
      line.toList.head? == some '-') = all := by
  have hcore : ∀ {line core : List Char}, Text.Trimmed line core →
      Text.trim (String.ofList line) = String.ofList core := by
    intro line core htrimmed
    apply Text.Trimmed.trim_eq
    rw [String.toList_ofList]
    exact htrimmed
  induction h with
  | none => rfl
  | option trimmed dash rest ih =>
    rw [List.map_cons, List.map_cons, hcore trimmed, List.filter_cons_of_pos, ih]
    rw [String.toList_ofList, dash]
    rfl
  | remark trimmed plain rest ih =>
    rw [List.map_cons, List.map_cons, hcore trimmed, List.filter_cons_of_neg, ih]
    rw [String.toList_ofList, beq_iff_eq]
    exact plain

theorem optionsOf_iff {text : String} {all : List String} :
    OptionsOf text all ↔ all = options text := by
  constructor
  · rintro ⟨lines, hlines, hall⟩
    rw [options, Text.lines, hlines.eq_linesFrom, hall.filter_eq]
  · rintro rfl
    exact ⟨_, Text.lines_linesFrom text.toList, optionLines_filter _⟩

/-! ## Libraries -/

/-- The libraries among the files of a directory, each once and in the order of their names. -/
structure LibrariesOf (files jars : List String) : Prop where
  increasing : jars.Pairwise (· < ·)
  member : ∀ name, name ∈ jars ↔ name ∈ files ∧ ∃ stem, stem ≠ "" ∧ name = stem ++ ".jar"

theorem isLibrary_iff {name : String} :
    Path.extension? name = some "jar" ↔ ∃ stem, stem ≠ "" ∧ name = stem ++ ".jar" := by
  rw [Path.extension?_eq_some_iff]
  have hspelling : ∀ stem, stem ++ "." ++ "jar" = stem ++ ".jar" := fun stem => by
    rw [String.append_assoc]
    rfl
  have hdot : '.' ∉ "jar".toList := by decide
  constructor
  · rintro ⟨stem, hstem, rfl, -⟩
    exact ⟨stem, hstem, hspelling stem⟩
  · rintro ⟨stem, hstem, rfl⟩
    exact ⟨stem, hstem, (hspelling stem).symm, hdot⟩

theorem mem_libraries {name : String} {files : List String} :
    name ∈ libraries files ↔ name ∈ files ∧ Path.extension? name = some "jar" := by
  rw [libraries, List.mem_mergeSort, List.mem_filter, beq_iff_eq]

theorem pairwise_libraries (files : List String) : (libraries files).Pairwise (· ≤ ·) := by
  have htrans : ∀ a b c : String, decide (a ≤ b) = true → decide (b ≤ c) = true →
      decide (a ≤ c) = true := by
    intro a b c hab hbc
    rw [decide_eq_true_eq] at *
    exact String.le_trans hab hbc
  have htotal : ∀ a b : String, (decide (a ≤ b) || decide (b ≤ a)) = true := by
    intro a b
    rw [Bool.or_eq_true, decide_eq_true_eq, decide_eq_true_eq]
    exact String.le_total a b
  exact (List.pairwise_mergeSort htrans htotal _).imp of_decide_eq_true

theorem perm_libraries (files : List String) :
    (libraries files).Perm (files.filter fun name => Path.extension? name == some "jar") :=
  List.mergeSort_perm _ _

theorem librariesOf_libraries {files : List String} (h : files.Nodup) :
    LibrariesOf files (libraries files) := by
  have hnodup : (libraries files).Nodup := (perm_libraries files).nodup_iff.2 (h.filter _)
  constructor
  · refine ((pairwise_libraries files).and hnodup).imp ?_
    rintro a b ⟨hle, hne⟩
    by_contra hlt
    exact hne (String.le_antisymm hle (String.not_lt.1 hlt))
  · intro name
    rw [mem_libraries, isLibrary_iff]

/-- There is only one way to put the libraries in order. -/
theorem libraries_eq {files jars : List String} (hsorted : jars.Pairwise (· ≤ ·))
    (hperm : (files.filter fun name => Path.extension? name == some "jar").Perm jars) :
    libraries files = jars := by
  refine ((perm_libraries files).trans hperm).eq_of_pairwise ?_ (pairwise_libraries files) hsorted
  intro a b _ _ hab hba
  exact String.le_antisymm hab hba

theorem libraries_of_perm {files files' : List String} (h : files.Perm files') :
    libraries files = libraries files' :=
  libraries_eq (pairwise_libraries files') ((h.filter _).trans (perm_libraries files').symm)

theorem LibrariesOf.eq_libraries {files jars : List String} (hfiles : files.Nodup)
    (h : LibrariesOf files jars) : jars = libraries files := by
  have hnodup : jars.Nodup := h.increasing.imp String.ne_of_lt
  have hmember : ∀ name, name ∈ files.filter (fun name => Path.extension? name == some "jar") ↔
      name ∈ jars := by
    intro name
    rw [h.member, List.mem_filter, beq_iff_eq, isLibrary_iff]
  have hperm := (List.perm_ext_iff_of_nodup (hfiles.filter _) hnodup).2 hmember
  have hsorted : jars.Pairwise (· ≤ ·) :=
    h.increasing.imp fun hlt => String.not_lt.1 (String.lt_asymm hlt)
  exact (libraries_eq hsorted hperm).symm

/-! ## Command lines -/

/-- What a command line tells the service to look for: the configuration and the libraries. -/
def told (home : String) (jars : List String) : List String :=
  configuration home :: jars.map (Path.join (libraryDirectory home))

/-- The command line of an installation with this text in its options file and these files under
`lib`. -/
structure CommandLine (home text : String) (files : List String) (foreground : Bool)
    (made : Launch) : Prop where
  program : made.program = "java"
  workingDirectory : made.workingDirectory = home
  arguments : ∃ all jars, OptionsOf text all ∧ LibrariesOf files jars ∧
    made.arguments = all ++
      ["-Decchronos.config=" ++ Path.join home "conf", "-cp",
        ":".intercalate (told home jars), mainClass] ++
      (if foreground then ["-f"] else [])

theorem commandLine_assemble {files : List String} (h : files.Nodup) (home text : String)
    (foreground : Bool) :
    CommandLine home text files foreground (assemble home text files foreground) :=
  ⟨rfl, rfl, options text, libraries files, optionsOf_iff.2 rfl, librariesOf_libraries h, rfl⟩

/-! ## The order of a listing -/

inductive Shuffled : Except SystemError (List (Except SystemError String)) →
    Except SystemError (List (Except SystemError String)) → Prop
  | listed {entries entries' : List (Except SystemError String)} (perm : entries.Perm entries') :
    Shuffled (.ok entries) (.ok entries')
  | refused (error : SystemError) : Shuffled (.error error) (.error error)

/-- Two disks that differ only in the order in which they list what is in a directory. -/
structure Reordered (disk disk' : Disk) : Prop where
  files : ∀ path, disk (.readFile path) = disk' (.readFile path)
  listings : ∀ path, Shuffled (disk (.listNames path)) (disk' (.listNames path))

theorem Shuffled.exists_perm {entries : List (Except SystemError String)}
    {answer : Except SystemError (List (Except SystemError String))}
    (h : Shuffled (.ok entries) answer) : ∃ entries', answer = .ok entries' ∧
      entries.Perm entries' := by
  cases h with
  | listed perm => exact ⟨_, rfl, perm⟩

theorem Shuffled.eq_error {error : SystemError}
    {answer : Except SystemError (List (Except SystemError String))}
    (h : Shuffled (.error error) answer) : answer = .error error := by
  cases h with
  | refused => rfl

theorem Reordered.lists {disk disk' : Disk} {home : String} {files : List String}
    (h : Reordered disk disk') (hlists : disk.Lists home files) :
    ∃ files', disk'.Lists home files' ∧ files.Perm files' := by
  have hshuffled := h.listings (libraryDirectory home)
  cases hlists with
  | listed there =>
    rw [there] at hshuffled
    obtain ⟨entries', there', perm⟩ := hshuffled.exists_perm
    exact ⟨_, .listed there', perm.filterMap _⟩
  | missing gone =>
    rw [gone] at hshuffled
    exact ⟨[], .missing hshuffled.eq_error, .refl []⟩

theorem Reordered.bars {disk disk' : Disk} {home : String} {error : SystemError}
    (h : Reordered disk disk') (hbars : disk.Bars home error) : disk'.Bars home error := by
  have hshuffled := h.listings (libraryDirectory home)
  rw [hbars.1] at hshuffled
  exact ⟨hshuffled.eq_error, hbars.2⟩

theorem assemble_of_perm {files files' : List String} (h : files.Perm files')
    (home text : String) (foreground : Bool) :
    assemble home text files foreground = assemble home text files' foreground := by
  unfold assemble classPath
  rw [libraries_of_perm h]

theorem launch_of_reordered {disk disk' : Disk} (h : Reordered disk disk') (home : String)
    (foreground : Bool) : disk'.launch home foreground = disk.launch home foreground := by
  have hyields := disk.yields_launch home foreground
  have hfile := h.files (optionsFile home)
  apply Disk.launch_of_yields
  generalize disk.launch home foreground = result at hyields
  cases hyields with
  | noOptions withholds =>
    unfold Disk.Withholds at withholds
    rw [hfile] at withholds
    exact .noOptions withholds
  | noListing holds bars =>
    exact .noListing (hfile.symm.trans holds) (h.bars bars)
  | assembled holds lists =>
    obtain ⟨files', hlists', hperm⟩ := h.lists lists
    rw [assemble_of_perm hperm]
    exact .assembled (hfile.symm.trans holds) hlists'

/-! ## Results -/

/-- Why an installation comes to no command line, and what is said then. -/
inductive Hindered (disk : Disk) (home : String) : Fault → Prop
  | byOptions {error : SystemError} (withholds : disk.Withholds home error) :
    Hindered disk home (.optionsUnreadable (Path.join (Path.join home "conf") "jvm.options") error)
  /-- The options file is looked at first. -/
  | byLibraries {text : String} {error : SystemError} (holds : disk.Holds home text)
    (bars : disk.Bars home error) :
    Hindered disk home (.librariesUnlisted (Path.join home "lib") error)

theorem Hindered.kind {disk : Disk} {home : String} {fault : Fault} (h : Hindered disk home fault) :
    fault.failure.kind = .launchFailure := by
  cases h with
  | byOptions => rfl
  | byLibraries => rfl

theorem launch_eq_error_iff {disk : Disk} {home : String} {foreground : Bool} {fault : Fault} :
    disk.launch home foreground = .error fault ↔ Hindered disk home fault := by
  constructor
  · intro h
    have hyields := disk.yields_launch home foreground
    rw [h] at hyields
    cases hyields with
    | noOptions withholds => exact .byOptions withholds
    | noListing holds bars => exact .byLibraries holds bars
  · intro h
    apply Disk.launch_of_yields
    cases h with
    | byOptions withholds => exact .noOptions withholds
    | byLibraries holds bars => exact .noListing holds bars

theorem exists_hindered_iff {disk : Disk} {home : String} :
    (∃ fault, Hindered disk home fault) ↔
      (¬ ∃ text, disk.Holds home text) ∨ ∃ error, disk.Bars home error := by
  constructor
  · rintro ⟨fault, hfault⟩
    cases hfault with
    | byOptions withholds => exact Or.inl (Disk.not_holds withholds)
    | byLibraries holds bars => exact Or.inr ⟨_, bars⟩
  · intro h
    rcases disk.holds_or_withholds home with ⟨text, holds⟩ | ⟨error, withholds⟩
    · rcases h with hnone | ⟨error, bars⟩
      · exact absurd ⟨text, holds⟩ hnone
      · exact ⟨_, .byLibraries holds bars⟩
    · exact ⟨_, .byOptions withholds⟩

theorem command_line_assembled {disk : Disk} {home : String} (foreground : Bool)
    (hdistinct : ∀ files, disk.Lists home files → files.Nodup) :
    (∀ made, disk.launch home foreground = .ok made →
      ∃ text files, disk.Holds home text ∧ disk.Lists home files ∧
        CommandLine home text files foreground made) ∧
    (∀ made, disk.launch home foreground = .ok made →
      disk (.listNames (Path.join home "lib")) = .error .notFound →
        ["-cp", Path.join home "conf", mainClass] <:+: made.arguments) ∧
    (∀ disk', Reordered disk disk' →
      disk'.launch home foreground = disk.launch home foreground) ∧
    ((∃ fault, disk.launch home foreground = .error fault) ↔
      (¬ ∃ text, disk.Holds home text) ∨ ∃ error, disk.Bars home error) ∧
    ∀ fault, disk.launch home foreground = .error fault →
      Hindered disk home fault ∧ fault.failure.kind = .launchFailure := by
  have hyields := disk.yields_launch home foreground
  refine ⟨fun made hmade => ?_, fun made hmade hgone => ?_, ?_, ?_, fun fault hfault => ?_⟩
  · rw [hmade] at hyields
    cases hyields with
    | assembled holds lists =>
      exact ⟨_, _, holds, lists, commandLine_assemble (hdistinct _ lists) _ _ _⟩
  · rw [hmade] at hyields
    cases hyields with
    | @assembled text names holds lists =>
      have hnames : names = [] := by
        cases lists with
        | listed there => exact nomatch there.symm.trans hgone
        | missing => rfl
      have halone : classPath home [] = Path.join home "conf" := by
        rw [classPath, libraries_eq .nil (.refl _)]
        rfl
      refine ⟨options text ++ ["-Decchronos.config=" ++ configuration home],
        if foreground then ["-f"] else [], ?_⟩
      rw [assemble, hnames, halone]
      simp
  · exact fun disk' h => launch_of_reordered h home foreground
  · simp only [launch_eq_error_iff]
    exact exists_hindered_iff
  · have hindered := launch_eq_error_iff.1 hfault
    exact ⟨hindered, hindered.kind⟩

/-- A disk with remarks and options that stand in, and with libraries that are out of order. -/
def furnished : Disk
  | .readFile _ => .ok "# heap\n  -Xmx1g \r\nno -option\n-Xmx1g".toUTF8
  | .listNames _ => .ok [.ok "b.jar", .ok ".jar", .error .accessDenied, .ok "a.x.jar", .ok "c.JAR"]

theorem command_line_assembled_furnished :
    ∃ made, furnished.launch "/opt" true = .ok made ∧
      made.arguments = ["-Xmx1g", "-Xmx1g", "-Decchronos.config=/opt/conf", "-cp",
        "/opt/conf:/opt/lib/a.x.jar:/opt/lib/b.jar", mainClass, "-f"] := by
  have hfiles : ∀ files, furnished.Lists "/opt" files →
      files = ["b.jar", ".jar", "a.x.jar", "c.JAR"] := by
    intro files hlists
    cases hlists with
    | listed there =>
      cases there
      rfl
    | missing gone => cases gone
  have hdistinct : ∀ files, furnished.Lists "/opt" files → files.Nodup := by
    intro files hlists
    rw [hfiles files hlists]
    decide
  have hlibraries : libraries ["b.jar", ".jar", "a.x.jar", "c.JAR"] = ["a.x.jar", "b.jar"] :=
    libraries_eq (by decide) (by decide)
  obtain ⟨hlaunched, -, -, hhindered, -⟩ := command_line_assembled true hdistinct
  cases hmade : furnished.launch "/opt" true with
  | error fault =>
    exfalso
    rcases hhindered.1 ⟨fault, hmade⟩ with hnone | ⟨error, hlist, -⟩
    · exact hnone ⟨_, rfl⟩
    · cases hlist
  | ok made =>
    obtain ⟨text, files, holds, lists, -, -, all, jars, hall, hjars, harguments⟩ :=
      hlaunched made hmade
    have htext := SystemError.textOf_eq_ok_iff.2 (Except.ok.inj holds)
    rw [SystemError.textOf_toUTF8] at htext
    have hjars' := hjars.eq_libraries (hdistinct files lists)
    rw [hfiles files lists, hlibraries] at hjars'
    refine ⟨made, rfl, ?_⟩
    rw [harguments, optionsOf_iff.1 hall, ← Except.ok.inj htext, hjars']
    decide

end RepairConsole.Launch
