import RepairConsole.Proofs.Launch.Assembly
/-!
# The places that a command line names

The service stands in the installation, and finds its configuration and its libraries by the paths
that it was told. The tool found them by the same paths from where it stands itself.
-/

namespace RepairConsole

/-! ## Names that only go down -/

namespace Path

theorem foldl_step_of_down {names : List String} (h : ".." ∉ names) (here : List String) :
    names.foldl step here = here ++ names := by
  induction names generalizing here with
  | nil => simp
  | cons name names ih =>
    rw [List.mem_cons, not_or] at h
    have hstep : step here name = here ++ [name] := by
      rw [step, if_neg]
      simpa using Ne.symm h.1
    rw [List.foldl_cons, hstep, ih h.2, List.append_assoc, List.singleton_append]

theorem place_of_down {path : String} (hdown : ".." ∉ names path) (h : isAbsolute path = false)
    (here : List String) : place here path = here ++ names path := by
  rw [place_eq, h, if_neg Bool.false_ne_true, foldl_step_of_down hdown]

theorem place_of_isAbsolute {path : String} (h : isAbsolute path = true)
    (here there : List String) : place here path = place there path := by
  rw [place_eq, place_eq, if_pos h, if_pos h]

end Path

namespace Launch

open RepairConsole.Path (Tree isAbsolute join names place)

/-! ## Libraries -/

/-- A file that is taken for a library is more than dots, whatever it is called. -/
theorem ne_dots_of_extension? {name : String} (h : Path.extension? name = some "jar") :
    name ≠ "" ∧ name ≠ "." ∧ name ≠ ".." := by
  refine ⟨?_, ?_, ?_⟩
  all_goals
    rintro rfl
    revert h
    decide

/-- The path goes on from the installation, and only goes down from there. -/
structure Below (home path : String) (rest : List String) : Prop where
  names : names path = names home ++ rest
  origin : isAbsolute path = isAbsolute home
  down : ".." ∉ rest

theorem below_join {home dir : String} {rest : List String} (hhome : home ≠ "")
    (hrelative : isAbsolute dir = false) (hnames : names dir = rest) (hdown : ".." ∉ rest) :
    Below home (join home dir) rest :=
  ⟨by rw [Path.names_join hrelative, hnames], Path.isAbsolute_join hhome hrelative, hdown⟩

theorem exists_below {home path : String} {files : List String} (hhome : home ≠ "")
    (hfiles : ∀ name ∈ files, '/' ∉ name.toList) (h : path ∈ told home (libraries files)) :
    ∃ rest, Below home path rest := by
  rw [told, List.mem_cons, List.mem_map] at h
  rcases h with rfl | ⟨jar, hjar, rfl⟩
  · exact ⟨["conf"], below_join hhome (by decide) (by decide) (by decide)⟩
  · obtain ⟨hfile, hextension⟩ := mem_libraries.1 hjar
    obtain ⟨hempty, hdot, hdots⟩ := ne_dots_of_extension? hextension
    have hslash := hfiles jar hfile
    have hrelative := Path.not_isAbsolute_of_plain hslash
    have hlib : Below home (libraryDirectory home) ["lib"] :=
      below_join hhome (by decide) (by decide) (by decide)
    refine ⟨["lib", jar], ?_, ?_, ?_⟩
    · rw [Path.names_join hrelative, hlib.names, Path.names_of_plain hslash hempty hdot,
        List.append_assoc]
      rfl
    · have hne : libraryDirectory home ≠ "" := Path.join_ne_empty (by decide)
      rw [Path.isAbsolute_join hne hrelative, hlib.origin]
    · simp [Ne.symm hdots]

/-! ## What the paths mean -/

/-- What a path names for the tool, and for the service that stands in the installation. -/
structure Meaning (home path : String) : Prop where
  absolute : isAbsolute home = true → ∀ (tree : Tree) (here there : tree.Place),
    tree.follow there path = tree.follow here path
  /-- The service goes the way to the installation a second time. -/
  relative : isAbsolute home = false → ∀ (tree : Tree) (here there : tree.Place),
    tree.follow here home = some there →
      tree.follow there path = tree.follow here (join home path)
  /-- Where no link is on the way, the two are one if the second time leads nowhere else. -/
  same_iff : ∀ here, place (place here home) path = place here path ↔
    isAbsolute home = true ∨ place (place here home) home = place here home
  /-- Only a home that names no directory at all is harmless among those that never go up. -/
  same_iff_of_down : isAbsolute home = false → ".." ∉ names home → ∀ here,
    (place (place here home) path = place here path ↔ names home = [])

theorem Below.place_eq {home path : String} {rest : List String} (h : Below home path rest)
    (here : List String) : place here path = place here home ++ rest := by
  rw [Path.place_eq, Path.place_eq, h.names, h.origin, List.foldl_append,
    Path.foldl_step_of_down h.down]

theorem Below.same_iff {home path : String} {rest : List String} (h : Below home path rest)
    (here : List String) : place (place here home) path = place here path ↔
      isAbsolute home = true ∨ place (place here home) home = place here home := by
  rw [h.place_eq, h.place_eq, List.append_left_inj]
  constructor
  · exact Or.inr
  · rintro (habsolute | hsame)
    · exact Path.place_of_isAbsolute habsolute _ _
    · exact hsame

theorem Below.meaning {home path : String} {rest : List String} (hhome : home ≠ "")
    (h : Below home path rest) : Meaning home path := by
  constructor
  case absolute =>
    intro habsolute tree here there
    exact Tree.follow_of_isAbsolute (h.origin.trans habsolute) there here
  case relative =>
    intro hrelative tree here there hthere
    rw [Tree.follow_join hhome (h.origin.trans hrelative), hthere, Option.bind_some]
  case same_iff => exact h.same_iff
  case same_iff_of_down =>
    intro hrelative hdown here
    rw [h.same_iff, hrelative, or_iff_right Bool.false_ne_true,
      Path.place_of_down hdown hrelative, Path.place_of_down hdown hrelative,
      List.append_right_eq_self]

theorem told_places {disk : Disk} {home : String} {foreground : Bool} {made : Launch}
    (hhome : home ≠ "")
    (hfiles : ∀ files, disk.Lists home files → ∀ name ∈ files, '/' ∉ name.toList)
    (h : disk.launch home foreground = .ok made) :
    made.workingDirectory = home ∧
    disk.asked home foreground =
      [.readFile (join (configuration home) "jvm.options"),
        .listNames (libraryDirectory home)] ∧
    ∃ files options last, disk.Lists home files ∧
      made.arguments = options ++ ["-Decchronos.config=" ++ configuration home, "-cp",
        ":".intercalate (told home (libraries files)), mainClass] ++ last ∧
      ∀ path ∈ told home (libraries files), Meaning home path := by
  have hyields := disk.yields_launch home foreground
  have hasked := Disk.asked_of_launch h
  rw [h] at hyields
  cases hyields with
  | @assembled text names holds lists =>
    refine ⟨rfl, hasked, names, options text, _, lists, rfl, fun path hpath => ?_⟩
    obtain ⟨rest, hbelow⟩ := exists_below hhome (hfiles names lists) hpath
    exact hbelow.meaning hhome

/-- A disk with an empty options file and one library. -/
def stocked : Disk
  | .readFile _ => .ok "".toUTF8
  | .listNames _ => .ok [.ok "a.jar"]

theorem launch_stocked (home : String) (foreground : Bool) :
    stocked.launch home foreground = .ok (assemble home "" ["a.jar"] foreground) := by
  have hlists : stocked.Lists home ([.ok "a.jar"].filterMap Except.toOption) := .listed rfl
  exact Disk.launch_of_yields (.assembled rfl hlists)

/-- The tool has read `/work/inst/conf`, and the service is sent to `/work/inst/inst/conf`. -/
theorem relative_home_looked_up_twice :
    ∃ made, stocked.launch "inst" false = .ok made ∧ made.workingDirectory = "inst" ∧
      made.arguments = ["-Decchronos.config=inst/conf", "-cp", "inst/conf:inst/lib/a.jar",
        mainClass] ∧
      place ["work"] "inst/conf" = ["work", "inst", "conf"] ∧
      place (place ["work"] "inst") "inst/conf" = ["work", "inst", "inst", "conf"] := by
  have hlibraries : libraries ["a.jar"] = ["a.jar"] := List.mergeSort_singleton _
  refine ⟨_, launch_stocked "inst" false, rfl, ?_, by decide, by decide⟩
  rw [assemble, classPath, hlibraries]
  rfl

/-- An absolute home is safe in every tree, and so is the directory that the tool stands in; one
below that is not. -/
theorem told_places_stocked :
    (∀ path ∈ ["/opt/ecc/conf", "/opt/ecc/lib/a.jar"], ∀ (tree : Tree) (here there : tree.Place),
      tree.follow there path = tree.follow here path) ∧
    (∀ path ∈ ["./conf", "./lib/a.jar"], ∀ here, place (place here ".") path = place here path) ∧
    ∀ path ∈ ["inst/conf", "inst/lib/a.jar"], ∀ here,
      place (place here "inst") path ≠ place here path := by
  have hfiles : ∀ {home}, ∀ files, stocked.Lists home files → files = ["a.jar"] := by
    intro home files hlists
    cases hlists with
    | listed there =>
      cases there
      rfl
    | missing gone => cases gone
  have hplain : ∀ {home}, ∀ files, stocked.Lists home files → ∀ name ∈ files, '/' ∉ name.toList := by
    intro home files hlists name hname
    rw [hfiles files hlists, List.mem_singleton] at hname
    rw [hname]
    decide
  have hlibraries : libraries ["a.jar"] = ["a.jar"] := List.mergeSort_singleton _
  have hmeaning : ∀ {home}, home ≠ "" → ∀ path ∈ told home ["a.jar"], Meaning home path := by
    intro home hhome
    obtain ⟨-, -, files, options, last, hlists, -, hmeaning⟩ :=
      told_places hhome hplain (launch_stocked home false)
    rw [hfiles files hlists, hlibraries] at hmeaning
    exact hmeaning
  refine ⟨fun path hpath => ?_, fun path hpath here => ?_, fun path hpath here hsame => ?_⟩
  · have hopt := @hmeaning "/opt/ecc/" (by decide) path hpath
    exact hopt.absolute (by decide)
  · have hdot := @hmeaning "." (by decide) path hpath
    exact (hdot.same_iff_of_down (by decide) (by decide) here).2 (by decide)
  · have hinst := @hmeaning "inst" (by decide) path hpath
    have hnames := (hinst.same_iff_of_down (by decide) (by decide) here).1 hsame
    exact absurd hnames (by decide)

end Launch
end RepairConsole
