import Mathlib.Data.List.Basic
import RepairConsole.Proofs.Launch.Places
import RepairConsole.Proofs.Text.Period
/-!
# What a class path is taken for

The service cuts its class path at every colon. It finds the places that were meant if and only if
none of them has a colon of its own; and yet no two installations are told the same text.
-/

namespace RepairConsole.Launch

open RepairConsole.Path (trunk isAbsolute join)

/-! ## Cutting at colons -/

/-- What the service takes a class path for: the texts between its colons. -/
def entries (value : String) : List String := (Text.splitAt ':' value.toList).map String.ofList

theorem entries_intercalate {parts : List String} (h : parts ≠ []) :
    entries (":".intercalate parts) = parts.flatMap entries := by
  have hcolon : ":" = String.singleton ':' := rfl
  rw [entries, hcolon, Text.splitAt_intercalate ':' h, List.map_flatMap]
  rfl

theorem entries_of_plain {part : String} (h : ':' ∉ part.toList) : entries part = [part] := by
  rw [entries, Text.splitAt_of_not_mem h, List.map_singleton, String.ofList_toList]

theorem plain_of_mem_entries {value part : String} (h : part ∈ entries value) :
    ':' ∉ part.toList := by
  obtain ⟨cs, hcs, rfl⟩ := List.mem_map.1 h
  rw [String.toList_ofList]
  exact Text.not_mem_of_mem_splitAt hcs

/-- Nothing is cut if and only if there is no colon to cut at. -/
theorem flatMap_entries_iff {parts : List String} :
    parts.flatMap entries = parts ↔ ∀ part ∈ parts, ':' ∉ part.toList := by
  constructor
  · intro h part hpart
    rw [← h] at hpart
    obtain ⟨whole, -, hmem⟩ := List.mem_flatMap.1 hpart
    exact plain_of_mem_entries hmem
  · intro h
    induction parts with
    | nil => rfl
    | cons part parts ih =>
      obtain ⟨hpart, hparts⟩ := List.forall_mem_cons.1 h
      rw [List.flatMap_cons, entries_of_plain hpart, ih hparts]
      rfl

/-! ## Cutting at slashes -/

/-- What stands behind the configuration in the text of a class path. -/
def further (home : String) : List String → List Char
  | [] => []
  | jar :: jars =>
    ':' :: (trunk home ++ '/' :: ("lib".toList ++ '/' :: (jar.toList ++ further home jars)))

/-- The names of libraries between slashes: all but the last go on to the next entry. -/
def labels (first : List Char) : List String → List (List Char)
  | [] => []
  | [jar] => [jar.toList]
  | jar :: next :: more => (jar.toList ++ ':' :: first) :: labels first (next :: more)

theorem labels_ne_nil {first : List Char} {jars : List String} (h : jars ≠ []) :
    labels first jars ≠ [] := by
  cases jars with
  | nil => exact absurd rfl h
  | cons jar jars => cases jars <;> exact List.cons_ne_nil _ _

theorem exists_of_mem_labels {first label : List Char} {jars : List String}
    (h : label ∈ (labels first jars).dropLast) :
    ∃ jar ∈ jars, label = jar.toList ++ ':' :: first := by
  induction jars with
  | nil => exact absurd h List.not_mem_nil
  | cons jar jars ih =>
    cases jars with
    | nil => exact absurd h List.not_mem_nil
    | cons next more =>
      rw [labels, List.dropLast_cons_of_ne_nil (labels_ne_nil (List.cons_ne_nil _ _)),
        List.mem_cons] at h
      rcases h with rfl | h
      · exact ⟨jar, List.mem_cons_self, rfl⟩
      · obtain ⟨other, hother, hlabel⟩ := ih h
        exact ⟨other, List.mem_cons_of_mem _ hother, hlabel⟩

theorem labels_injective {first : List Char} {jars jars' : List String}
    (h : labels first jars = labels first jars') : jars = jars' := by
  induction jars generalizing jars' with
  | nil =>
    by_contra hne
    exact labels_ne_nil (Ne.symm hne) h.symm
  | cons jar jars ih =>
    cases jars' with
    | nil => exact absurd h (labels_ne_nil (List.cons_ne_nil _ _))
    | cons jar' jars' =>
      cases jars with
      | nil =>
        cases jars' with
        | nil => rw [String.toList_inj.1 (List.cons.inj h).1]
        | cons next more =>
          exact absurd (List.cons.inj h).2.symm (labels_ne_nil (List.cons_ne_nil _ _))
      | cons next more =>
        cases jars' with
        | nil => exact absurd (List.cons.inj h).2 (labels_ne_nil (List.cons_ne_nil _ _))
        | cons next' more' =>
          obtain ⟨hhead, htail⟩ := List.cons.inj h
          rw [String.toList_inj.1 (List.append_cancel_right hhead), ih htail]

section Pieces

variable {home : String} {jars : List String}

theorem toList_library (hhome : home ≠ "") {jar : String} (hjar : '/' ∉ jar.toList) :
    (join (libraryDirectory home) jar).toList =
      trunk home ++ '/' :: ("lib".toList ++ '/' :: jar.toList) := by
  have hdirectory : (libraryDirectory home).toList = trunk home ++ '/' :: "lib".toList :=
    Path.toList_join hhome (by decide)
  have hne : libraryDirectory home ≠ "" := Path.join_ne_empty (by decide)
  have htrunk : trunk (libraryDirectory home) = trunk home ++ '/' :: "lib".toList := by
    rw [trunk, hdirectory, if_neg]
    simp
  rw [Path.toList_join hne (Path.not_isAbsolute_of_plain hjar), htrunk, List.append_assoc,
    List.cons_append]

theorem toList_told (hhome : home ≠ "") (hjars : ∀ jar ∈ jars, '/' ∉ jar.toList) :
    (":".intercalate (told home jars)).toList =
      trunk home ++ '/' :: ("conf".toList ++ further home jars) := by
  have hlibraries : ∀ start : String, (":".intercalate
      (start :: jars.map (join (libraryDirectory home)))).toList =
        start.toList ++ further home jars := by
    induction jars with
    | nil => simp [further]
    | cons jar jars ih =>
      intro start
      obtain ⟨hjar, hrest⟩ := List.forall_mem_cons.1 hjars
      rw [List.map_cons, String.intercalate_cons_cons, String.toList_append, ih hrest,
        toList_library hhome hjar, further]
      simp
  have hconf : (configuration home).toList = trunk home ++ '/' :: "conf".toList :=
    Path.toList_join hhome (by decide)
  rw [told, hlibraries, hconf, List.append_assoc, List.cons_append]

variable {first : List Char} {rest : List (List Char)}

theorem splitAt_further_cons (hhome : Text.splitAt '/' (trunk home) = first :: rest)
    {label : List Char} (hlabel : '/' ∉ label) (jar : String) (jars : List String) :
    Text.splitAt '/' (label ++ further home (jar :: jars)) =
      (label ++ ':' :: first) :: (rest ++ "lib".toList ::
        Text.splitAt '/' (jar.toList ++ further home jars)) := by
  have hfront : '/' ∉ label ++ [':'] := by
    rw [List.mem_append, not_or]
    exact ⟨hlabel, by decide⟩
  have hlib : '/' ∉ "lib".toList := by decide
  have htrunk : Text.splitAt '/' (trunk home ++ '/' ::
      ("lib".toList ++ '/' :: (jar.toList ++ further home jars))) =
        first :: (rest ++ "lib".toList :: Text.splitAt '/' (jar.toList ++ further home jars)) := by
    rw [Text.splitAt_append, hhome, Text.splitAt_append_mark hlib]
    rfl
  have hcut := Text.splitAt_append_left hfront htrunk
  rw [List.append_assoc, List.append_assoc] at hcut
  exact hcut

theorem splitAt_further (hhome : Text.splitAt '/' (trunk home) = first :: rest)
    {label : List Char} (hlabel : '/' ∉ label) (hne : jars ≠ [])
    (hjars : ∀ jar ∈ jars, '/' ∉ jar.toList) :
    Text.splitAt '/' (label ++ further home jars) =
      (label ++ ':' :: first) :: Text.refrain rest "lib".toList (labels first jars) := by
  induction jars generalizing label with
  | nil => exact absurd rfl hne
  | cons jar jars ih =>
    obtain ⟨hjar, hothers⟩ := List.forall_mem_cons.1 hjars
    rw [splitAt_further_cons hhome hlabel]
    cases jars with
    | nil =>
      rw [further, List.append_nil, Text.splitAt_of_not_mem hjar]
      simp [Text.refrain, labels]
    | cons next more =>
      rw [ih hjar (List.cons_ne_nil _ _) hothers]
      simp [Text.refrain, labels]

theorem getLast?_splitAt_further (home : String) {label : List Char} (hlabel : '/' ∉ label)
    (hjars : ∀ jar ∈ jars, '/' ∉ jar.toList) :
    (Text.splitAt '/' (label ++ further home jars)).getLast? =
      (label :: jars.map String.toList).getLast? := by
  induction jars generalizing label with
  | nil =>
    rw [further, List.append_nil, Text.splitAt_of_not_mem hlabel]
    rfl
  | cons jar jars ih =>
    obtain ⟨hjar, hothers⟩ := List.forall_mem_cons.1 hjars
    obtain ⟨first, rest, hhome⟩ := List.exists_cons_of_ne_nil (Text.splitAt_ne_nil '/' (trunk home))
    have hne := Text.splitAt_ne_nil '/' (jar.toList ++ further home jars)
    rw [splitAt_further_cons hhome hlabel, ← List.singleton_append (l := rest ++ _),
      ← List.append_assoc, List.append_cons, List.getLast?_append_of_ne_nil _ hne, ih hjar hothers]
    rfl

end Pieces

/-! ## One text, one installation -/

/-- A name that ends a class path without libraries is none of a library. -/
theorem eq_nil_of_getLast? {jars : List String} (hjars : ∀ jar ∈ jars, jar ≠ "conf")
    (h : ("conf".toList :: jars.map String.toList).getLast? = some "conf".toList) : jars = [] := by
  by_contra hne
  have hmap : jars.map String.toList ≠ [] := by simpa using hne
  rw [← List.singleton_append, List.getLast?_append_of_ne_nil _ hmap] at h
  obtain ⟨jar, hjar, hconf⟩ := List.mem_map.1 (List.mem_of_getLast? h)
  exact hjars jar hjar (String.toList_inj.1 hconf)

/-- The first entry goes on with the name of the configuration, which no library has. -/
theorem conf_not_mem_labels (first : List Char) {jars : List String}
    (hjars : ∀ jar ∈ jars, jar ≠ "conf") :
    "conf".toList ++ ':' :: first ∉ (labels first jars).dropLast := by
  intro hmem
  obtain ⟨jar, hjar, hlabel⟩ := exists_of_mem_labels hmem
  exact hjars jar hjar (String.toList_inj.1 (List.append_cancel_right hlabel).symm)

/-- A class path can be told apart from every other, for it repeats the installation behind each
library. -/
theorem told_injective {home home' : String} {jars jars' : List String} (hhome : home ≠ "")
    (hhome' : home' ≠ "") (hjars : ∀ jar ∈ jars, '/' ∉ jar.toList ∧ jar ≠ "conf")
    (hjars' : ∀ jar ∈ jars', '/' ∉ jar.toList ∧ jar ≠ "conf")
    (h : ":".intercalate (told home jars) = ":".intercalate (told home' jars')) :
    trunk home = trunk home' ∧ jars = jars' := by
  have hplain : ∀ jar ∈ jars, '/' ∉ jar.toList := fun jar hjar => (hjars jar hjar).1
  have hplain' : ∀ jar ∈ jars', '/' ∉ jar.toList := fun jar hjar => (hjars' jar hjar).1
  have hconf : '/' ∉ "conf".toList := by decide
  have htexts := congrArg (fun s => Text.splitAt '/' (String.toList s)) h
  simp only [toList_told hhome hplain, toList_told hhome' hplain', Text.splitAt_append] at htexts
  have hlast := congrArg List.getLast? htexts
  rw [List.getLast?_append_of_ne_nil _ (Text.splitAt_ne_nil _ _),
    List.getLast?_append_of_ne_nil _ (Text.splitAt_ne_nil _ _),
    getLast?_splitAt_further home hconf hplain,
    getLast?_splitAt_further home' hconf hplain'] at hlast
  by_cases hnone : jars = [] ∨ jars' = []
  · -- The last name of the text is that of the configuration, so there are no libraries at all.
    have hboth : jars = [] ∧ jars' = [] := by
      rcases hnone with rfl | rfl
      · exact ⟨rfl, eq_nil_of_getLast? (fun jar hjar => (hjars' jar hjar).2) hlast.symm⟩
      · exact ⟨eq_nil_of_getLast? (fun jar hjar => (hjars jar hjar).2) hlast, rfl⟩
    obtain ⟨rfl, rfl⟩ := hboth
    exact ⟨Text.splitAt_injective (List.append_cancel_right htexts), rfl⟩
  · rw [not_or] at hnone
    obtain ⟨first, rest, hcut⟩ := List.exists_cons_of_ne_nil (Text.splitAt_ne_nil '/' (trunk home))
    obtain ⟨first', rest', hcut'⟩ :=
      List.exists_cons_of_ne_nil (Text.splitAt_ne_nil '/' (trunk home'))
    rw [splitAt_further hcut hconf hnone.1 hplain, splitAt_further hcut' hconf hnone.2 hplain',
      hcut, hcut'] at htexts
    obtain ⟨rfl, hverse⟩ := List.cons.inj htexts
    have hseam : "conf".toList ++ ':' :: first ≠ "lib".toList := by
      simp
    have hinner := conf_not_mem_labels first fun jar hjar => (hjars jar hjar).2
    have hinner' := conf_not_mem_labels first fun jar hjar => (hjars' jar hjar).2
    obtain ⟨rfl, hlabels⟩ := Text.verse_injective hseam hinner hinner'
      (labels_ne_nil hnone.1) (labels_ne_nil hnone.2) hverse
    exact ⟨Text.splitAt_injective (hcut.trans hcut'.symm), labels_injective hlabels⟩

/-! ## Command lines -/

/-- The command line has this class path. -/
def Gives (made : Launch) (value : String) : Prop := ["-cp", value, mainClass] <:+: made.arguments

/-- An installation whose library directory holds these files came to this command line. The names
of files have no slash. -/
structure Launched (home : String) (files : List String) (made : Launch) : Prop where
  home_ne : home ≠ ""
  plain : ∀ name ∈ files, '/' ∉ name.toList
  launch : ∃ (disk : Disk) (foreground : Bool),
    disk.Lists home files ∧ disk.launch home foreground = .ok made

theorem Disk.Lists.unique {disk : Disk} {home : String} {files files' : List String}
    (h : disk.Lists home files) (h' : disk.Lists home files') : files = files' := by
  cases h with
  | listed there =>
    cases h' with
    | listed there' => rw [Except.ok.inj (there.symm.trans there')]
    | missing gone => exact nomatch there.symm.trans gone
  | missing gone =>
    cases h' with
    | listed there => exact nomatch there.symm.trans gone
    | missing => rfl

theorem Launched.exists_assemble {home : String} {files : List String} {made : Launch}
    (h : Launched home files made) :
    ∃ text foreground, made = assemble home text files foreground := by
  obtain ⟨disk, foreground, hlists, hlaunch⟩ := h.launch
  have hyields := disk.yields_launch home foreground
  rw [hlaunch] at hyields
  cases hyields with
  | @assembled text names holds lists => exact ⟨text, foreground, by rw [hlists.unique lists]⟩

theorem mainClass_not_mem_options (text : String) : mainClass ∉ options text := by
  intro h
  have hdash := (List.mem_filter.1 h).2
  revert hdash
  decide

theorem mainClass_not_mem_front (text home : String) {value : String} (h : '/' ∈ value.toList) :
    mainClass ∉
      options text ++ ["-Decchronos.config=" ++ configuration home, "-cp", value] := by
  have hvalue : mainClass ≠ value := by
    rintro rfl
    exact absurd h (by decide)
  have hflag : mainClass ≠ "-Decchronos.config=" ++ configuration home := by
    intro hmain
    have hhead := congrArg (fun s => (String.toList s).head?) hmain
    simp [mainClass] at hhead
  simp only [List.mem_append, List.mem_cons, List.not_mem_nil, not_or]
  exact ⟨mainClass_not_mem_options text, hflag, by decide, hvalue, id⟩

theorem Launched.gives_iff {home : String} {files : List String} {made : Launch}
    (h : Launched home files made) (value : String) :
    made.Gives value ↔ value = ":".intercalate (told home (libraries files)) := by
  obtain ⟨text, foreground, rfl⟩ := h.exists_assemble
  have hclassPath : classPath home files = ":".intercalate (told home (libraries files)) := rfl
  have harguments : (assemble home text files foreground).arguments =
      (options text ++ ["-Decchronos.config=" ++ configuration home, "-cp", classPath home files]) ++
        mainClass :: (if foreground then ["-f"] else []) := by
    simp [assemble]
  constructor
  · rintro ⟨before, after, hinfix⟩
    have hslash : '/' ∈ (classPath home files).toList := by
      rw [hclassPath, toList_told h.home_ne fun jar hjar => h.plain jar (mem_libraries.1 hjar).1]
      simp
    -- The main class stands in one place only.
    have hfront := mainClass_not_mem_front text home hslash
    have hlast : mainClass ∉ (if foreground then ["-f"] else []) := by
      cases foreground <;> decide
    have hsplit : before ++ ["-cp", value] ++ mainClass :: after =
        (assemble home text files foreground).arguments := by
      rw [← hinfix]
      simp
    rw [harguments, eq_comm, List.append_cons_inj_of_notMem hfront hlast] at hsplit
    have hend := congrArg List.getLast? hsplit.1
    simp only [List.getLast?_append_of_ne_nil _ (List.cons_ne_nil _ _)] at hend
    exact (Option.some.inj hend).symm
  · rintro rfl
    refine ⟨options text ++ ["-Decchronos.config=" ++ configuration home],
      if foreground then ["-f"] else [], ?_⟩
    rw [harguments, hclassPath]
    simp

theorem Launched.libraries_plain {home : String} {files : List String} {made : Launch}
    (h : Launched home files made) :
    ∀ jar ∈ libraries files, '/' ∉ jar.toList ∧ jar ≠ "conf" := by
  intro jar hjar
  obtain ⟨hfile, hextension⟩ := mem_libraries.1 hjar
  refine ⟨h.plain jar hfile, ?_⟩
  rintro rfl
  exact absurd hextension (by decide)

/-- What is told has a colon if and only if the installation has one, or a library. -/
theorem told_plain_iff {home : String} {jars : List String} (hhome : home ≠ "")
    (hjars : ∀ jar ∈ jars, '/' ∉ jar.toList) :
    (∀ path ∈ told home jars, ':' ∉ path.toList) ↔
      ':' ∉ home.toList ∧ ∀ jar ∈ jars, ':' ∉ jar.toList := by
  have hconf : ':' ∈ (configuration home).toList ↔ ':' ∈ home.toList := by
    rw [configuration, Path.toList_join hhome (by decide), List.mem_append,
      Path.mem_trunk_iff (by decide)]
    simp
  have hlibrary : ∀ jar ∈ jars, (':' ∈ (join (libraryDirectory home) jar).toList ↔
      ':' ∈ home.toList ∨ ':' ∈ jar.toList) := by
    intro jar hjar
    rw [toList_library hhome (hjars jar hjar), List.mem_append, Path.mem_trunk_iff (by decide)]
    simp
  rw [told, List.forall_mem_cons, hconf, List.forall_mem_map]
  constructor
  · rintro ⟨hhome, hall⟩
    exact ⟨hhome, fun jar hjar hcolon => hall jar hjar ((hlibrary jar hjar).2 (Or.inr hcolon))⟩
  · rintro ⟨hhome, hall⟩
    refine ⟨hhome, fun jar hjar hcolon => ?_⟩
    exact ((hlibrary jar hjar).1 hcolon).elim hhome (hall jar hjar)

/-- The service takes the class path for the places that were meant exactly if neither the
installation nor a library has a colon in its name; else the places are cut at their colons. All the
same the text is told of one installation only, but for a slash at the end of its home. -/
theorem class_path_entries {home : String} {files : List String} {made : Launch}
    (h : Launched home files made) :
    ∃ value, (∀ other, made.Gives other ↔ other = value) ∧
      entries value = (told home (libraries files)).flatMap entries ∧
      (entries value = told home (libraries files) ↔
        ':' ∉ home.toList ∧ ∀ jar ∈ libraries files, ':' ∉ jar.toList) ∧
      ∀ {home' files' made'}, Launched home' files' made' → made'.Gives value →
        (home = home' ∨ home = home' ++ "/" ∨ home' = home ++ "/") ∧
          libraries files = libraries files' := by
  have hjars := h.libraries_plain
  have hentries : entries (":".intercalate (told home (libraries files))) =
      (told home (libraries files)).flatMap entries := entries_intercalate (List.cons_ne_nil _ _)
  refine ⟨_, h.gives_iff, hentries, ?_, fun h' hgives => ?_⟩
  · rw [hentries, flatMap_entries_iff, told_plain_iff h.home_ne fun jar hjar => (hjars jar hjar).1]
  · obtain ⟨htrunk, hlibraries⟩ := told_injective h.home_ne h'.home_ne hjars h'.libraries_plain
      ((h'.gives_iff _).1 hgives)
    exact ⟨Path.eq_or_slash_of_trunk htrunk, hlibraries⟩

theorem launched_stocked {home : String} (h : home ≠ "") :
    Launched home ["a.jar"] (assemble home "" ["a.jar"] false) := by
  have hlists : stocked.Lists home ([.ok "a.jar"].filterMap Except.toOption) := .listed rfl
  exact ⟨h, by decide, stocked, false, hlists, launch_stocked home false⟩

theorem class_path_entries_stocked :
    ∃ made value, stocked.launch "/opt/ecc" false = .ok made ∧ made.Gives value ∧
      entries value = ["/opt/ecc/conf", "/opt/ecc/lib/a.jar"] := by
  have hlaunched : Launched "/opt/ecc" ["a.jar"] _ := launched_stocked (by decide)
  obtain ⟨value, hgives, -, hentries, -⟩ := class_path_entries hlaunched
  have hlibraries : libraries ["a.jar"] = ["a.jar"] := List.mergeSort_singleton _
  rw [hlibraries] at hentries
  exact ⟨_, value, launch_stocked "/opt/ecc" false, (hgives value).2 rfl,
    hentries.2 (by decide)⟩

/-- The service is to look for its configuration in `/a:b/conf`, and looks in `/a`. -/
theorem colon_cuts_class_path :
    ∃ made, Launched "/a:b" ["a.jar"] made ∧ made.Gives "/a:b/conf:/a:b/lib/a.jar" ∧
      told "/a:b" (libraries ["a.jar"]) = ["/a:b/conf", "/a:b/lib/a.jar"] ∧
      entries "/a:b/conf:/a:b/lib/a.jar" = ["/a", "b/conf", "/a", "b/lib/a.jar"] ∧
      entries "/a:b/conf:/a:b/lib/a.jar" ≠ told "/a:b" (libraries ["a.jar"]) := by
  have hlaunched : Launched "/a:b" ["a.jar"] _ := launched_stocked (by decide)
  have hlibraries : libraries ["a.jar"] = ["a.jar"] := List.mergeSort_singleton _
  have htold : told "/a:b" (libraries ["a.jar"]) = ["/a:b/conf", "/a:b/lib/a.jar"] := by
    rw [hlibraries]
    decide
  refine ⟨_, hlaunched, (hlaunched.gives_iff _).2 ?_, htold, by decide, ?_⟩
  · rw [htold]
    decide
  · rw [htold]
    decide

end RepairConsole.Launch
