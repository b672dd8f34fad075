import RepairConsole.Path
import RepairConsole.Proofs.Text.Cut
import RepairConsole.Proofs.Text.Split
/-!
# Where paths lead

A path that was put together goes through the names of its parts, one after the other. What the
names lead to is a matter of the tree they are followed in.
-/

namespace RepairConsole

namespace Path

/-- The names between slashes that lead anywhere. -/
def namesOf (cs : List Char) : List String :=
  ((Text.splitAt '/' cs).map String.ofList).filter fun name => name != "" && name != "."

theorem names_eq (path : String) : names path = namesOf path.toList := rfl

theorem namesOf_append (front rest : List Char) :
    namesOf (front ++ '/' :: rest) = namesOf front ++ namesOf rest := by
  unfold namesOf
  rw [Text.splitAt_append, List.map_append, List.filter_append]

theorem namesOf_nil : namesOf [] = [] := rfl

/-- A slash at the end leads nowhere. -/
theorem namesOf_slash (front : List Char) : namesOf (front ++ ['/']) = namesOf front := by
  rw [namesOf_append, namesOf_nil, List.append_nil]

theorem names_of_plain {name : String} (hslash : '/' ∉ name.toList) (hempty : name ≠ "")
    (hdot : name ≠ ".") : names name = [name] := by
  rw [names_eq, namesOf, Text.splitAt_of_not_mem hslash, List.map_singleton, String.ofList_toList,
    List.filter_cons_of_pos, List.filter_nil]
  simp [hempty, hdot]

theorem not_isAbsolute_of_plain {name : String} (hslash : '/' ∉ name.toList) :
    isAbsolute name = false := by
  rw [isAbsolute, beq_eq_false_iff_ne]
  intro hhead
  exact hslash (List.mem_of_head? hhead)

/-! ## Paths that are put together -/

variable {base rest : String}

theorem names_join (h : isAbsolute rest = false) :
    names (join base rest) = names base ++ names rest := by
  rw [join, h, if_neg Bool.false_ne_true]
  split
  · next hend =>
    -- No slash is put in: the base is empty, or its last slash serves.
    rw [Bool.or_eq_true] at hend
    rcases hend with hempty | hslash
    · rw [String.isEmpty_iff.1 hempty, String.empty_append]
      rfl
    · obtain ⟨front, hfront⟩ := List.getLast?_eq_some_iff.1 (beq_iff_eq.1 hslash)
      rw [names_eq, names_eq, names_eq, String.toList_append, hfront, namesOf_slash,
        List.append_assoc, List.singleton_append, namesOf_append]
  · rw [names_eq, names_eq, names_eq, String.toList_append, String.toList_append,
      List.append_assoc]
    exact namesOf_append base.toList rest.toList

theorem isAbsolute_join (hbase : base ≠ "") (h : isAbsolute rest = false) :
    isAbsolute (join base rest) = isAbsolute base := by
  obtain ⟨c, cs, hcs⟩ := List.exists_cons_of_ne_nil (mt String.toList_eq_nil_iff.1 hbase)
  rw [join, h, if_neg Bool.false_ne_true]
  unfold isAbsolute
  split
  · rw [String.toList_append, hcs]
    rfl
  · rw [String.toList_append, String.toList_append, hcs]
    rfl

theorem join_ne_empty (h : rest ≠ "") : join base rest ≠ "" := by
  unfold join
  split
  · exact h
  · split
    · simp [h]
    · simp [h]

/-- A path begins from the root or from where one stands. -/
theorem place_eq (here : List String) (path : String) :
    place here path = (names path).foldl step (if isAbsolute path then [] else here) := rfl

/-! ## The slash at the end -/

/-- A path without the slash at its end. -/
def trunk (home : String) : List Char :=
  if home.toList.getLast? = some '/' then home.toList.dropLast else home.toList

theorem toList_join {home rest : String} (hhome : home ≠ "") (h : isAbsolute rest = false) :
    (join home rest).toList = trunk home ++ '/' :: rest.toList := by
  rw [join, h, if_neg Bool.false_ne_true, trunk]
  split
  · next hend =>
    have hslash : home.toList.getLast? = some '/' := by
      rw [Bool.or_eq_true, beq_iff_eq, String.isEmpty_iff] at hend
      exact hend.resolve_left hhome
    obtain ⟨front, hfront⟩ := List.getLast?_eq_some_iff.1 hslash
    rw [if_pos hslash, String.toList_append, hfront, List.dropLast_concat]
    simp
  · next hend =>
    rw [Bool.or_eq_true, beq_iff_eq, not_or] at hend
    rw [if_neg hend.2]
    simp

/-- Two paths that are one but for the slash at the end. -/
theorem eq_or_slash_of_trunk {home home' : String} (h : trunk home = trunk home') :
    home = home' ∨ home = home' ++ "/" ∨ home' = home ++ "/" := by
  have hspell : ∀ path : String, path.toList.getLast? = some '/' →
      path.toList = path.toList.dropLast ++ ['/'] := by
    intro path hlast
    obtain ⟨front, hfront⟩ := List.getLast?_eq_some_iff.1 hlast
    rw [hfront, List.dropLast_concat]
  unfold trunk at h
  split at h
  · next hslash =>
    split at h
    · next hslash' =>
      refine Or.inl (String.toList_inj.1 ?_)
      rw [hspell home hslash, h, ← hspell home' hslash']
    · refine Or.inr (Or.inl (String.toList_inj.1 ?_))
      rw [String.toList_append, ← h]
      exact hspell home hslash
  · split at h
    · next hslash' =>
      refine Or.inr (Or.inr (String.toList_inj.1 ?_))
      rw [String.toList_append, h]
      exact hspell home' hslash'
    · exact Or.inl (String.toList_inj.1 h)

theorem mem_trunk_iff {home : String} {c : Char} (hc : c ≠ '/') :
    c ∈ trunk home ↔ c ∈ home.toList := by
  unfold trunk
  split
  · next hslash =>
    obtain ⟨front, hfront⟩ := List.getLast?_eq_some_iff.1 hslash
    rw [hfront, List.dropLast_concat]
    simp [hc]
  · exact Iff.rfl

/-! ## Extensions -/

theorem extension?_eq_some_iff {name ext : String} :
    extension? name = some ext ↔
      ∃ stem, stem ≠ "" ∧ name = stem ++ "." ++ ext ∧ '.' ∉ ext.toList := by
  unfold extension?
  constructor
  · intro h
    split at h
    · next after c rest hspan =>
      rcases Text.span_cases (· != '.') name.toList.reverse with
        ⟨hall, -⟩ | ⟨front, mark, before, hname, hfront, -, hcut⟩
      · rw [hall] at hspan
        cases (Prod.mk.inj hspan).2
      · rw [hcut] at hspan
        obtain ⟨rfl, hbefore⟩ := Prod.mk.inj hspan
        rw [hbefore] at hname
        obtain rfl := Option.some.inj h
        refine ⟨String.ofList (c :: rest).reverse, ?_, ?_, ?_⟩
        · intro hempty
          have hnil := congrArg String.toList hempty
          simp at hnil
        · rw [← String.toList_inj, ← List.reverse_inj, hname]
          simp
        · rw [String.toList_ofList, List.mem_reverse]
          intro hdot
          exact absurd (hfront _ hdot) (by simp)
    · cases h
  · rintro ⟨stem, hstem, rfl, hdot⟩
    have hreverse : (stem ++ "." ++ ext).toList.reverse =
        ext.toList.reverse ++ '.' :: stem.toList.reverse := by simp
    have hplain : ∀ c ∈ ext.toList.reverse, (c != '.') = true := by
      intro c hc
      rw [bne_iff_ne]
      rintro rfl
      exact hdot (List.mem_reverse.1 hc)
    have hne : stem.toList.reverse ≠ [] := by simpa using hstem
    obtain ⟨c, before, hbefore⟩ := List.exists_cons_of_ne_nil hne
    rw [hreverse, Text.span_append_cons hplain (by decide), hbefore]
    simp

/-! ## Trees -/

/-- A tree of files as a host has it: its root, and where one gets from a place by a name. A link is
a name that leads elsewhere. -/
structure Tree where
  Place : Type
  root : Place
  enter : Place → String → Option Place

namespace Tree

variable {tree : Tree} {here : tree.Place}

/-- Goes on by some names, one after the other. -/
def walk (tree : Tree) (here : tree.Place) (names : List String) : Option tree.Place :=
  names.foldlM tree.enter here

/-- What a path leads to for one who stands in `here`. -/
def follow (tree : Tree) (here : tree.Place) (path : String) : Option tree.Place :=
  tree.walk (if isAbsolute path then tree.root else here) (names path)

theorem walk_append (front rest : List String) :
    tree.walk here (front ++ rest) =
      (tree.walk here front).bind fun place => tree.walk place rest := by
  unfold walk
  rw [List.foldlM_append]
  rfl

theorem follow_of_isAbsolute {path : String} (h : isAbsolute path = true)
    (here there : tree.Place) : tree.follow here path = tree.follow there path := by
  unfold follow
  rw [if_pos h, if_pos h]

theorem follow_join (hbase : base ≠ "") (h : isAbsolute rest = false) :
    tree.follow here (join base rest) =
      (tree.follow here base).bind fun place => tree.follow place rest := by
  unfold follow
  rw [names_join h, isAbsolute_join hbase h, walk_append, h]
  rfl

end Tree
end Path
end RepairConsole
