import RepairConsole.Proofs.Report.Columns
import RepairConsole.Proofs.Report.Tally
import Mathlib.Data.List.Lex
import Mathlib.Data.List.Nodup
import Mathlib.Data.String.Basic
/-!
# Rows in order

Rows come in ascending order of a key, and those of one key as the service sent them. Only one
order is such. A limit takes the rows from its front, so where no two records have the same key it
does not matter in which order they were sent. All of them are printed, or none if a cell does not
fit.
-/

namespace RepairConsole.Report

/-! ## Stable orders -/

section StableOrder

variable {α κ : Type} [LinearOrder κ] {key : α → κ} {all ordered other : List α}

/-- All rows in ascending order of a key. Those of one key are in the order in which they came. -/
structure StableOrder (key : α → κ) (all ordered : List α) : Prop where
  perm : ordered.Perm all
  ascending : ordered.Pairwise fun a b => key a ≤ key b
  stable : ∀ k, ordered.filter (key · = k) = all.filter (key · = k)

theorem mem_of_filters_eq (h : ∀ k, ordered.filter (key · = k) = other.filter (key · = k)) {a : α}
    (ha : a ∈ ordered) : a ∈ other := by
  have hmem : a ∈ ordered.filter (key · = key a) := List.mem_filter.2 ⟨ha, by simp⟩
  rw [h] at hmem
  exact List.mem_of_mem_filter hmem

theorem eq_of_ascending (hordered : ordered.Pairwise fun a b => key a ≤ key b)
    (hother : other.Pairwise fun a b => key a ≤ key b)
    (h : ∀ k, ordered.filter (key · = k) = other.filter (key · = k)) : ordered = other := by
  induction ordered generalizing other with
  | nil =>
    cases other with
    | nil => rfl
    | cons b rest => simpa using h (key b)
  | cons a rest ih =>
    cases other with
    | nil => simpa using h (key a)
    | cons b rest' =>
      obtain ⟨ha, hrest⟩ := List.pairwise_cons.1 hordered
      obtain ⟨hb, hrest'⟩ := List.pairwise_cons.1 hother
      -- Neither of the two heads can come before the other.
      have hle : key a ≤ key b := by
        have hmem : b ∈ a :: rest := mem_of_filters_eq (fun k => (h k).symm) List.mem_cons_self
        rcases List.mem_cons.1 hmem with rfl | hmem
        · exact le_refl _
        · exact ha b hmem
      have hge : key b ≤ key a := by
        have hmem : a ∈ b :: rest' := mem_of_filters_eq h List.mem_cons_self
        rcases List.mem_cons.1 hmem with rfl | hmem
        · exact le_refl _
        · exact hb a hmem
      have hkey : key b = key a := le_antisymm hge hle
      have hhead := h (key a)
      simp only [List.filter_cons, hkey, decide_true, if_true, List.cons.injEq] at hhead
      obtain ⟨rfl, -⟩ := hhead
      have htail : ∀ k, rest.filter (key · = k) = rest'.filter (key · = k) := by
        intro k
        have hk := h k
        by_cases hak : key a = k
        · simpa [List.filter_cons, hak] using hk
        · simpa [List.filter_cons, hak] using hk
      rw [ih hrest hrest' htail]

theorem StableOrder.unique (h : StableOrder key all ordered) (h' : StableOrder key all other) :
    other = ordered :=
  eq_of_ascending h'.ascending h.ascending fun k => (h'.stable k).trans (h.stable k).symm

end StableOrder

/-! ## Sorting -/

section Sorting

variable {α β γ κ : Type} [LinearOrder κ]

/-- The test puts values in the order of their ranks. -/
def OrdersBy (inOrder : β → β → Bool) (rank : β → κ) : Prop :=
  ∀ x y, inOrder x y = true ↔ rank x ≤ rank y

variable {inOrder : β → β → Bool} {rank : β → κ}

theorem OrdersBy.trans (h : OrdersBy inOrder rank) (x y z : β) (hxy : inOrder x y = true)
    (hyz : inOrder y z = true) : inOrder x z = true := by
  rw [h] at hxy hyz ⊢
  exact le_trans hxy hyz

theorem OrdersBy.total (h : OrdersBy inOrder rank) (x y : β) :
    (inOrder x y || inOrder y x) = true := by
  rw [Bool.or_eq_true, h, h]
  exact le_total _ _

theorem OrdersBy.on (h : OrdersBy inOrder rank) (key : α → β) :
    OrdersBy (fun a b => inOrder (key a) (key b)) fun a => rank (key a) := fun _ _ => h _ _

variable {key : α → β} {all other : List α}

theorem pairwise_sortOn (h : OrdersBy inOrder rank) (key : α → β) (all : List α) :
    (sortOn inOrder key all).Pairwise fun a b => rank (key a) ≤ rank (key b) := by
  have hsorted := List.pairwise_mergeSort (h.on key).trans (h.on key).total all
  exact hsorted.imp fun hle => (h _ _).1 hle

theorem stableOrder_sortOn (h : OrdersBy inOrder rank) (key : α → β) (all : List α) :
    StableOrder (fun a => rank (key a)) all (sortOn inOrder key all) := by
  have hperm : (sortOn inOrder key all).Perm all := List.mergeSort_perm all _
  refine ⟨hperm, pairwise_sortOn h key all, fun k => ?_⟩
  -- Rows of one key are in order as they came, so sorting keeps them as a sublist.
  have hsame : (all.filter (fun a => rank (key a) = k)).Pairwise
      fun a b => inOrder (key a) (key b) = true := by
    rw [List.pairwise_iff_forall_sublist]
    intro a b hab
    have ha := List.of_mem_filter (hab.subset (by simp : a ∈ [a, b]))
    have hb := List.of_mem_filter (hab.subset (by simp : b ∈ [a, b]))
    simp only [decide_eq_true_eq] at ha hb
    rw [h, ha, hb]
  have hsub : (all.filter (fun a => rank (key a) = k)).Sublist (sortOn inOrder key all) :=
    List.sublist_mergeSort (h.on key).trans (h.on key).total hsame List.filter_sublist
  have hfilter := hsub.filter (fun a => rank (key a) = k)
  rw [List.filter_filter] at hfilter
  simp only [Bool.and_self] at hfilter
  exact (hfilter.eq_of_length (hperm.filter _).length_eq.symm).symm

/-- Where no two rows have the same rank it does not matter in which order they came. -/
theorem sortOn_of_perm (h : OrdersBy inOrder rank)
    (hinj : ∀ a ∈ all, ∀ b ∈ all, rank (key a) = rank (key b) → a = b) (hperm : other.Perm all) :
    sortOn inOrder key other = sortOn inOrder key all := by
  have hsorted : (sortOn inOrder key other).Perm (sortOn inOrder key all) :=
    (List.mergeSort_perm other _).trans (hperm.trans (List.mergeSort_perm all _).symm)
  refine List.Perm.eq_of_pairwise ?_ (pairwise_sortOn h key other) (pairwise_sortOn h key all)
    hsorted
  intro a b ha hb hab hba
  have ha : a ∈ all := hperm.subset (List.mem_mergeSort.1 ha)
  have hb : b ∈ all := List.mem_mergeSort.1 hb
  exact hinj a ha b hb (le_antisymm hab hba)

/-- What is made of the sorted rows depends on nothing but their keys and what is made of each. -/
theorem map_sortOn_congr {row : α → γ}
    (h : other.map (fun a => (key a, row a)) = all.map fun a => (key a, row a)) :
    (sortOn inOrder key other).map row = (sortOn inOrder key all).map row := by
  have hpairs : ∀ rows : List α, (sortOn inOrder key rows).map row =
      (sortOn inOrder Prod.fst (rows.map fun a => (key a, row a))).map Prod.snd := by
    intro rows
    have hmap : (sortOn inOrder key rows).map (fun a => (key a, row a)) =
        sortOn inOrder Prod.fst (rows.map fun a => (key a, row a)) :=
      List.map_mergeSort fun _ _ _ _ => rfl
    rw [← hmap, List.map_map]
    rfl
  rw [hpairs, hpairs, h]

end Sorting

/-! ## Texts by code points -/

/-- The numbers of the characters of texts, by which they are compared. -/
def codePoints (texts : List String) : List (List Nat) :=
  texts.map fun text => text.toList.map Char.toNat

theorem chars_injective {s t : String} (h : s.toList.map Char.toNat = t.toList.map Char.toNat) :
    s = t :=
  String.toList_inj.1 (List.map_injective_iff.2 (fun _ _ hc => Char.toNat_inj.1 hc) h)

theorem codePoints_injective {a b : List String} (h : codePoints a = codePoints b) : a = b :=
  List.map_injective_iff.2 (fun _ _ => chars_injective) h

theorem lex_map {α β : Type} {r : α → α → Prop} {s : β → β → Prop} {f : α → β}
    (hf : ∀ a b, s (f a) (f b) ↔ r a b) (hinj : ∀ a b, f a = f b → a = b) {l l' : List α} :
    List.Lex s (l.map f) (l'.map f) ↔ List.Lex r l l' := by
  induction l generalizing l' with
  | nil => cases l' <;> simp
  | cons a l ih =>
    cases l' with
    | nil => simp
    | cons b l' =>
      simp only [List.map_cons, List.cons_lex_cons_iff, hf, ih]
      constructor
      · rintro (h | ⟨h, h'⟩)
        · exact Or.inl h
        · exact Or.inr ⟨hinj a b h, h'⟩
      · rintro (h | ⟨rfl, h'⟩)
        · exact Or.inl h
        · exact Or.inr ⟨rfl, h'⟩

theorem chars_lt_iff (s t : String) :
    s.toList.map Char.toNat < t.toList.map Char.toNat ↔ s < t := by
  rw [String.lt_iff_toList_lt]
  exact lex_map (fun _ _ => Iff.rfl) fun _ _ h => Char.toNat_inj.1 h

theorem ordersBy_textsInOrder : OrdersBy textsInOrder codePoints := by
  intro a b
  have hlex : codePoints b < codePoints a ↔ List.Lex (· < ·) b a :=
    lex_map chars_lt_iff fun _ _ => chars_injective
  rw [textsInOrder, Bool.not_eq_true', ← not_lt, hlex, ← Bool.not_eq_true,
    List.lex_eq_true_iff_lex]
  simp only [decide_eq_true_eq]

theorem ordersBy_text : OrdersBy (fun a b : String => decide (a ≤ b))
    fun text => text.toList.map Char.toNat := by
  intro a b
  rw [decide_eq_true_eq, ← not_lt, ← chars_lt_iff, not_lt]

theorem ordersBy_int : OrdersBy (fun a b : Int => decide (a ≤ b)) id := fun _ _ =>
  decide_eq_true_iff

/-! ## Rows of a report -/

/-- How many of `n` rows are shown under a limit, of which a negative one is none. -/
def extent (limit : Int) (n : Nat) : Nat := if limit < 0 then n else min limit.toNat n

theorem upTo_limitOf {α : Type} (limit : Int) (rows : List α) :
    upTo (limitOf limit) rows = rows.take (extent limit rows.length) := by
  unfold limitOf extent
  by_cases h : limit < 0
  · rw [if_neg (by omega), if_pos h, List.take_length]
    rfl
  · rw [if_pos (by omega), if_neg h, ← List.take_eq_take_min]
    rfl

theorem shown_limitOf (limit : Int) (n : Nat) : shown (limitOf limit) n = extent limit n := by
  unfold shown limitOf extent
  by_cases h : limit < 0
  · rw [if_neg (by omega), if_pos h]
    rfl
  · rw [if_pos (by omega), if_neg h]
    rfl

theorem extent_le_extent {limit wider : Int} (h : wider < 0 ∨ 0 ≤ limit ∧ limit ≤ wider) (n : Nat) :
    extent limit n ≤ extent wider n := by
  unfold extent
  split <;> split <;> omega

theorem map_upTo {α β : Type} (f : α → β) (limit : Option Nat) (rows : List α) :
    (upTo limit rows).map f = upTo limit (rows.map f) := by
  cases limit with
  | none => rfl
  | some n => exact List.map_take

section Reports

variable {α κ : Type} [LinearOrder κ]

/-- Under every limit the report has a table of the first rows of one and the same order: the `i`-th
line of its body shows the cells of the `i`-th record. It is printed if all of them fit. -/
def ListsInOrder (key : α → κ) (all : List α) (headers : List String) (cells : α → List String)
    (parts : Int → List Part) (above below : Nat) : Prop :=
  ∃ ordered, StableOrder key all ordered ∧ (∀ other, StableOrder key all other → other = ordered) ∧
    (∀ limit, PrintsTable (parts limit) above below headers
      ((ordered.take (extent limit all.length)).map cells)
      (extent limit all.length + (above + below + 2))) ∧
    ∀ limit wider, (wider < 0 ∨ 0 ≤ limit ∧ limit ≤ wider) →
      ordered.take (extent limit all.length) <+: ordered.take (extent wider all.length)

theorem listsInOrder {β : Type} {inOrder : β → β → Bool} {rank : β → κ}
    (h : OrdersBy inOrder rank) (key : α → β) (all : List α) {headers : List String}
    {cells : α → List String} {parts : Option Nat → List Part} {above below : Nat}
    (hprints : ∀ limit, PrintsTable (parts limit) above below headers
      ((upTo limit (sortOn inOrder key all)).map cells)
      (shown limit all.length + (above + below + 2))) :
    ListsInOrder (fun a => rank (key a)) all headers cells (fun limit => parts (limitOf limit))
      above below := by
  have hordered := stableOrder_sortOn h key all
  refine ⟨_, hordered, fun other => hordered.unique, fun limit => ?_, fun limit wider hwider => ?_⟩
  · have hlimit := hprints (limitOf limit)
    rw [upTo_limitOf, hordered.perm.length_eq, shown_limitOf] at hlimit
    exact hlimit
  · exact List.take_prefix_take_left (extent_le_extent hwider _)

/-- Where no two records have the same key, the report does not tell in which order they came. -/
def Orderless {β γ : Type} (key : α → β) (report : List α → γ) : Prop :=
  ∀ all other : List α, (all.map key).Nodup → other.Perm all → report other = report all

theorem sortOn_of_nodup {β : Type} {inOrder : β → β → Bool} {rank : β → κ}
    (h : OrdersBy inOrder rank) (hrank : ∀ x y, rank x = rank y → x = y) {key : α → β}
    {all other : List α} (hnodup : (all.map key).Nodup) (hperm : other.Perm all) :
    sortOn inOrder key other = sortOn inOrder key all := by
  refine sortOn_of_perm h (fun a ha b hb hab => ?_) hperm
  exact List.inj_on_of_nodup_map hnodup ha hb (hrank _ _ hab)

end Reports

theorem schedulesParts_orderless (now : Calendar.Moment) (limit : Option Nat) :
    Orderless scheduleKey fun all => schedulesParts now limit all := by
  intro all other hnodup hperm
  simp only [schedulesParts,
    sortOn_of_nodup ordersBy_textsInOrder (fun _ _ => codePoints_injective) hnodup hperm,
    summaryLine_of_perm (hperm.map _)]

theorem repairsParts_orderless (limit : Option Nat) : Orderless repairKey (repairsParts limit) := by
  intro all other hnodup hperm
  simp only [repairsParts,
    sortOn_of_nodup ordersBy_textsInOrder (fun _ _ => codePoints_injective) hnodup hperm,
    summaryLine_of_perm (hperm.map _)]

theorem repairInfoParts_orderless (limit : Option Nat) (info : RepairInfo) :
    Orderless statsKey fun stats => repairInfoParts limit { info with repairStats := stats } := by
  intro all other hnodup hperm
  simp only [repairInfoParts, windowLine,
    sortOn_of_nodup ordersBy_textsInOrder (fun _ _ => codePoints_injective) hnodup hperm]

theorem Orderless.set {β : Type} {key : α → β} {parts : List α → List Part}
    (h : Orderless key parts) : Orderless key fun all => set (parts all) :=
  fun all other hnodup hperm => congrArg _ (h all other hnodup hperm)

/-! ## Virtual nodes -/

theorem virtualNodesPart_orderless (limit : Option Nat) :
    Orderless VirtualNode.lastRepairedAtInMs (virtualNodesPart limit) := by
  intro all other hnodup hperm
  simp only [virtualNodesPart, sortOn_of_nodup ordersBy_int (fun _ _ => id) hnodup hperm]

/-- The virtual node with the same replicas in another order. -/
def SameButReplicas (node other : VirtualNode) : Prop :=
  ∃ replicas : List String, replicas.Perm node.replicas ∧
    other = { node with replicas := replicas }

theorem SameButReplicas.row {node other : VirtualNode} (h : SameButReplicas node other) :
    virtualNodeRow other = virtualNodeRow node := by
  obtain ⟨replicas, hperm, rfl⟩ := h
  have hsort : sortOn (fun a b => decide (a ≤ b)) id replicas =
      sortOn (fun a b => decide (a ≤ b)) id node.replicas :=
    sortOn_of_perm ordersBy_text (fun _ _ _ _ => chars_injective) hperm
  simp only [virtualNodeRow, hsort]

theorem virtualNodesPart_sameButReplicas (limit : Option Nat) {nodes others : List VirtualNode}
    (h : List.Forall₂ SameButReplicas nodes others) :
    virtualNodesPart limit others = virtualNodesPart limit nodes := by
  have hpairs : others.map (fun node => (node.lastRepairedAtInMs, virtualNodeRow node)) =
      nodes.map fun node => (node.lastRepairedAtInMs, virtualNodeRow node) := by
    induction h with
    | nil => rfl
    | cons hnode _ ih =>
      have hrow := hnode.row
      obtain ⟨replicas, -, rfl⟩ := hnode
      rw [List.map_cons, List.map_cons, ih, hrow]
  simp only [virtualNodesPart, map_upTo, map_sortOn_congr hpairs]

theorem scheduleParts_congr {limit : Option Nat} {nodes others : List VirtualNode}
    (h : virtualNodesPart limit others = virtualNodesPart limit nodes) (full : Bool)
    (s : Schedule) :
    scheduleParts limit full { s with virtualNodeStates := some others } =
      scheduleParts limit full { s with virtualNodeStates := some nodes } := by
  cases full with
  | false => rfl
  | true => exact congrArg (fun part => [.text (detailLines s), .text [""], part]) h

/-! ## All reports -/

/-- Under every limit a report shows the first rows of the one stable order of its records: by
keyspace, table and id, by keyspace and table, or by the time of the last repair. So less is shown
under a narrower limit, but nothing else; and nothing at all if a cell does not fit. Records that
differ in their keys may come in any order, and so may replicas. -/
theorem rows_in_stable_order (now later : Calendar.Moment) (info : RepairInfo) (s : Schedule)
    (full : Bool) :
    (∀ all, ListsInOrder (fun s : Schedule => codePoints [s.keyspace, s.table, s.id]) all
      scheduleHeaders
      (fun s => [s.id, s.keyspace, s.table, s.status, percent s.repairedRatio,
        time s.lastRepairedAtInMs, time s.nextRepairInMs, s.repairType])
      (fun limit => schedulesParts now (limitOf limit) all) 1 1) ∧
    (∀ all, ListsInOrder (fun r : OnDemandRepair => codePoints [r.keyspace, r.table, r.id]) all
      repairHeaders
      (fun r => [r.id, r.hostId, r.keyspace, r.table, r.status, percent r.repairedRatio,
        time r.completedAt, r.repairType])
      (fun limit => repairsParts (limitOf limit) all) 0 1) ∧
    ListsInOrder (fun s : RepairStats => codePoints [s.keyspace, s.table])
      info.repairStats statsHeaders
      (fun s => [s.keyspace, s.table, percent s.repairedRatio, elapsed s.repairTimeTakenMs])
      (fun limit => repairInfoParts (limitOf limit) info) 1 0 ∧
    (∀ nodes, s.virtualNodeStates = some nodes →
      ListsInOrder VirtualNode.lastRepairedAtInMs nodes virtualNodeHeaders
        (fun node => [toString node.startToken, toString node.endToken,
          ", ".intercalate (node.replicas.mergeSort fun a b => decide (a ≤ b)),
          time node.lastRepairedAtInMs, flag node.repaired])
        (fun limit => scheduleParts (limitOf limit) true s) 15 0) ∧
    (∀ limit (all other : List Schedule),
      (all.map fun s => [s.keyspace, s.table, s.id]).Nodup → other.Perm all →
        (set (schedulesParts later limit other)).1.tail =
            (set (schedulesParts now limit all)).1.tail ∧
          (set (schedulesParts later limit other)).2 = (set (schedulesParts now limit all)).2) ∧
    (∀ limit, Orderless (fun r : OnDemandRepair => [r.keyspace, r.table, r.id])
      fun all => set (repairsParts limit all)) ∧
    (∀ limit, Orderless (fun s : RepairStats => [s.keyspace, s.table])
      fun stats => set (repairInfoParts limit { info with repairStats := stats })) ∧
    (∀ limit, Orderless VirtualNode.lastRepairedAtInMs
      fun nodes => set (scheduleParts limit full { s with virtualNodeStates := some nodes })) ∧
    ∀ limit nodes others, List.Forall₂ SameButReplicas nodes others →
      set (scheduleParts limit full { s with virtualNodeStates := some others }) =
        set (scheduleParts limit full { s with virtualNodeStates := some nodes }) := by
  refine ⟨fun all => ?_, fun all => ?_, ?_, fun nodes hnodes => ?_,
    fun limit all other hnodup hperm => ?_, fun limit => ?_, fun limit => ?_,
    fun limit all other hnodup hperm => ?_, fun limit nodes others hnodes => ?_⟩
  · exact listsInOrder ordersBy_textsInOrder scheduleKey all
      fun limit => printsTable_schedules limit now all
  · exact listsInOrder ordersBy_textsInOrder repairKey all
      fun limit => printsTable_repairs limit all
  · exact listsInOrder ordersBy_textsInOrder statsKey info.repairStats
      fun limit => printsTable_repairInfo limit info
  · exact listsInOrder ordersBy_int VirtualNode.lastRepairedAtInMs nodes
      fun limit => printsTable_schedule limit hnodes
  · have hparts : schedulesParts now limit other = schedulesParts now limit all :=
      schedulesParts_orderless now limit all other hnodup hperm
    rw [← hparts]
    exact set_schedulesParts now later limit other
  · exact (repairsParts_orderless limit).set
  · exact (repairInfoParts_orderless limit info).set
  · have hpart := virtualNodesPart_orderless limit all other hnodup hperm
    exact congrArg set (scheduleParts_congr hpart full s)
  · have hpart := virtualNodesPart_sameButReplicas limit hnodes
    exact congrArg set (scheduleParts_congr hpart full s)

/-- Of two schedules of one table the same one is shown under a limit of one, whichever was sent
first. -/
theorem rows_in_stable_order_swapped :
    let a : Schedule := { keyspace := "ks", table := "t", id := "a" }
    let b : Schedule := { keyspace := "ks", table := "t", id := "b" }
    ([a, b].map fun s => [s.keyspace, s.table, s.id]).Nodup ∧ [b, a].Perm [a, b] ∧
      (set (schedulesParts ⟨1, 0⟩ (limitOf 1) [b, a])).1.tail =
        (set (schedulesParts ⟨0, 0⟩ (limitOf 1) [a, b])).1.tail := by
  intro a b
  have hnodup : ([a, b].map fun s => [s.keyspace, s.table, s.id]).Nodup := by decide
  have hperm : [b, a].Perm [a, b] := List.Perm.swap a b []
  have horder := rows_in_stable_order ⟨0, 0⟩ ⟨1, 0⟩ {} {} false
  exact ⟨hnodup, hperm, (horder.2.2.2.2.1 (limitOf 1) [a, b] [b, a] hnodup hperm).1⟩

/-- The one record of an answer with a long name has no row. A limit of none leaves a table without
rows, and there is none at all without a limit. -/
theorem long_keyspace_has_no_row :
    ∃ all, (Json.parse? (listOfKeyspace longKeyspace)).bind (Json.asList? Schedule.ofJson?) =
        some all ∧ extent (-1) all.length = 1 ∧
      ∀ now, (set (schedulesParts now (limitOf 0) all)).1.length = 4 ∧
        (set (schedulesParts now (limitOf (-1)) all)).1.length = 1 := by
  refine ⟨_, schedules_of_keyspace plain_longKeyspace, rfl, fun now => ⟨?_, ?_⟩⟩
  · have hnone : AllFit ((upTo (limitOf 0) (sortOn textsInOrder scheduleKey
        [{ keyspace := longKeyspace }])).map scheduleRow) := by
      intro row hrow
      simp [limitOf, upTo] at hrow
    obtain ⟨text, -, -, hlength, -⟩ := ((printsTable_schedules (limitOf 0) now
      [{ keyspace := longKeyspace }]).whole hnone).2.1
    exact hlength
  · have hset : set (schedulesParts now (limitOf (-1)) [{ keyspace := longKeyspace }]) =
        ([snapshotLine now], false) := set_schedules_of_long not_fitting_longKeyspace now
    rw [hset]
    rfl

end RepairConsole.Report
