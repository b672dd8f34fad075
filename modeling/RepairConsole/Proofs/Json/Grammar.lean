import RepairConsole.Json.Value
import RepairConsole.Proofs.Json.Numbers
import RepairConsole.Proofs.Json.Quoted
/-!
# The texts of a value

The grammar of JSON as a relation between a value and all the texts that write it. Every such
text is read, and as that value: white space, escapes and the spelling of numbers do not matter,
and nesting has no bound.
-/

namespace RepairConsole.Json

def blanks : List Char := [' ', '\t', '\n', '\r']

mutual

/-- A value, and characters that write it with white space before and after. -/
inductive Written : Json → List Char → Prop
  | before {blank : Char} {json : Json} {cs : List Char} (hblank : blank ∈ blanks)
    (h : Written json cs) : Written json (blank :: cs)
  | after {blank : Char} {json : Json} {cs : List Char} (h : Written json cs)
    (hblank : blank ∈ blanks) : Written json (cs ++ [blank])
  | null : Written .null ['n', 'u', 'l', 'l']
  | yes : Written (.bool true) ['t', 'r', 'u', 'e']
  | no : Written (.bool false) ['f', 'a', 'l', 's', 'e']
  | number {n : Decimal.Numeral} {cs : List Char} (h : WrittenNumeral n cs) :
    Written (.number n) cs
  | text {value : Option String} {us : List Nat} {cs : List Char} (h : Spells us cs)
    (hvalue : ∀ s, value = some s ↔ utf16 s.toList = us) :
    Written (.text value) ('"' :: cs ++ ['"'])
  | emptyArray {ws : List Char} (h : ∀ c ∈ ws, c ∈ blanks) :
    Written (.array []) ('[' :: ws ++ [']'])
  | array {items : List Json} {cs : List Char} (h : WrittenItems items cs) :
    Written (.array items) ('[' :: cs ++ [']'])
  | emptyObject {ws : List Char} (h : ∀ c ∈ ws, c ∈ blanks) :
    Written (.object []) ('\x7b' :: ws ++ ['\x7d'])
  | object {members : List (Option String × Json)} {cs : List Char}
    (h : WrittenMembers members cs) : Written (.object members) ('\x7b' :: cs ++ ['\x7d'])

inductive WrittenItems : List Json → List Char → Prop
  | last {item : Json} {cs : List Char} (h : Written item cs) : WrittenItems [item] cs
  | next {item : Json} {items : List Json} {cs rest : List Char} (h : Written item cs)
    (hrest : WrittenItems items rest) : WrittenItems (item :: items) (cs ++ ',' :: rest)

inductive WrittenMembers : List (Option String × Json) → List Char → Prop
  | last {name : Option String} {json : Json} {ns cs : List Char} (hname : Written (.text name) ns)
    (h : Written json cs) : WrittenMembers [(name, json)] (ns ++ ':' :: cs)
  | next {name : Option String} {json : Json} {members : List (Option String × Json)}
    {ns cs rest : List Char} (hname : Written (.text name) ns) (h : Written json cs)
    (hrest : WrittenMembers members rest) :
    WrittenMembers ((name, json) :: members) (ns ++ ':' :: cs ++ ',' :: rest)

end

theorem Written.ofSpells {s : String} {cs : List Char} (h : Spells (utf16 s.toList) cs) :
    Written (.text (some s)) ('"' :: cs ++ ['"']) := by
  refine .text h fun s' => ?_
  rw [Option.some.injEq, ← String.toList_inj]
  exact ⟨congrArg utf16 ∘ Eq.symm, Eq.symm ∘ utf16_injective⟩

theorem Written.ofPlain {s : String} (h : ∀ c ∈ s.toList, 0x20 ≤ c.toNat ∧ c ≠ '"' ∧ c ≠ '\\') :
    Written (.text (some s)) ('"' :: s.toList ++ ['"']) :=
  .ofSpells (.ofPlain h)

/-! ## The tokens of a value -/

mutual

def toTokens : Json → List Token
  | null => [.null]
  | bool value => [.bool value]
  | number value => [.number value]
  | text value => [.text value]
  | array items => .openArray :: itemTokens items ++ [.closeArray]
  | object members => .openObject :: memberTokens members ++ [.closeObject]

def itemTokens : List Json → List Token
  | [] => []
  | [item] => item.toTokens
  | item :: next :: items => item.toTokens ++ .comma :: itemTokens (next :: items)

def memberTokens : List (Option String × Json) → List Token
  | [] => []
  | [(name, json)] => .text name :: .colon :: json.toTokens
  | (name, json) :: next :: members =>
    .text name :: .colon :: json.toTokens ++ .comma :: memberTokens (next :: members)

end

/-! ## Cutting -/

/-- The reader is between tokens, if only because a number may end here. -/
inductive Lexer.Between : Lexer → List Token → Prop
  | gap {done : List Token} : Between ⟨done, .gap⟩ done
  | number {done : List Token} {d : Digits} {phase : Phase} (h : phase.complete = true) :
    Between ⟨done, .number d phase⟩ (.number (d.numeral phase) :: done)

/-- What may stand right after a value. -/
def separators : List Char := [' ', '\t', '\n', '\r', ',', ':', ']', '\x7d']

theorem Digits.next?_separator (d : Digits) {phase : Phase} (h : phase.complete = true) {c : Char}
    (hc : c ∈ separators) : d.next? phase c = none := by
  have hclass : ∀ c ∈ separators, c.isDigit = false ∧ c ≠ '.' ∧ c ≠ 'e' ∧ c ≠ 'E' := by
    simp [separators]
  obtain ⟨hdigit, hpoint, hlower, hupper⟩ := hclass c hc
  cases phase <;> simp_all [next?, Phase.complete]

namespace Lexer

theorem Between.step {lexer : Lexer} {done : List Token} (h : lexer.Between done) {c : Char}
    (hc : c ∈ separators) : lexer.step c = stepGap done c := by
  cases h with
  | gap => rfl
  | @number done d phase h => simp [Lexer.step, d.next?_separator h hc, h]

theorem Between.finish {lexer : Lexer} {done : List Token} (h : lexer.Between done) :
    lexer.finish = some done.reverse := by
  cases h with
  | gap => rfl
  | number h => simp [Lexer.finish, h]

/-- From a gap, these characters are cut into these tokens. -/
def Cuts (cs : List Char) (tokens : List Token) : Prop :=
  ∀ done, ∃ lexer, cs.foldlM Lexer.step ⟨done, .gap⟩ = some lexer ∧
    lexer.Between (tokens.reverse ++ done)

theorem Cuts.nil : Cuts [] [] := fun _ => ⟨_, rfl, .gap⟩

/-- Characters, one that is a token of its own, and characters again. -/
theorem Cuts.append {cs ds : List Char} {c : Char} {ts us : List Token} {token : Token}
    (hcs : Cuts cs ts) (hc : c ∈ separators)
    (htoken : ∀ done, stepGap done c = some ⟨token :: done, .gap⟩) (hds : Cuts ds us) :
    Cuts (cs ++ c :: ds) (ts ++ token :: us) := by
  intro done
  obtain ⟨lexer, hrun, hbetween⟩ := hcs done
  obtain ⟨lexer', hrun', hbetween'⟩ := hds (token :: (ts.reverse ++ done))
  refine ⟨lexer', ?_, by simpa using hbetween'⟩
  rw [List.foldlM_append, hrun, Option.bind_eq_bind, Option.bind_some, List.foldlM_cons,
    hbetween.step hc, htoken]
  exact hrun'

theorem Cuts.bracket {cs : List Char} {ts : List Token} {opening closing : Char}
    {first last : Token} (hcs : Cuts cs ts)
    (hopening : ∀ done, stepGap done opening = some ⟨first :: done, .gap⟩)
    (hclosing : ∀ done, stepGap done closing = some ⟨last :: done, .gap⟩)
    (hc : closing ∈ separators) : Cuts (opening :: cs ++ [closing]) (first :: ts ++ [last]) := by
  intro done
  obtain ⟨lexer, hrun, hbetween⟩ := (hcs.append hc hclosing .nil) (first :: done)
  refine ⟨lexer, ?_, by simpa using hbetween⟩
  rw [List.cons_append, List.foldlM_cons, step, hopening]
  exact hrun

theorem stepGap_blank {blank : Char} (h : blank ∈ blanks) (done : List Token) :
    stepGap done blank = some ⟨done, .gap⟩ := by
  simp only [blanks, List.mem_cons, List.not_mem_nil, or_false] at h
  rcases h with rfl | rfl | rfl | rfl <;> rfl

theorem Cuts.before {cs : List Char} {ts : List Token} (h : Cuts cs ts) {blank : Char}
    (hblank : blank ∈ blanks) : Cuts (blank :: cs) ts := by
  intro done
  rw [List.foldlM_cons, step, stepGap_blank hblank]
  exact h done

theorem Cuts.after {cs : List Char} {ts : List Token} (h : Cuts cs ts) {blank : Char}
    (hblank : blank ∈ blanks) : Cuts (cs ++ [blank]) ts := by
  intro done
  obtain ⟨lexer, hrun, hbetween⟩ := h done
  have hseparator : ∀ c ∈ blanks, c ∈ separators := by simp [blanks, separators]
  refine ⟨⟨ts.reverse ++ done, .gap⟩, ?_, .gap⟩
  rw [List.foldlM_append, hrun, Option.bind_eq_bind, Option.bind_some, List.foldlM_cons,
    hbetween.step (hseparator _ hblank), stepGap_blank hblank]
  rfl

theorem Cuts.blanks {ws : List Char} (h : ∀ c ∈ ws, c ∈ blanks) : Cuts ws [] := by
  induction ws with
  | nil => exact .nil
  | cons c ws ih =>
    obtain ⟨hc, hws⟩ := List.forall_mem_cons.1 h
    exact (ih hws).before hc

theorem Cuts.quoted {us : List Nat} {cs : List Char} (h : Spells us cs) {value : Option String}
    (hvalue : ∀ s, value = some s ↔ utf16 s.toList = us) :
    Cuts ('"' :: cs ++ ['"']) [.text value] := by
  intro done
  have hclose : (us.foldl Quoted.pushUnit .start).close = value :=
    Option.ext fun s => (Quoted.close_eq_some_iff h.unit_lt).trans (hvalue s).symm
  refine ⟨⟨.text value :: done, .gap⟩, ?_, .gap⟩
  rw [List.cons_append, List.foldlM_cons]
  change (cs ++ ['"']).foldlM step ⟨done, .quoted .start⟩ = _
  rw [List.foldlM_append, foldlM_spells h, ← hclose]
  rfl

theorem Cuts.numeral {n : Decimal.Numeral} {cs : List Char} (h : WrittenNumeral n cs) :
    Cuts cs [.number n] := by
  intro done
  obtain ⟨d, phase, hcomplete, rfl, hrun⟩ := Lexer.foldlM_numeral h done
  exact ⟨_, hrun, .number hcomplete⟩

end Lexer

theorem itemTokens_cons (item : Json) {items : List Json} (h : items ≠ []) :
    itemTokens (item :: items) = item.toTokens ++ .comma :: itemTokens items := by
  cases items with
  | nil => exact absurd rfl h
  | cons next items => rw [itemTokens]

theorem memberTokens_cons (name : Option String) (json : Json)
    {members : List (Option String × Json)} (h : members ≠ []) :
    memberTokens ((name, json) :: members) =
      .text name :: .colon :: json.toTokens ++ .comma :: memberTokens members := by
  cases members with
  | nil => exact absurd rfl h
  | cons next members => rw [memberTokens]

mutual

theorem Written.cuts : {json : Json} → {cs : List Char} → Written json cs →
    Lexer.Cuts cs json.toTokens
  | _, _, .before hblank h => h.cuts.before hblank
  | _, _, .after h hblank => h.cuts.after hblank
  | _, _, .null => fun done => ⟨_, rfl, .gap⟩
  | _, _, .yes => fun done => ⟨_, rfl, .gap⟩
  | _, _, .no => fun done => ⟨_, rfl, .gap⟩
  | _, _, .number h => Lexer.Cuts.numeral h
  | _, _, .text h hvalue => .quoted h hvalue
  | _, _, .emptyArray h => (Lexer.Cuts.blanks h).bracket (fun _ => rfl) (fun _ => rfl) (by decide)
  | _, _, .array h => h.cuts.bracket (fun _ => rfl) (fun _ => rfl) (by decide)
  | _, _, .emptyObject h => (Lexer.Cuts.blanks h).bracket (fun _ => rfl) (fun _ => rfl) (by decide)
  | _, _, .object h => h.cuts.bracket (fun _ => rfl) (fun _ => rfl) (by decide)

theorem WrittenItems.cuts : {items : List Json} → {cs : List Char} → (h : WrittenItems items cs) →
    Lexer.Cuts cs (itemTokens items)
  | _, _, .last h => h.cuts
  | _, _, .next h hrest => by
    rw [itemTokens_cons _ (by cases hrest <;> simp)]
    exact h.cuts.append (by decide) (fun _ => rfl) hrest.cuts

theorem WrittenMembers.cuts : {members : List (Option String × Json)} → {cs : List Char} →
    (h : WrittenMembers members cs) → Lexer.Cuts cs (memberTokens members)
  | _, _, .last hname h => hname.cuts.append (by decide) (fun _ => rfl) h.cuts
  | _, _, .next hname h hrest => by
    rw [memberTokens_cons _ _ (by cases hrest <;> simp)]
    exact (hname.cuts.append (c := ':') (by decide) (fun _ => rfl) h.cuts).append (by decide)
      (fun _ => rfl) hrest.cuts

end

/-- A text of a value is cut into the tokens of the value. -/
theorem tokens_of_written {json : Json} {cs : List Char} (h : Written json cs) :
    tokens cs = some json.toTokens := by
  obtain ⟨lexer, hrun, hbetween⟩ := h.cuts []
  rw [tokens, Lexer.start, hrun, Option.bind_some, hbetween.finish]
  simp

/-! ## Building -/

namespace Builder

/-- A value never starts as an array ends, so its first item may stand where an end might. -/
theorem foldlM_item (item : Json) (rest : List Token) (stack : List Frame) :
    (item.toTokens ++ rest).foldlM step ⟨stack, .item⟩ =
      (item.toTokens ++ rest).foldlM step ⟨.array [] :: stack, .value⟩ := by
  cases item <;> simp [toTokens, step]

theorem foldlM_items {items : List Json} (h : items ≠ []) (rest : List Token)
    (stack : List Frame) :
    (itemTokens items ++ rest).foldlM step ⟨stack, .item⟩ =
      (itemTokens items ++ rest).foldlM step ⟨.array [] :: stack, .value⟩ := by
  match items with
  | [item] => exact foldlM_item item rest stack
  | item :: next :: items =>
    rw [itemTokens, List.append_assoc]
    exact foldlM_item item _ stack

theorem foldlM_members {members : List (Option String × Json)} (h : members ≠ [])
    (rest : List Token) (stack : List Frame) :
    (memberTokens members ++ rest).foldlM step ⟨stack, .member⟩ =
      (memberTokens members ++ rest).foldlM step ⟨stack, .name []⟩ := by
  match members with
  | [(name, json)] => rfl
  | (name, json) :: next :: members =>
    rw [memberTokens]
    rfl

mutual

theorem foldlM_toTokens : (json : Json) → (stack : List Frame) →
    json.toTokens.foldlM step ⟨stack, .value⟩ = some ⟨stack, .more json⟩
  | .null, _ => rfl
  | .bool _, _ => rfl
  | .number _, _ => rfl
  | .text _, _ => rfl
  | .array [], _ => rfl
  | .array (item :: items), stack => by
    have hitems := foldlM_itemTokens (item :: items) (List.cons_ne_nil item items) [] stack
    rw [toTokens, List.cons_append, List.foldlM_cons]
    exact (foldlM_items (List.cons_ne_nil item items) _ stack).trans hitems
  | .object [], _ => rfl
  | .object (member :: members), stack => by
    have hmembers :=
      foldlM_memberTokens (member :: members) (List.cons_ne_nil member members) [] stack
    rw [toTokens, List.cons_append, List.foldlM_cons]
    exact (foldlM_members (List.cons_ne_nil member members) _ stack).trans hmembers

/-- The items of an array, some of them read before. -/
theorem foldlM_itemTokens : (items : List Json) → items ≠ [] → (before : List Json) →
    (stack : List Frame) →
    (itemTokens items ++ [Token.closeArray]).foldlM step ⟨.array before :: stack, .value⟩ =
      some ⟨stack, .more (.array (before.reverse ++ items))⟩
  | [], h, _, _ => absurd rfl h
  | [item], _, before, stack => by
    rw [itemTokens, List.foldlM_append, foldlM_toTokens item]
    simp [step]
  | item :: next :: items, _, before, stack => by
    have hitems :=
      foldlM_itemTokens (next :: items) (List.cons_ne_nil next items) (item :: before) stack
    rw [itemTokens, List.append_assoc, List.foldlM_append, foldlM_toTokens item,
      Option.bind_eq_bind, Option.bind_some, List.cons_append, List.foldlM_cons]
    simpa [step] using hitems

theorem foldlM_memberTokens : (members : List (Option String × Json)) → members ≠ [] →
    (before : List (Option String × Json)) → (stack : List Frame) →
    (memberTokens members ++ [Token.closeObject]).foldlM step ⟨stack, .name before⟩ =
      some ⟨stack, .more (.object (before.reverse ++ members))⟩
  | [], h, _, _ => absurd rfl h
  | [(name, json)], _, before, stack => by
    have hjson := foldlM_toTokens json (.object before name :: stack)
    rw [memberTokens]
    simp [step, List.foldlM_append, hjson]
  | (name, json) :: next :: members, _, before, stack => by
    have hjson := foldlM_toTokens json (.object before name :: stack)
    have hmembers := foldlM_memberTokens (next :: members) (List.cons_ne_nil next members)
      ((name, json) :: before) stack
    rw [memberTokens]
    simpa [step, List.foldlM_append, hjson] using hmembers

end

end Builder

theorem ofTokens?_toTokens (json : Json) : ofTokens? json.toTokens = some json := by
  rw [ofTokens?, Builder.start, Builder.foldlM_toTokens]
  rfl

/-- Every text of a value is read as that value. -/
theorem parse?_of_written {json : Json} {text : String} (h : Written json text.toList) :
    parse? text = some json := by
  rw [parse?, tokens_of_written h, Option.bind_some, ofTokens?_toTokens]

end RepairConsole.Json
