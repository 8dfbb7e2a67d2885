import LivePreview.Proofs.Json.Literals

/-!
# Reading what is written

A reader takes a written value off the front of a text if what follows is delimited, as it is inside
of arrays and objects and at the end of a text. Members of an object lead a reader from state to
state, each member taken off by the reader that its key selects.

## Main definitions

* `LivePreview.Json.written`: the characters that a value is written as without blanks.
* `LivePreview.Json.Reader.Reads`: a reader takes some characters off the front of a text.
* `LivePreview.Json.Reader.Leads`: members that lead a reader from one state to another.
* `LivePreview.Json.Reader.Opens`: what an item of an array may start with.

## Main results

* `LivePreview.Json.Reader.reads_members`: an object is read if its members lead somewhere.
* `LivePreview.Json.Reader.reads_list`, `LivePreview.Json.Reader.reads_map`: arrays, and objects
  whose values have one shape.
* `LivePreview.Json.Reader.reads_text`, `LivePreview.Json.Reader.reads_natBelow`: strings and
  numbers.
* `LivePreview.Json.Reader.whole_of_reads`: whole texts.
-/

namespace LivePreview.Json

/-! ### Written values -/

/-- The characters that a value is written as without blanks. -/
def written (value : Json) : List Char := value.compact.toList

/-- The items of an array with commas between them. -/
def writtenItems (items : List Json) : List Char := [','].intercalate (items.map written)

/-- The members of an object with commas between them. -/
def writtenMembers (members : List (String × Json)) : List Char :=
  [','].intercalate (members.map fun m => written (.string m.1) ++ ':' :: written m.2)

theorem written_string (s : String) :
    written (.string s) = '"' :: (s.toList.flatMap escapeChar ++ ['"']) := by
  rw [written, compact, quote, String.toList_ofList]
  rfl

theorem written_ofNat (n : Nat) : written (.ofNat n) = Nat.toDigits 10 n := by
  rw [written, ofNat, compact, Nat.toString_eq_repr, Nat.toList_repr]

theorem map_toList_compactItems : (items : List Json) →
    (compactItems items).map String.toList = items.map written
  | [] => rfl
  | item :: items => by
      rw [compactItems, List.map_cons, List.map_cons, map_toList_compactItems items]
      rfl

theorem map_toList_compactMembers : (members : List (String × Json)) →
    (compactMembers members).map String.toList =
      members.map fun m => written (.string m.1) ++ ':' :: written m.2
  | [] => rfl
  | (key, value) :: members => by
      rw [compactMembers, List.map_cons, List.map_cons, map_toList_compactMembers members]
      simp [written, compact]

theorem written_array (items : List Json) :
    written (.array items) = '[' :: (writtenItems items ++ [']']) := by
  rw [written, compact, String.toList_append, String.toList_append, String.toList_intercalate,
    map_toList_compactItems]
  rfl

theorem written_object (members : List (String × Json)) :
    written (.object members) = '\x7b' :: (writtenMembers members ++ ['\x7d']) := by
  rw [written, compact, String.toList_append, String.toList_append, String.toList_intercalate,
    map_toList_compactMembers]
  rfl

theorem writtenItems_singleton (item : Json) : writtenItems [item] = written item := by
  simp [writtenItems]

theorem writtenItems_cons_cons (item next : Json) (items : List Json) :
    writtenItems (item :: next :: items) = written item ++ ',' :: writtenItems (next :: items) := by
  simp [writtenItems, List.intercalate_cons_cons]

theorem writtenMembers_singleton (m : String × Json) :
    writtenMembers [m] = written (.string m.1) ++ ':' :: written m.2 := by
  simp [writtenMembers]

theorem writtenMembers_cons_cons (m next : String × Json) (members : List (String × Json)) :
    writtenMembers (m :: next :: members) =
      written (.string m.1) ++ ':' :: written m.2 ++ ',' :: writtenMembers (next :: members) := by
  simp [writtenMembers, List.intercalate_cons_cons]

theorem length_le_intercalate {l : List (List Char)} (h : ∀ s ∈ l, s ≠ []) :
    l.length ≤ ([','].intercalate l).length := by
  induction l with
  | nil => simp
  | cons s l ih =>
    obtain ⟨hs, hl⟩ := List.forall_mem_cons.1 h
    have hpos := List.length_pos_of_ne_nil hs
    cases l with
    | nil => simpa [Nat.lt_iff_add_one_le] using hpos
    | cons s' l =>
      have hlength := ih hl
      simp only [List.intercalate_cons_cons, List.length_append, List.length_cons] at hlength ⊢
      omega

theorem length_le_writtenItems {items : List Json} (h : ∀ item ∈ items, written item ≠ []) :
    items.length ≤ (writtenItems items).length := by
  rw [writtenItems, ← List.length_map written]
  refine length_le_intercalate fun s hs => ?_
  obtain ⟨item, hitem, rfl⟩ := List.mem_map.1 hs
  exact h item hitem

theorem length_le_writtenMembers (members : List (String × Json)) :
    members.length ≤ (writtenMembers members).length := by
  rw [writtenMembers, ← List.length_map fun m => written (.string m.1) ++ ':' :: written m.2]
  refine length_le_intercalate fun s hs => ?_
  obtain ⟨m, -, rfl⟩ := List.mem_map.1 hs
  simp

namespace Reader

variable {α β σ : Type} {reader item : Reader α} {s : List Char} {a : α} {c : Char}

/-! ### Taking a value off the front -/

/-- A reader takes `s` off the front of every text in which `s` is delimited, and gives `a`. -/
def Reads (reader : Reader α) (s : List Char) (a : α) : Prop :=
  ∀ rest, Delimited rest → reader.run (s ++ rest) = .ok (a, rest)

/-- A character that is no blank. -/
def Solid (c : Char) : Prop := c ≠ ' ' ∧ c ≠ '\n' ∧ c ≠ '\t' ∧ c ≠ '\r'

instance (c : Char) : Decidable (Solid c) := inferInstanceAs (Decidable (_ ∧ _))

theorem run_ahead (h : Solid c) (s : List Char) : ahead.run (c :: s) = .ok (c :: s, c :: s) := by
  obtain ⟨hblank, hline, htab, hreturn⟩ := h
  change Except.ok (List.dropWhile _ (c :: s), List.dropWhile _ (c :: s)) = _
  rw [List.dropWhile_cons_of_neg (by simp [*])]

/-- A reader goes on with what another one gives. -/
theorem run_bind {t : List Char} (h : reader.run s = .ok (a, t)) (f : α → Reader β) :
    (reader >>= f).run s = (f a).run t := by
  rw [StateT.run_bind, h]
  rfl

theorem run_ahead_bind (h : Solid c) (f : List Char → Reader β) (s : List Char) :
    (ahead >>= f).run (c :: s) = (f (c :: s)).run (c :: s) :=
  run_bind (run_ahead h s) f

theorem Reads.map (h : Reads reader s a) (f : α → β) :
    Reads (do return f (← reader)) s (f a) := fun rest hrest =>
  run_bind (h rest hrest) fun a => pure (f a)

theorem whole_of_reads {text : String} (h : Reads reader text.toList a) :
    whole reader text = .ok a := by
  have hread := h [] delimited_nil
  rw [List.append_nil] at hread
  simp only [whole, StateT.run'_eq, run_bind hread]
  rfl

/-! ### Strings and numbers -/

theorem run_stringBody (s : String) (rest : List Char) :
    stringBody.run (s.toList.flatMap escapeChar ++ '"' :: rest) = .ok (s, rest) := by
  change (stringFrom true 0 _).map _ = _
  rw [stringFrom_flatMap_escapeChar]
  simp [Except.map]

theorem written_string_append (s : String) (rest : List Char) :
    written (.string s) ++ rest = '"' :: (s.toList.flatMap escapeChar ++ '"' :: rest) := by
  simp [written_string]

theorem reads_text (s : String) : Reads text (written (.string s)) s := by
  intro rest _
  rw [written_string_append, text, run_ahead_bind (by decide)]
  exact run_stringBody s rest

theorem reads_choice {named : String → Option α} {tag : String} (h : named tag = some a) :
    Reads (choice named) (written (.string tag)) a := by
  intro rest _
  rw [written_string_append, choice, run_ahead_bind (by decide)]
  refine (run_bind (run_stringBody tag rest) fun s => required (named s)).trans ?_
  rw [h]
  rfl

theorem reads_value (depth : Nat) (s : String) :
    Reads (value depth) (written (.string s)) (.string s) := by
  have hread (nested : Option (Reader Json)) :
      Reads (valueWith nested) (written (.string s)) (.string s) := by
    intro rest _
    rw [written_string_append, valueWith, run_ahead_bind (by decide)]
    exact run_bind (run_stringBody s rest) fun s => pure (Json.string s)
  cases depth with
  | zero => exact hread none
  | succ depth => exact hread (some (value depth))

theorem reads_natBelow {limit n : Nat} (hn : n < limit) (hlimit : limit ≤ UInt64.size) :
    Reads (natBelow limit) (written (.ofNat n)) n := by
  intro rest hrest
  obtain ⟨c, more, hmore⟩ := List.exists_cons_of_ne_nil (@Nat.toDigits_ne_nil n 10)
  have hc : c.isDigit = true := isDigit_of_mem_toDigits (by rw [hmore]; exact List.mem_cons_self)
  have hsolid : Solid c := by
    refine ⟨?_, ?_, ?_, ?_⟩ <;> rintro rfl <;> exact absurd hc (by decide)
  have hnumber := number_toDigits (Nat.lt_of_lt_of_le hn hlimit) hrest
  rw [written_ofNat, hmore, List.cons_append, natBelow, run_ahead_bind hsolid]
  rw [hmore, List.cons_append] at hnumber
  simp only [hc, or_true, if_true]
  refine (run_bind hnumber _).trans ?_
  simp [hn]
  rfl

/-! ### Members of an object -/

theorem run_colon (s : List Char) : colon.run (':' :: s) = .ok ((), s) := by
  rw [colon, run_ahead_bind (by decide)]
  rfl

/-- A value behind a colon. -/
theorem Reads.behind_colon (h : Reads reader s a) : Reads (do colon; reader) (':' :: s) a :=
  fun rest hrest => (run_bind (run_colon _) _).trans (h rest hrest)

/-- A field that was not met before. -/
theorem reads_once (h : Reads item s a) : Reads (once none item) (':' :: s) (some a) := by
  rw [once, if_neg (by simp)]
  exact (h.map some).behind_colon

variable {member : σ → String → Reader σ} {members : List (String × Json)} {state : σ}
  {key : String} {value : Json} {fuel : Nat}

/-- Members that lead a reader of members from one state to another. -/
inductive Leads (member : σ → String → Reader σ) : σ → List (String × Json) → σ → Prop
  | nil (state : σ) : Leads member state [] state
  | cons {first next last : σ} {key : String} {value : Json} {members : List (String × Json)}
      (h : Reads (member first key) (':' :: written value) next)
      (hrest : Leads member next members last) : Leads member first ((key, value) :: members) last

/-- What stands behind a member: the closing brace, or a comma and further members. -/
def membersBehind (member : σ → String → Reader σ) (fuel : Nat) (state : σ) : Reader σ := do
  match ← ahead with
  | [] => fault .truncated
  | '\x7d' :: s => set s; pure state
  | ',' :: s => set s; membersFrom stringBody member fuel false state
  | _ => fault .malformed

theorem run_membersBehind_brace (rest : List Char) :
    (membersBehind member fuel state).run ('\x7d' :: rest) = .ok (state, rest) := by
  rw [membersBehind, run_ahead_bind (by decide)]
  rfl

theorem run_membersBehind_comma (rest : List Char) :
    (membersBehind member fuel state).run (',' :: rest) =
      (membersFrom stringBody member fuel false state).run rest := by
  rw [membersBehind, run_ahead_bind (by decide)]
  rfl

/-- One member is taken off the front. -/
theorem run_membersFrom_cons {first next : σ}
    (h : Reads (member first key) (':' :: written value) next) (start : Bool) {rest : List Char}
    (hrest : Delimited rest) :
    (membersFrom stringBody member (fuel + 1) start first).run
        (written (.string key) ++ ':' :: written value ++ rest) =
      (membersBehind member fuel next).run rest := by
  rw [List.append_assoc, written_string_append, membersFrom, run_ahead_bind (by decide)]
  change (do membersBehind member fuel (← member first (← stringBody)) : Reader σ).run _ = _
  rw [run_bind (run_stringBody key _), run_bind (h rest hrest)]

/-- Members are read up to the brace behind them. -/
theorem run_membersFrom {m : String × Json} {first last : σ}
    (h : Leads member first (m :: members) last) (hfuel : members.length < fuel) (start : Bool)
    (rest : List Char) : (membersFrom stringBody member fuel start first).run
      (writtenMembers (m :: members) ++ '\x7d' :: rest) = .ok (last, rest) := by
  -- There is a first member, as no brace may stand behind a comma.
  induction members generalizing m first fuel start with
  | nil =>
    obtain ⟨fuel, rfl⟩ := Nat.exists_eq_succ_of_ne_zero (Nat.ne_of_gt hfuel)
    cases h with
    | cons hmember hrest =>
      cases hrest
      rw [writtenMembers_singleton,
        run_membersFrom_cons hmember start (delimited_cons (by simp) rest),
        run_membersBehind_brace]
  | cons next members ih =>
    obtain ⟨fuel, rfl⟩ := Nat.exists_eq_succ_of_ne_zero (Nat.ne_of_gt (Nat.zero_lt_of_lt hfuel))
    cases h with
    | cons hmember hrest =>
      rw [writtenMembers_cons_cons, List.append_assoc, List.cons_append,
        run_membersFrom_cons hmember start (delimited_cons (by simp) _), run_membersBehind_comma]
      exact ih hrest (Nat.lt_of_succ_lt_succ hfuel) false

/-- An object behind its opening brace is read if its members lead somewhere. -/
theorem reads_members {first last : σ} (h : Leads member first members last) :
    Reads (Reader.members member first) (writtenMembers members ++ ['\x7d']) last := by
  intro rest _
  rw [List.append_assoc, List.singleton_append, Reader.members]
  refine (run_bind (StateT.run_get _) _).trans ?_
  cases members with
  | nil =>
    cases h
    exact run_ahead_bind (by decide) _ _
  | cons m members =>
    refine run_membersFrom h ?_ true rest
    have hlength := length_le_writtenMembers (m :: members)
    simp only [List.length_append, List.length_cons] at hlength ⊢
    omega

theorem reads_record {fromMembers fromItems : Reader α}
    (h : Reads fromMembers (writtenMembers members ++ ['\x7d']) a) :
    Reads (record fromMembers fromItems) (written (.object members)) a := by
  intro rest hrest
  rw [written_object, List.cons_append, record, run_ahead_bind (by decide)]
  exact h rest hrest

/-- An object whose values have one shape. -/
theorem reads_map (enc : α → Json) {entries : List (String × α)}
    (h : ∀ e ∈ entries, Reads item (written (enc e.2)) e.2) :
    Reads (map item) (written (.object (entries.map fun e => (e.1, enc e.2)))) entries := by
  let member (done : List (String × α)) (key : String) : Reader (List (String × α)) := do
    colon
    return (key, ← item) :: done
  have hleads (done : List (String × α)) :
      Leads member done (entries.map fun e => (e.1, enc e.2)) (entries.reverse ++ done) := by
    induction entries generalizing done with
    | nil => exact .nil done
    | cons e entries ih =>
      obtain ⟨he, hentries⟩ := List.forall_mem_cons.1 h
      rw [List.map_cons, List.reverse_cons, List.append_assoc]
      exact .cons (he.map fun a => (e.1, a) :: done).behind_colon (ih hentries (e :: done))
  intro rest hrest
  rw [written_object, List.cons_append, map, run_ahead_bind (by decide)]
  refine (((reads_members (hleads [])).map List.reverse) rest hrest).trans ?_
  rw [List.append_nil, List.reverse_reverse]

/-! ### Items of an array -/

/-- What stands behind an item: the closing bracket, or a comma and further items. -/
def itemsBehind (item : σ → Reader σ) (fuel : Nat) (state : σ) : Reader σ := do
  match ← ahead with
  | [] => fault .truncated
  | ']' :: s => set s; pure state
  | ',' :: s => set s; itemsFrom item fuel false state
  | _ => fault .malformed

theorem run_itemsBehind_bracket (item : σ → Reader σ) (rest : List Char) :
    (itemsBehind item fuel state).run (']' :: rest) = .ok (state, rest) := by
  rw [itemsBehind, run_ahead_bind (by decide)]
  rfl

theorem run_itemsBehind_comma (item : σ → Reader σ) (rest : List Char) :
    (itemsBehind item fuel state).run (',' :: rest) =
      (itemsFrom item fuel false state).run rest := by
  rw [itemsBehind, run_ahead_bind (by decide)]
  rfl

/-- What an item may start with: neither a blank nor the end of the array. -/
def Opens (s : List Char) : Prop := ∃ c ∈ s.head?, Solid c ∧ c ≠ ']'

theorem Opens.ne_nil (h : Opens s) : s ≠ [] := by
  obtain ⟨c, hc, -⟩ := h
  exact List.ne_nil_of_mem (List.mem_of_mem_head? hc)

/-- One item is taken off the front. -/
theorem run_itemsFrom_cons {next : σ} {item : σ → Reader σ} {rest : List Char}
    (h : Reads (item state) s next) (hopen : Opens s) (start : Bool) (hrest : Delimited rest) :
    (itemsFrom item (fuel + 1) start state).run (s ++ rest) =
      (itemsBehind item fuel next).run rest := by
  obtain ⟨c, hc, hsolid, hclose⟩ := hopen
  obtain ⟨more, rfl⟩ := List.head?_eq_some_iff.1 hc
  have hitem := run_bind (h rest hrest) (itemsBehind item fuel)
  rw [List.cons_append] at hitem ⊢
  rw [itemsFrom, run_ahead_bind hsolid, ← hitem]
  split
  · cases ‹_ = []›
  · exact absurd (List.cons.inj ‹_›).1 hclose
  · rfl

variable {values : List α}

/-- Items are read up to the bracket behind them. -/
theorem run_itemsFrom (enc : α → Json) {a : α} (done : List α)
    (h : ∀ b ∈ a :: values, Reads item (written (enc b)) b)
    (hopen : ∀ b ∈ a :: values, Opens (written (enc b))) (hfuel : values.length < fuel)
    (start : Bool) (rest : List Char) :
    (itemsFrom (fun done => return (← item) :: done) fuel start done).run
      (writtenItems ((a :: values).map enc) ++ ']' :: rest) =
        .ok ((a :: values).reverse ++ done, rest) := by
  induction values generalizing a done fuel start with
  | nil =>
    obtain ⟨fuel, rfl⟩ := Nat.exists_eq_succ_of_ne_zero (Nat.ne_of_gt hfuel)
    have ha := (h a List.mem_cons_self).map (· :: done)
    rw [List.map_singleton, writtenItems_singleton,
      run_itemsFrom_cons ha (hopen a List.mem_cons_self) start (delimited_cons (by simp) rest),
      run_itemsBehind_bracket]
    rfl
  | cons b values ih =>
    obtain ⟨fuel, rfl⟩ := Nat.exists_eq_succ_of_ne_zero (Nat.ne_of_gt (Nat.zero_lt_of_lt hfuel))
    have ha := (h a List.mem_cons_self).map (· :: done)
    rw [List.map_cons, List.map_cons, writtenItems_cons_cons, List.append_assoc, List.cons_append,
      run_itemsFrom_cons ha (hopen a List.mem_cons_self) start (delimited_cons (by simp) _),
      run_itemsBehind_comma]
    refine (ih (a :: done) (List.forall_mem_cons.1 h).2 (List.forall_mem_cons.1 hopen).2
      (Nat.lt_of_succ_lt_succ hfuel) false).trans ?_
    simp

/-- An array whose items have one shape. -/
theorem reads_list (enc : α → Json) (h : ∀ a ∈ values, Reads item (written (enc a)) a)
    (hopen : ∀ a ∈ values, Opens (written (enc a))) :
    Reads (list item) (written (.array (values.map enc))) values := by
  intro rest _
  rw [written_array, List.cons_append, list, run_ahead_bind (by decide)]
  have hitems : (items (fun done => return (← item) :: done) []).run
      (writtenItems (values.map enc) ++ [']'] ++ rest) = .ok (values.reverse, rest) := by
    rw [List.append_assoc, List.singleton_append, items]
    refine (run_bind (StateT.run_get _) _).trans ?_
    cases values with
    | nil => exact run_ahead_bind (by decide) _ _
    | cons a values =>
      refine (run_itemsFrom enc [] h hopen ?_ true rest).trans (by simp)
      have hlength := @length_le_writtenItems ((a :: values).map enc) fun v hv => by
        obtain ⟨b, hb, rfl⟩ := List.mem_map.1 hv
        exact (hopen b hb).ne_nil
      simp only [List.length_append, List.length_map, List.length_cons] at hlength ⊢
      omega
  refine (run_bind hitems fun values => pure values.reverse).trans ?_
  rw [List.reverse_reverse]
  rfl

end Reader

end LivePreview.Json
