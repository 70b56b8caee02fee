import EndpointGate.Proofs.FieldLists
import EndpointGate.Proofs.PrintedScalars
import EndpointGate.Proofs.ReadObjects

/-! Reading back what was printed. A value that has a shape is printed as a text that is read under that shape
as the value itself: strings with their escapes, numbers, lists, objects under names of any kind, and records
that leave members out. -/

namespace EndpointGate

namespace Fields

variable {α : Type} {fields : Fields α}

theorem insert_of_greater {key : String} (h : ∀ p ∈ fields, p.1 < key) (value : α) :
    insert key value fields = fields ++ [(key, value)] := by
  induction fields with
  | nil => rfl
  | cons p rest ih =>
    obtain ⟨hp, hrest⟩ := List.forall_mem_cons.mp h
    have hne : key ≠ p.1 := fun heq => String.lt_irrefl key (heq ▸ hp)
    have hlt : ¬key < p.1 := fun hlt => String.lt_irrefl key (String.lt_trans hlt hp)
    rw [insert, if_neg hne, if_neg hlt, ih hrest]
    rfl

theorem ofList_of_ordered (h : fields.Ordered) : ofList fields = fields := by
  induction fields using List.reverseRecOn with
  | nil => rfl
  | append_singleton fields p ih =>
    obtain ⟨hfields, -, hlast⟩ := List.pairwise_append.mp h
    rw [ofList_append, ih hfields, insert_of_greater fun q hq => hlast q hq p (List.mem_singleton.mpr rfl)]

theorem get?_ofList_eq_none {pairs : List (String × α)} {key : String} (h : key ∉ pairs.map (·.1)) :
    (ofList pairs).get? key = none := by
  have hfilter : pairs.filter (·.1 == key) = [] :=
    List.filter_eq_nil_iff.mpr fun p hp hkey => h (List.mem_map.mpr ⟨p, hp, eq_of_beq hkey⟩)
  rw [get?_ofList, hfilter]
  rfl

end Fields

namespace Json

open Text (Glyph)

def Shape.layers : Shape → Nat
  | .optional _ => 1
  | _ => 0

/-- Members that a record may be given by: some of its own, those that must occur among them, in its order. -/
structure Fills (members : List (Member × Shape)) (fields : List (String × Json)) : Prop where
  known : ∀ m ∈ members, memberFor members m.1.name = some m
  nodup : (members.map (·.1.name)).Nodup
  sublist : (fields.map (·.1)).Sublist (members.map (·.1.name))
  required : ∀ m ∈ members, m.1.required = true → m.1.name ∈ fields.map (·.1)

/-- Values of a shape, with lists and objects nested `d` deep at most. Shapes that any value has, or only
`null`, are left out. -/
inductive Shaped : Nat → Shape → Json → Prop
  | text {d : Nat} {wanted s : String} : Shaped d (.text wanted) (.str s)
  | natural {d n limit : Nat} {wanted : String} :
    n < limit → n < 18446744073709551616 → Shaped d (.natural wanted limit) (.int n)
  | none {d : Nat} {shape : Shape} : Shaped d (.optional shape) .null
  | some {d : Nat} {shape : Shape} {j : Json} :
    shape.layers = 0 → Shaped d shape j → Shaped d (.optional shape) j
  | list {d : Nat} {item : Shape} {js : List Json} :
    (∀ j ∈ js, Shaped d item j) → Shaped (d + 1) (.list item) (.arr js)
  | dict {d : Nat} {item : Shape} {entries : Fields Json} :
    entries.Ordered → (∀ p ∈ entries, Shaped d item p.2) → Shaped (d + 1) (.dict item) (.obj entries)
  | choice {d : Nat} {names : List String} {s : String} : s ∈ names → Shaped d (.choice names) (.str s)
  | record {d : Nat} {name : String} {members : List (Member × Shape)} {fields : List (String × Json)} :
    Fills members fields → (∀ p ∈ fields, ∀ m, memberFor members p.1 = .some m → Shaped d m.2 p.2) →
    Shaped (d + 1) (.record name members) (.obj fields)

theorem Shaped.of_sublist {d : Nat} {name : String} {members : List (Member × Shape)}
    {fields kept : List (String × Json)} (h : Shaped d (.record name members) (.obj fields))
    (hkept : kept.Sublist fields)
    (hrequired : ∀ m ∈ members, m.1.required = true → m.1.name ∈ kept.map (·.1)) :
    Shaped d (.record name members) (.obj kept) := by
  cases h with
  | record hfills hfields =>
    exact .record ⟨hfills.known, hfills.nodup, (hkept.map _).trans hfills.sublist, hrequired⟩
      fun p hp => hfields p (hkept.subset hp)

theorem Blanks.of_eq {t u : List Glyph} (h : t = u) : Blanks t u := h ▸ .none

section Separated

def separated (first : Bool) : List (List Char) → List Char
  | [] => []
  | w :: ws => (if first then w else ',' :: w) ++ separated false ws

def entryChars (p : String × Json) : List Char := stringChars p.1 ++ ':' :: chars p.2

theorem itemsChars_eq (js : List Json) : itemsChars js = separated true (js.map chars) := by
  induction js with
  | nil => rfl
  | cons j js ih =>
    cases js with
    | nil => simp [itemsChars, separated]
    | cons k more =>
      rw [itemsChars, ih]
      · simp [separated]
      · exact List.cons_ne_nil _ _

theorem fieldsChars_eq (ps : List (String × Json)) : fieldsChars ps = separated true (ps.map entryChars) := by
  induction ps with
  | nil => rfl
  | cons p ps ih =>
    obtain ⟨k, j⟩ := p
    cases ps with
    | nil => simp [fieldsChars, separated, entryChars]
    | cons q more =>
      rw [fieldsChars, ih]
      · simp [separated, entryChars]
      · exact List.cons_ne_nil _ _

theorem ends_separated {ws : List (List Char)} {x : Char} {r : List Glyph}
    (hx : x.isDigit = false ∧ x ∉ ['.', 'e', 'E']) :
    Ends ((separated false ws).map .char ++ .char x :: r) := by
  cases ws with
  | nil => exact ends_cons hx
  | cons w ws => exact ends_cons (by decide)

variable {first : Bool} {c : Cursor} {x : Char} {w xs : List Char} {ws : List (List Char)} {u : List Glyph}

theorem length_le_separated (first : Bool) (w : List Char) (ws : List (List Char)) (u : List Glyph) :
    (w.map Glyph.char ++ ((separated false ws).map Glyph.char ++ u)).length ≤
      ((separated first (w :: ws)).map Glyph.char ++ u).length := by
  cases first <;> simp [separated]

theorem nextItem_separated (hw : w = x :: xs) (hx : Opens x)
    (hc : c.rest = (separated first (w :: ws)).map .char ++ u) :
    ∃ c', nextItem first c = .ok (some c') ∧
      c'.rest = w.map .char ++ ((separated false ws).map .char ++ u) := by
  subst hw
  rw [separated, List.map_append, List.append_assoc] at hc
  cases first with
  | true => exact ⟨_, nextItem_first (.of_eq hc) hx⟩
  | false => exact nextItem_more (.of_eq hc) .none hx

theorem nextKey_separated (hw : w = '"' :: xs)
    (hc : c.rest = (separated first (w :: ws)).map .char ++ u) :
    ∃ c', nextKey first c = .ok (some c') ∧
      .char '"' :: c'.rest = w.map .char ++ ((separated false ws).map .char ++ u) := by
  subst hw
  rw [separated, List.map_append, List.append_assoc] at hc
  cases first with
  | true =>
    obtain ⟨c', hnext, hrest⟩ := nextKey_first (.of_eq hc)
    exact ⟨c', hnext, congrArg (Glyph.char '"' :: ·) hrest⟩
  | false =>
    obtain ⟨c', hnext, hrest⟩ := nextKey_more (.of_eq hc) .none
    exact ⟨c', hnext, congrArg (Glyph.char '"' :: ·) hrest⟩

end Separated

section Dispatch

variable {c c' : Cursor} {x : Char} {t : List Glyph} {fuel depth d : Nat} {j : Json}

theorem skipSpace_of_opens (h : c.rest = .char x :: t) (hx : Opens x) : c.skipSpace = c := by
  have hspace : Cursor.isSpace (.char x) = false :=
    Bool.eq_false_iff.mpr fun h => hx.not_blank (Cursor.isSpace_char.mp h)
  obtain ⟨rest, pos⟩ := c
  subst h
  simp [Cursor.skipSpace, Cursor.skipSpaceFrom, hspace]

theorem atEnd_of_rest (h : c.rest = .char x :: t) : c.atEnd = false := by simp [Cursor.atEnd, h]

theorem readShape_text (wanted : String) (h : c.rest = .char '"' :: t) :
    readShape (fuel + 1) depth (.text wanted) c = readScalar fuel (.text wanted) c := by
  have hlead : lead c = .string := lead_of_rest h
  simp [readShape, skipSpace_of_opens h (.inl (by decide)), atEnd_of_rest h, hlead]

theorem readShape_natural (wanted : String) (limit : Nat) (h : c.rest = .char x :: t) (hx : x.isDigit) :
    readShape (fuel + 1) depth (.natural wanted limit) c = readScalar fuel (.natural wanted limit) c := by
  have hlead : lead c = .number false := lead_of_digit (Cursor.peek_eq_some_iff.mpr ⟨t, h⟩) hx
  simp [readShape, skipSpace_of_opens h (.inr hx), atEnd_of_rest h, hlead]

theorem readShape_choice (names : List String) (h : c.rest = .char '"' :: t) :
    readShape (fuel + 2) depth (.choice names) c = readName fuel names c := by
  have hlead : lead c = .string := lead_of_rest h
  simp [readShape, skipSpace_of_opens h (.inl (by decide)), readChoice, atEnd_of_rest h, hlead]

theorem readName_of_readScalar {names : List String} {s : String} (hs : s ∈ names)
    (h : c.rest = .char '"' :: t)
    (hread : readScalar fuel (.text "variant identifier") c = .ok (.str s, c')) :
    readName (fuel + 1) names c = .ok (.str s, c') := by
  have hlead : lead c = .string := lead_of_rest h
  rw [readName, hlead]
  change (readScalar _ _ _ >>= _) = _
  rw [hread]
  change (if names.contains s then _ else _) = _
  rw [if_pos (List.contains_iff_mem.mpr hs)]
  rfl

theorem readShape_list (item : Shape) (h : c.rest = .char '[' :: t) :
    readShape (fuel + 2) (d + 2) (.list item) c = readItemsFrom fuel (d + 1) item [] c.next := by
  have hlead : lead c = .list := lead_of_rest h
  simp [readShape, skipSpace_of_opens h (.inl (by decide)), atEnd_of_rest h, hlead, readItems]

theorem readShape_dict (item : Shape) (h : c.rest = .char '\x7b' :: t) :
    readShape (fuel + 2) (d + 2) (.dict item) c = readEntriesFrom fuel (d + 1) item true [] c.next := by
  have hlead : lead c = .object := lead_of_rest h
  simp [readShape, skipSpace_of_opens h (.inl (by decide)), atEnd_of_rest h, hlead, readEntries]

theorem readShape_record (name : String) (members : List (Member × Shape))
    (h : c.rest = .char '\x7b' :: t) :
    readShape (fuel + 2) (d + 2) (.record name members) c =
      readMembersFrom fuel (d + 1) members true [] c.next := by
  have hlead : lead c = .object := lead_of_rest h
  simp [readShape, skipSpace_of_opens h (.inl (by decide)), atEnd_of_rest h, hlead, readMembers]

theorem readShape_null (shape : Shape) (h : c.rest = ['n', 'u', 'l', 'l'].map .char ++ t) :
    ∃ c', readShape (fuel + 1) depth (.optional shape) c = .ok (.null, c') ∧ c'.rest = t := by
  have hpeek : c.peek = some 'n' := Cursor.peek_eq_some_iff.mpr ⟨_, h⟩
  have hnext : c.next.rest = ['u', 'l', 'l'].map .char ++ t := Cursor.rest_next h
  obtain ⟨c', hword, hrest⟩ := readWord_of_rest hnext
  refine ⟨c', ?_, hrest⟩
  simp only [readShape, skipSpace_of_opens h (.inl (by decide)), hpeek, if_true, hword]
  rfl

theorem readShape_optional (shape : Shape) (h : c.rest = .char x :: t) (hx : Opens x) (hn : x ≠ 'n') :
    readShape (fuel + 1) depth (.optional shape) c = readShape fuel depth shape c := by
  have hpeek : c.peek = some x := Cursor.peek_eq_some_iff.mpr ⟨_, h⟩
  simp [readShape, skipSpace_of_opens h hx, hpeek, hn]

end Dispatch

section Scalars

variable {c c' : Cursor} {x : Char} {t r : List Glyph} {fuel d : Nat} {shape : Shape} {j v : Json}

theorem readScalar_str {s : String} (wanted : String) (hc : c.rest = printed (.str s) ++ r)
    (hfuel : c.rest.length ≤ fuel) :
    ∃ c', readScalar fuel (.text wanted) c = .ok (.str s, c') ∧ c'.rest = r := by
  rw [printed_str] at hc
  have hlead : lead c = .string := lead_of_rest hc
  have hnext := Cursor.rest_next hc
  have hroom : c.next.rest.length ≤ fuel := by
    rw [hc] at hfuel
    rw [hnext]
    exact Nat.le_of_succ_le hfuel
  obtain ⟨c', hread, hrest⟩ :=
    readString_of_charsAt (hnext ▸ CharsAt.escaped charAt_escapeChar s.toList r) hroom
  rw [String.ofList_toList] at hread
  refine ⟨c', ?_, hrest⟩
  unfold readScalar
  simp only [hlead, hread]
  rfl

theorem readScalar_nat (fuel : Nat) {n limit : Nat} (wanted : String) (hn : n < limit)
    (hword : n < 18446744073709551616) (hc : c.rest = printed (.int n) ++ r) (hr : Ends r)
    (hlead : lead c = .number false) :
    ∃ c', readScalar fuel (.natural wanted limit) c = .ok (.int n, c') ∧ c'.rest = r := by
  obtain ⟨c', hread, hrest⟩ := readNumber_of_numeral (m := numeral n) (digitsDown_tidy n)
    (hc ▸ digitsAt_printed_nat n r) .none .none hr (value?_numeral hword)
  change readNumber false c = .ok (.int n, c') at hread
  have haccept : (Shape.natural wanted limit).accept (.int n) = .ok (.int n) :=
    if_pos ⟨Int.natCast_nonneg n, Int.ofNat_lt.mpr hn⟩
  refine ⟨c', ?_, hrest⟩
  simp [readScalar, hlead, hread, haccept, bind, Except.bind, pure, Except.pure]

/-- What is printed of a value is read under a shape as that value, wherever it stands. There is fuel for four
calls at each character. -/
structure ReadsBack (d : Nat) (shape : Shape) (j : Json) : Prop where
  opens : ∃ x cs, chars j = x :: cs ∧ Opens x ∧ (shape.layers = 0 → x ≠ 'n')
  read : ∀ (fuel : Nat) {c : Cursor} {r : List Glyph}, c.rest = printed j ++ r → Ends r →
    4 * c.rest.length + shape.layers ≤ fuel →
    ∃ c', readShape fuel (d + 1) shape c = .ok (j, c') ∧ c'.rest = r

theorem readsBack_text (d : Nat) (wanted s : String) : ReadsBack d (.text wanted) (.str s) where
  opens := ⟨'"', _, rfl, .inl (by decide), fun _ => by decide⟩
  read fuel {c r} hc _ hfuel := by
    have hrest := hc.trans (printed_str s r)
    have hlength : 0 < c.rest.length := by rw [hrest]; exact Nat.succ_pos _
    obtain ⟨fuel, rfl⟩ : ∃ k, fuel = k + 1 := ⟨fuel - 1, by omega⟩
    obtain ⟨c', hread, hend⟩ := readScalar_str wanted hc (show c.rest.length ≤ fuel by omega)
    exact ⟨c', (readShape_text wanted hrest).trans hread, hend⟩

theorem readsBack_choice (d : Nat) {names : List String} {s : String} (hs : s ∈ names) :
    ReadsBack d (.choice names) (.str s) where
  opens := ⟨'"', _, rfl, .inl (by decide), fun _ => by decide⟩
  read fuel {c r} hc _ hfuel := by
    have hrest := hc.trans (printed_str s r)
    -- both quotes are there
    have hlength : 2 ≤ c.rest.length := by
      rw [hrest, List.length_cons, List.length_append, List.length_cons]
      omega
    obtain ⟨fuel, rfl⟩ : ∃ k, fuel = k + 3 := ⟨fuel - 3, by omega⟩
    obtain ⟨c', hread, hend⟩ := readScalar_str _ hc (show c.rest.length ≤ fuel by omega)
    exact ⟨c', (readShape_choice names hrest).trans (readName_of_readScalar hs hrest hread), hend⟩

theorem readsBack_natural (d : Nat) {n limit : Nat} (wanted : String) (hn : n < limit)
    (hword : n < 18446744073709551616) : ReadsBack d (.natural wanted limit) (.int n) where
  opens := by
    obtain ⟨x, cs, hx, hdigit⟩ := opens_nat n
    refine ⟨x, cs, hx, .inr hdigit, fun _ => ?_⟩
    rintro rfl
    exact absurd hdigit (by decide)
  read fuel {c r} hc hr hfuel := by
    obtain ⟨x, cs, hx, hdigit⟩ := opens_nat n
    have hrest : c.rest = .char x :: (cs.map .char ++ r) := by rw [hc, printed, hx]; rfl
    have hlength : 0 < c.rest.length := by rw [hrest]; exact Nat.succ_pos _
    obtain ⟨fuel, rfl⟩ : ∃ k, fuel = k + 1 := ⟨fuel - 1, by omega⟩
    obtain ⟨c', hread, hend⟩ := readScalar_nat fuel wanted hn hword hc hr
      (lead_of_digit (Cursor.peek_eq_some_iff.mpr ⟨_, hrest⟩) hdigit)
    exact ⟨c', (readShape_natural wanted limit hrest hdigit).trans hread, hend⟩

theorem readsBack_null (d : Nat) (shape : Shape) : ReadsBack d (.optional shape) .null where
  opens := ⟨'n', _, rfl, .inl (by decide), fun h => by cases h⟩
  read fuel {c r} hc _ hfuel := by
    obtain ⟨fuel, rfl⟩ := Nat.exists_eq_add_of_le' (Nat.le_trans (Nat.le_add_left 1 _) hfuel)
    exact readShape_null shape hc

theorem readsBack_some (hlayers : shape.layers = 0) (h : ReadsBack d shape j) :
    ReadsBack d (.optional shape) j where
  opens := by
    obtain ⟨x, cs, hx, hopens, -⟩ := h.opens
    exact ⟨x, cs, hx, hopens, fun h => by cases h⟩
  read fuel {c r} hc hr hfuel := by
    obtain ⟨x, cs, hx, hopens, hn⟩ := h.opens
    have hrest : c.rest = .char x :: (cs.map .char ++ r) := by rw [hc, printed, hx]; rfl
    obtain ⟨fuel, rfl⟩ := Nat.exists_eq_add_of_le' (Nat.le_trans (Nat.le_add_left 1 _) hfuel)
    rw [readShape_optional shape hrest hopens (hn hlayers)]
    exact h.read fuel hc hr (by rw [hlayers]; exact Nat.le_of_succ_le_succ hfuel)

end Scalars

section Lists

variable {c : Cursor} {r : List Glyph} {fuel d : Nat} {item : Shape} {js : List Json}

theorem Shape.layers_le (shape : Shape) : shape.layers ≤ 1 := by
  cases shape <;> simp [layers]

theorem ReadsBack.length_lt {shape : Shape} {j : Json} (h : ReadsBack d shape j) (r : List Glyph) :
    r.length < (printed j ++ r).length := by
  obtain ⟨x, cs, hx, -⟩ := h.opens
  rw [printed, hx]
  simp only [List.map_cons, List.cons_append, List.length_cons, List.length_append]
  omega

theorem readItemsFrom_printed (hjs : ∀ j ∈ js, ReadsBack d item j) (done : List Json)
    (hc : c.rest = (separated done.isEmpty (js.map chars)).map .char ++ .char ']' :: r)
    (hfuel : 4 * c.rest.length + 2 ≤ fuel) :
    ∃ c', readItemsFrom fuel (d + 1) item done c = .ok (.arr (done.reverse ++ js), c') ∧ c'.rest = r := by
  induction js generalizing fuel done c with
  | nil =>
    obtain ⟨fuel, rfl⟩ := Nat.exists_eq_add_of_le' (Nat.le_trans (Nat.le_add_left 1 _) hfuel)
    obtain ⟨hnext, hrest⟩ := nextItem_of_close done.isEmpty (.of_eq hc)
    refine ⟨_, ?_, hrest⟩
    rw [readItemsFrom, hnext, List.append_nil]
  | cons j js ih =>
    obtain ⟨hj, hjs⟩ := List.forall_mem_cons.mp hjs
    obtain ⟨fuel, rfl⟩ := Nat.exists_eq_add_of_le' (Nat.le_trans (Nat.le_add_left 1 _) hfuel)
    obtain ⟨x, cs, hx, hopens, -⟩ := hj.opens
    obtain ⟨c₁, hnext, hrest₁⟩ := nextItem_separated hx hopens hc
    have hle : c₁.rest.length ≤ c.rest.length := by
      rw [hc, hrest₁]
      exact length_le_separated ..
    have hlayers := item.layers_le
    obtain ⟨c₂, hvalue, hrest₂⟩ := hj.read fuel hrest₁ (ends_separated (by decide)) (by omega)
    have hlt : c₂.rest.length < c₁.rest.length := by
      rw [hrest₂, hrest₁]
      exact hj.length_lt _
    obtain ⟨c', hread, hend⟩ := ih hjs (j :: done) hrest₂ (show 4 * c₂.rest.length + 2 ≤ fuel by omega)
    refine ⟨c', ?_, hend⟩
    rw [readItemsFrom, hnext]
    dsimp only
    rw [hvalue]
    dsimp only
    rw [hread, List.reverse_cons, List.append_assoc]
    rfl

theorem readsBack_list (hjs : ∀ j ∈ js, ReadsBack d item j) : ReadsBack (d + 1) (.list item) (.arr js) where
  opens := ⟨'[', _, rfl, .inl (by decide), fun _ => by decide⟩
  read fuel {c r} hc _ hfuel := by
    have hrest : c.rest = .char '[' :: ((separated true (js.map chars)).map .char ++ .char ']' :: r) := by
      rw [hc, printed, chars, itemsChars_eq]
      simp
    have hnext := Cursor.rest_next hrest
    rw [hrest, List.length_cons, ← hnext] at hfuel
    obtain ⟨fuel, rfl⟩ : ∃ k, fuel = k + 2 := ⟨fuel - 2, by omega⟩
    rw [readShape_list item hrest]
    exact readItemsFrom_printed hjs [] hnext (by omega)

end Lists

section Objects

variable {first : Bool} {c : Cursor} {u r : List Glyph} {fuel d : Nat} {item : Shape} {p : String × Json}
  {ps : List (String × Json)} {ws : List (List Char)}

theorem readKey_separated (hc : c.rest = (separated first (entryChars p :: ws)).map .char ++ u)
    (hfuel : c.rest.length ≤ fuel) :
    ∃ c₁ c₂, readKey fuel first c = .ok (some (p.1, c₁)) ∧ readColon c₁ = .ok c₂ ∧
      c₂.rest = printed p.2 ++ ((separated false ws).map .char ++ u) ∧ c₂.rest.length < c.rest.length := by
  obtain ⟨c₀, hkey, hrest₀⟩ := nextKey_separated (w := entryChars p) rfl hc
  have hle := length_le_separated first (entryChars p) ws u
  rw [← hrest₀, ← hc, List.length_cons] at hle
  have hname : c₀.rest = (p.1.toList.flatMap escapeChar).map .char ++ .char '"' ::
      (.char ':' :: (printed p.2 ++ ((separated false ws).map .char ++ u))) := by
    rw [entryChars, List.map_append, List.append_assoc, map_stringChars] at hrest₀
    rw [(List.cons.inj hrest₀).2]
    simp [printed]
  obtain ⟨c₁, hread, hrest₁⟩ := readKey_of_nextKey hkey
    (hname ▸ CharsAt.escaped charAt_escapeChar p.1.toList _) (show c₀.rest.length ≤ fuel by omega)
  rw [String.ofList_toList] at hread
  obtain ⟨c₂, hcolon, hrest₂⟩ := readColon_of_blanks (.of_eq hrest₁)
  refine ⟨c₁, c₂, hread, hcolon, hrest₂, ?_⟩
  rw [hname, List.length_append, List.length_cons, List.length_cons, ← hrest₂] at hle
  omega

theorem readEntriesFrom_printed (hps : ∀ p ∈ ps, ReadsBack d item p.2) (done : Fields Json)
    (hc : c.rest = (separated first (ps.map entryChars)).map .char ++ .char '\x7d' :: r)
    (hfuel : 4 * c.rest.length + 2 ≤ fuel) :
    ∃ c', readEntriesFrom fuel (d + 1) item first done c =
      .ok (.obj (ps.foldl (fun fields p => Fields.insert p.1 p.2 fields) done), c') ∧ c'.rest = r := by
  induction ps generalizing fuel first done c with
  | nil =>
    obtain ⟨fuel, rfl⟩ := Nat.exists_eq_add_of_le' (Nat.le_trans (Nat.le_add_left 1 _) hfuel)
    obtain ⟨hnext, hrest⟩ := nextKey_of_close first (.of_eq hc)
    refine ⟨_, ?_, hrest⟩
    rw [readEntriesFrom, readKey, hnext]
    rfl
  | cons p ps ih =>
    obtain ⟨hp, hps⟩ := List.forall_mem_cons.mp hps
    obtain ⟨fuel, rfl⟩ := Nat.exists_eq_add_of_le' (Nat.le_trans (Nat.le_add_left 1 _) hfuel)
    obtain ⟨c₁, c₂, hkey, hcolon, hrest₂, hlt⟩ := readKey_separated hc (show c.rest.length ≤ fuel by omega)
    have hlayers := item.layers_le
    obtain ⟨c₃, hvalue, hrest₃⟩ := hp.read fuel hrest₂ (ends_separated (by decide)) (by omega)
    have hless : c₃.rest.length < c₂.rest.length := by
      rw [hrest₃, hrest₂]
      exact hp.length_lt _
    obtain ⟨c', hread, hend⟩ := ih hps (done.insert p.1 p.2) hrest₃
      (show 4 * c₃.rest.length + 2 ≤ fuel by omega)
    refine ⟨c', ?_, hend⟩
    rw [readEntriesFrom, hkey]
    dsimp only
    rw [hcolon]
    dsimp only
    rw [hvalue]
    exact hread

theorem rest_obj (hc : c.rest = printed (.obj ps) ++ r) :
    c.rest = .char '\x7b' :: ((separated true (ps.map entryChars)).map .char ++ .char '\x7d' :: r) := by
  rw [hc, printed, chars, fieldsChars_eq]
  simp

theorem readsBack_dict {entries : Fields Json} (hordered : entries.Ordered)
    (hentries : ∀ p ∈ entries, ReadsBack d item p.2) : ReadsBack (d + 1) (.dict item) (.obj entries) where
  opens := ⟨'\x7b', _, rfl, .inl (by decide), fun _ => by decide⟩
  read fuel {c r} hc _ hfuel := by
    have hrest := rest_obj hc
    have hnext := Cursor.rest_next hrest
    rw [hrest, List.length_cons, ← hnext] at hfuel
    obtain ⟨fuel, rfl⟩ : ∃ k, fuel = k + 2 := ⟨fuel - 2, by omega⟩
    obtain ⟨c', hread, hend⟩ := readEntriesFrom_printed hentries [] hnext
      (show 4 * c.next.rest.length + 2 ≤ fuel by omega)
    refine ⟨c', ?_, hend⟩
    rw [readShape_dict item hrest, hread]
    exact congrArg (fun fields => Except.ok (Json.obj fields, c')) (Fields.ofList_of_ordered hordered)

end Objects

section Records

variable {first : Bool} {c : Cursor} {r : List Glyph} {fuel d : Nat} {members : List (Member × Shape)}
  {fields : List (String × Json)}

theorem readMembersFrom_printed {ps : List (String × Json)}
    (hps : ∀ p ∈ ps, ∃ m, memberFor members p.1 = some m ∧ m.1.name = p.1 ∧ ReadsBack d m.2 p.2)
    (hnodup : (ps.map (·.1)).Nodup) (done : Fields Json) (hdone : ∀ p ∈ ps, done.get? p.1 = none)
    (hrequired : ∀ m ∈ members, m.1.required = true →
      Fields.get? m.1.name (ps.foldl (fun fields p => Fields.insert p.1 p.2 fields) done) ≠ none)
    (hc : c.rest = (separated first (ps.map entryChars)).map .char ++ .char '\x7d' :: r)
    (hfuel : 4 * c.rest.length + 2 ≤ fuel) :
    ∃ c', readMembersFrom fuel (d + 1) members first done c =
      .ok (assemble members (ps.foldl (fun fields p => Fields.insert p.1 p.2 fields) done), c') ∧
        c'.rest = r := by
  induction ps generalizing fuel first done c with
  | nil =>
    obtain ⟨fuel, rfl⟩ := Nat.exists_eq_add_of_le' (Nat.le_trans (Nat.le_add_left 1 _) hfuel)
    obtain ⟨hnext, hrest⟩ := nextKey_of_close first (.of_eq hc)
    have hall : (members.find? fun m => m.1.required && (done.get? m.1.name).isNone) = none := by
      refine List.find?_eq_none.mpr fun m hm hlacks => ?_
      simp only [Bool.and_eq_true, Option.isNone_iff_eq_none] at hlacks
      exact hrequired m hm hlacks.1 hlacks.2
    refine ⟨_, ?_, hrest⟩
    rw [readMembersFrom, readKey, hnext]
    simp only [pure, Except.pure, hall]
    rfl
  | cons p ps ih =>
    obtain ⟨⟨m, hm, hname, hp⟩, hps⟩ := List.forall_mem_cons.mp hps
    obtain ⟨hfresh, hnodup⟩ := List.nodup_cons.mp hnodup
    obtain ⟨hpdone, hdone⟩ := List.forall_mem_cons.mp hdone
    obtain ⟨fuel, rfl⟩ := Nat.exists_eq_add_of_le' (Nat.le_trans (Nat.le_add_left 1 _) hfuel)
    obtain ⟨c₁, c₂, hkey, hcolon, hrest₂, hlt⟩ := readKey_separated hc (show c.rest.length ≤ fuel by omega)
    have hlayers := m.2.layers_le
    obtain ⟨c₃, hvalue, hrest₃⟩ := hp.read fuel hrest₂ (ends_separated (by decide)) (by omega)
    have hless : c₃.rest.length < c₂.rest.length := by
      rw [hrest₃, hrest₂]
      exact hp.length_lt _
    have hdone' : ∀ q ∈ ps, (done.insert p.1 p.2).get? q.1 = none := by
      intro q hq
      have hne : p.1 ≠ q.1 := fun heq => hfresh (List.mem_map.mpr ⟨q, hq, heq.symm⟩)
      rw [Fields.get?_insert, if_neg hne, hdone q hq]
    obtain ⟨c', hread, hend⟩ := ih hps hnodup (done.insert p.1 p.2) hdone' hrequired hrest₃
      (show 4 * c₃.rest.length + 2 ≤ fuel by omega)
    refine ⟨c', ?_, hend⟩
    rw [readMembersFrom, hkey]
    dsimp only
    rw [hm]
    dsimp only
    rw [hname, hpdone, hcolon]
    dsimp only [Option.isSome_none]
    rw [hvalue]
    exact hread

theorem assemble_of_sublist {values : Fields Json}
    (hsublist : (fields.map (·.1)).Sublist (members.map (·.1.name)))
    (hnodup : (members.map (·.1.name)).Nodup) (hsome : ∀ p ∈ fields, values.get? p.1 = some p.2)
    (hnone : ∀ m ∈ members, m.1.name ∉ fields.map (·.1) → values.get? m.1.name = none) :
    assemble members values = .obj fields := by
  unfold assemble
  congr 1
  induction members generalizing fields with
  | nil => rw [List.map_eq_nil_iff.mp (List.sublist_nil.mp hsublist), List.filterMap_nil]
  | cons m members ih =>
    obtain ⟨hfresh, hnodup⟩ := List.nodup_cons.mp hnodup
    obtain ⟨hm, hnone⟩ := List.forall_mem_cons.mp hnone
    rw [List.map_cons] at hsublist
    generalize hnames : fields.map (·.1) = names at hsublist
    cases hsublist with
    | cons _ hsublist =>
      have hleft : m.1.name ∉ fields.map (·.1) := fun h => hfresh (hsublist.subset (hnames ▸ h))
      rw [List.filterMap_cons_none (by rw [hm hleft]; rfl)]
      exact ih (hnames ▸ hsublist) hnodup hsome hnone
    | cons_cons _ hsublist =>
      obtain ⟨p, rest, rfl, hp, rfl⟩ := List.map_eq_cons_iff.mp hnames
      obtain ⟨hfirst, hsome⟩ := List.forall_mem_cons.mp hsome
      rw [List.filterMap_cons_some (by rw [← hp, hfirst]; rfl), ih hsublist hnodup hsome]
      intro k hk hleft
      refine hnone k hk fun hmem => ?_
      obtain hkp | hmem := List.mem_cons.mp hmem
      · exact hfresh (List.mem_map.mpr ⟨k, hk, hkp.trans hp⟩)
      · exact hleft hmem

theorem readsBack_record (name : String) (hfills : Fills members fields)
    (hfields : ∀ p ∈ fields, ∀ m, memberFor members p.1 = some m → ReadsBack d m.2 p.2) :
    ReadsBack (d + 1) (.record name members) (.obj fields) where
  opens := ⟨'\x7b', _, rfl, .inl (by decide), fun _ => by decide⟩
  read fuel {c r} hc _ hfuel := by
    have hnodup : (fields.map (·.1)).Nodup := hfills.nodup.sublist hfills.sublist
    have hknown : ∀ p ∈ fields, ∃ m, memberFor members p.1 = some m ∧ m.1.name = p.1 ∧ ReadsBack d m.2 p.2 := by
      intro p hp
      obtain ⟨m, hm, hname⟩ := List.mem_map.mp (hfills.sublist.subset (List.mem_map_of_mem hp))
      have hmember : memberFor members p.1 = some m := hname ▸ hfills.known m hm
      exact ⟨m, hmember, hname, hfields p hp m hmember⟩
    have hsome : ∀ p ∈ fields, (Fields.ofList fields).get? p.1 = some p.2 :=
      fun p hp => Fields.get?_ofList_of_mem hnodup hp
    have hnone : ∀ m ∈ members, m.1.name ∉ fields.map (·.1) →
        (Fields.ofList fields).get? m.1.name = none := fun m _ hleft => Fields.get?_ofList_eq_none hleft
    have hrequired : ∀ m ∈ members, m.1.required = true → (Fields.ofList fields).get? m.1.name ≠ none := by
      intro m hm hreq
      obtain ⟨p, hp, hname⟩ := List.mem_map.mp (hfills.required m hm hreq)
      rw [← hname, hsome p hp]
      exact Option.some_ne_none _
    have hrest := rest_obj hc
    have hnext := Cursor.rest_next hrest
    rw [hrest, List.length_cons, ← hnext] at hfuel
    obtain ⟨fuel, rfl⟩ : ∃ k, fuel = k + 2 := ⟨fuel - 2, by omega⟩
    obtain ⟨c', hread, hend⟩ := readMembersFrom_printed hknown hnodup [] (fun _ _ => rfl) hrequired hnext
      (show 4 * c.next.rest.length + 2 ≤ fuel by omega)
    refine ⟨c', ?_, hend⟩
    rw [readShape_record name members hrest, hread]
    exact congrArg (fun j => Except.ok (j, c')) (assemble_of_sublist hfills.sublist hfills.nodup hsome hnone)

end Records

theorem Shaped.readsBack {d : Nat} {shape : Shape} {j : Json} (h : Shaped d shape j) :
    ReadsBack d shape j := by
  induction h with
  | text => exact readsBack_text ..
  | natural hn hword => exact readsBack_natural _ _ hn hword
  | none => exact readsBack_null ..
  | some hlayers _ ih => exact readsBack_some hlayers ih
  | list _ ih => exact readsBack_list ih
  | dict hordered _ ih => exact readsBack_dict hordered ih
  | choice hs => exact readsBack_choice _ hs
  | record hfills _ ih => exact readsBack_record _ hfills ih

theorem read_render {shape : Shape} {j : Json} (h : Shaped 127 shape j) : read shape (render j) = .ok j := by
  have hglyphs : Text.glyphsOf (render j) = printed j := by
    rw [Text.glyphsOf, render, String.toList_ofList]
    rfl
  have hlayers := shape.layers_le
  obtain ⟨c, hread, hrest⟩ := h.readsBack.read (4 * (printed j).length + 16) (c := .start (printed j))
    (List.append_nil _).symm (fun x u hx => by cases hx)
    (show 4 * (printed j).length + shape.layers ≤ _ by omega)
  have hend : c.skipSpace.atEnd = true :=
    Cursor.atEnd_iff.mpr (Cursor.rest_skipSpaceFrom (.of_eq hrest) (by simp) c.pos)
  rw [read, hglyphs]
  change (readShape _ (127 + 1) shape _ >>= _) = _
  rw [hread]
  change (if c.skipSpace.atEnd then _ else _) = _
  rw [if_pos hend]
  rfl

end Json

end EndpointGate
