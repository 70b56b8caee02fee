import EndpointGate.Sql.Token
import Mathlib.Data.List.TakeWhile
import Mathlib.Tactic.SplitIfs

/-! Where the lexemes of a text stand. A lexeme is what its token's rule reads at its place, places ascend,
and the name of a parameter goes on as far as the text can belong to a name. -/

namespace EndpointGate.Sql

def Lexeme.StandsIn (l : Lexeme) (text : List Char) : Prop :=
  ∃ c rest, text.drop l.offset = c :: rest ∧ (Token.first c rest).1 = some l.token

def Lexeme.parameter? : Lexeme → Option (String × Nat)
  | ⟨.parameter name, offset⟩ => some (name, offset)
  | _ => none

namespace Token

variable {c : Char} {rest : List Char} {name : String} {token : Token} {length : Nat}

def isParameter : Token → Bool
  | .parameter _ => true
  | _ => false

theorem isParameter_number (cs : List Char) : (number cs).1.isParameter = false := by
  unfold number
  dsimp only
  split_ifs <;> rfl

theorem isParameter_hexNumber (cs : List Char) : (hexNumber cs).1.isParameter = false := by
  unfold hexNumber
  dsimp only
  split_ifs <;> rfl

theorem number_length_pos (h : isDigit c ∨ c = '.') : 1 ≤ (number (c :: rest)).2 := by
  rcases h with h | rfl
  · have hwhole : (c :: rest).takeWhile isDigit = c :: rest.takeWhile isDigit :=
      List.takeWhile_cons_of_pos h
    unfold number
    rw [hwhole]
    dsimp only
    split_ifs <;> simp only [List.length_cons] <;> omega
  · have hwhole : ('.' :: rest).takeWhile isDigit = [] := List.takeWhile_cons_of_neg (by decide)
    simp only [number, hwhole, List.length_nil, List.drop_zero, if_true]
    split_ifs <;> dsimp only <;> omega

theorem hexNumber_length_pos (cs : List Char) : 1 ≤ (hexNumber cs).2 := by
  unfold hexNumber
  dsimp only
  split_ifs <;> dsimp only <;> omega

theorem le_of_quoted {close : Char} {n : Nat} {inside cs : List Char} {r : String × Nat}
    (h : quoted close n inside cs = some r) : n ≤ r.2 := by
  induction n, inside, cs using quoted.induct close with
  | case1 n inside => cases h
  | case2 n inside =>
    simp only [quoted, if_true] at h
    rw [← Option.some.inj h]
    exact Nat.le_succ n
  | case3 n inside c hc =>
    simp [quoted, hc] at h
  | case4 n inside rest ih =>
    simp only [quoted, if_true] at h
    exact Nat.le_of_add_right_le (ih h)
  | case5 n inside d rest hd =>
    simp only [quoted, if_true, if_neg hd] at h
    rw [← Option.some.inj h]
    exact Nat.le_succ n
  | case6 n inside c d rest hc ih =>
    simp only [quoted, if_neg hc] at h
    exact Nat.le_of_succ_le (ih h)

def NameAt (c : Char) (rest : List Char) (name : String) : Prop :=
  (c = '?' ∧ name = String.ofList (c :: rest.takeWhile isDigit)) ∨
    (c = '@' ∨ c = ':' ∨ c = '#' ∨ c = '$') ∧ ∃ named length,
      parameterName 0 0 rest = some (named, length) ∧ name = String.ofList (c :: rest.take length)

structure ReadAt (c : Char) (rest : List Char) (r : Option Token × Nat) : Prop where
  pos : 1 ≤ r.2
  parameter : ∀ name, r.1 = some (.parameter name) → NameAt c rest name

theorem ReadAt.blank (h : 1 ≤ length) : ReadAt c rest (none, length) := by
  refine ⟨h, fun name hn => ?_⟩
  cases hn

theorem ReadAt.other (h : 1 ≤ length) (htoken : token.isParameter = false) :
    ReadAt c rest (some token, length) := by
  refine ⟨h, fun name hn => ?_⟩
  rw [Option.some.inj hn] at htoken
  cases htoken

theorem ReadAt.named (h : 1 ≤ length) (hname : NameAt c rest name) :
    ReadAt c rest (some (.parameter name), length) :=
  ⟨h, fun _ hn => Token.parameter.inj (Option.some.inj hn) ▸ hname⟩

theorem readAt_quoted (token : String → Token) (htoken : ∀ s, (token s).isParameter = false) :
    ReadAt c rest (match quoted c 1 [] rest with
      | some (s, length) => (some (token s), length)
      | none => (some (.bad (String.ofList (c :: rest))), 1 + rest.length)) := by
  cases hq : quoted c 1 [] rest with
  | none => exact .other (Nat.le_add_right ..) rfl
  | some r => exact .other (le_of_quoted hq) (htoken r.1)

theorem readAt_first (c : Char) (rest : List Char) : ReadAt c rest (first c rest) := by
  unfold first
  dsimp only
  refine iteInduction (fun _ => .blank (Nat.le_add_right ..)) fun _ => ?_
  refine iteInduction (fun _ => .blank (Nat.le_refl 1)) fun _ => ?_
  refine iteInduction (fun _ => .other (Nat.le_refl 1) rfl) fun _ => ?_
  refine iteInduction (fun _ => .blank (Nat.le_add_right ..)) fun _ => ?_
  refine iteInduction (fun _ => .blank (by omega)) fun _ => ?_
  refine iteInduction (fun _ => readAt_quoted .text fun _ => rfl) fun _ => ?_
  refine iteInduction (fun _ => readAt_quoted (.quotedName · (c == '"')) fun _ => rfl) fun _ => ?_
  refine iteInduction (fun _ => ?_) fun _ => ?_
  · exact iteInduction (fun _ => .other (by omega) rfl) fun _ => .other (Nat.le_add_right ..) rfl
  refine iteInduction (fun hc => .named (Nat.le_add_right ..) (Or.inl ⟨hc, rfl⟩)) fun _ => ?_
  refine iteInduction (fun hc => ?_) fun _ => ?_
  · cases hp : parameterName 0 0 rest with
    | none => exact .other (Nat.le_add_right ..) rfl
    | some r =>
      refine iteInduction (fun _ => .other (Nat.le_add_right ..) rfl) fun _ => ?_
      refine .named (Nat.le_add_right ..) (Or.inr ⟨?_, r.1, r.2, hp, rfl⟩)
      simpa [or_assoc] using hc
  refine iteInduction (fun _ => ?_) fun _ => ?_
  · exact iteInduction (fun _ => .other (by omega) rfl) fun _ => .other (by omega) rfl
  refine iteInduction (fun _ => .other (hexNumber_length_pos _) (isParameter_hexNumber _)) fun _ => ?_
  refine iteInduction (fun hc => ?_) fun _ => ?_
  · refine .other (number_length_pos ?_) (isParameter_number _)
    simp only [Bool.or_eq_true, Bool.and_eq_true, decide_eq_true_eq] at hc
    exact hc.imp_right And.left
  refine iteInduction (fun _ => .other (Nat.le_add_right ..) rfl) fun _ => ?_
  cases rest with
  | nil => exact iteInduction (fun _ => .other (Nat.le_refl 1) rfl) fun _ => .other (Nat.le_refl 1) rfl
  | cons d rest =>
    refine iteInduction (fun _ => .other (by decide) rfl) fun _ => ?_
    exact iteInduction (fun _ => .other (Nat.le_refl 1) rfl) fun _ => .other (Nat.le_refl 1) rfl

theorem le_of_parameterName {named n : Nat} {cs : List Char} {r : Nat × Nat}
    (h : parameterName named n cs = some r) : n + (cs.takeWhile continuesName).length ≤ r.2 := by
  induction named, n, cs using parameterName.induct with
  | case1 named n =>
    obtain rfl := Option.some.inj h
    simp
  | case2 named n rest ih =>
    have hrest := ih (by rwa [parameterName] at h)
    rw [List.takeWhile_cons_of_neg (by decide)]
    simp only [List.length_nil]
    omega
  | case3 named n c rest hcolons hc ih =>
    rw [parameterName, if_pos hc] at h
    · have hrest := ih h
      rw [List.takeWhile_cons_of_pos hc, List.length_cons]
      omega
    · exact hcolons
  | case4 named n c rest hcolons hc hopen inside tail htail =>
    rw [parameterName, if_neg hc, if_pos hopen] at h
    · dsimp only at h
      rw [htail] at h
      obtain rfl := Option.some.inj h
      rw [List.takeWhile_cons_of_neg hc]
      dsimp only [List.length_nil]
      omega
    · exact hcolons
  | case5 named n c rest hcolons hc hopen inside hbroken =>
    rw [parameterName, if_neg hc, if_pos hopen] at h
    · dsimp only at h
      split at h
      · rename_i tail htail
        exact absurd htail (hbroken tail)
      · cases h
    · exact hcolons
  | case6 named n c rest hcolons hc hopen =>
    rw [parameterName, if_neg hc, if_neg hopen] at h
    · obtain rfl := Option.some.inj h
      rw [List.takeWhile_cons_of_neg hc]
      simp
    · exact hcolons

def isMark (c : Char) : Bool := c == '?' || c == '@' || c == ':' || c == '#' || c == '$'

theorem NameAt.isMark (h : NameAt c rest name) : isMark c = true := by
  rcases h with ⟨rfl, -⟩ | ⟨rfl | rfl | rfl | rfl, -⟩ <;> rfl

theorem NameAt.goesOn {own more : List Char} (h : NameAt '@' (own ++ more) name)
    (hown : ∀ c ∈ own, continuesName c = true) : '@' :: own <+: name.toList := by
  obtain ⟨hc, -⟩ | ⟨-, named, length, hlength, rfl⟩ := h
  · cases hc
  · have hle := le_of_parameterName hlength
    rw [List.takeWhile_append_of_pos hown, List.length_append, Nat.zero_add] at hle
    rw [String.toList_ofList, List.prefix_cons_inj, List.prefix_take_iff]
    exact ⟨List.prefix_append .., by omega⟩

theorem lexemesFrom_cons (fuel base : Nat) (c : Char) (rest : List Char) :
    lexemesFrom (fuel + 1) base (c :: rest) =
      ((first c rest).1.map (Lexeme.mk · base)).toList ++
        lexemesFrom fuel (base + (first c rest).2) ((c :: rest).drop (first c rest).2) := by
  have hdrop : (c :: rest).drop (first c rest).2 = rest.drop ((first c rest).2 - 1) := by
    obtain ⟨n, hn⟩ := Nat.exists_eq_add_of_le' (readAt_first c rest).pos
    rw [hn]
    rfl
  rw [hdrop, lexemesFrom]
  rcases first c rest with ⟨_ | token, length⟩ <;> rfl

theorem mem_lexemesFrom {l : Lexeme} (fuel base : Nat) (text : List Char)
    (h : l ∈ lexemesFrom fuel base (text.drop base)) : base ≤ l.offset ∧ l.StandsIn text := by
  induction fuel generalizing base with
  | zero => cases h
  | succ fuel ih =>
    cases htext : text.drop base with
    | nil =>
      rw [htext] at h
      cases h
    | cons c rest =>
      rw [htext, lexemesFrom_cons, ← htext, List.drop_drop, List.mem_append] at h
      rcases h with h | h
      · obtain ⟨token, htoken, rfl⟩ : ∃ token, (first c rest).1 = some token ∧ ⟨token, base⟩ = l := by
          simpa using h
        exact ⟨Nat.le_refl base, c, rest, htext, htoken⟩
      · obtain ⟨hle, hl⟩ := ih _ h
        exact ⟨Nat.le_of_add_right_le hle, hl⟩

theorem pairwise_lexemesFrom (fuel base : Nat) (text : List Char) :
    (lexemesFrom fuel base (text.drop base)).Pairwise (·.offset < ·.offset) := by
  induction fuel generalizing base with
  | zero => exact .nil
  | succ fuel ih =>
    cases htext : text.drop base with
    | nil => exact .nil
    | cons c rest =>
      rw [lexemesFrom_cons, ← htext, List.drop_drop, List.pairwise_append]
      refine ⟨?_, ih _, fun l hl l' hl' => ?_⟩
      · cases (first c rest).1 <;> simp
      · have hpos := (readAt_first c rest).pos
        have hafter := (mem_lexemesFrom _ _ _ hl').1
        obtain ⟨token, -, rfl⟩ : ∃ token, (first c rest).1 = some token ∧ ⟨token, base⟩ = l := by
          simpa using hl
        dsimp only
        omega

end Token

namespace Source

theorem sublist_lexemes (text : String) :
    (first text).lexemes.Sublist
      (Token.lexemesFrom (first text).text.length 0 (first text).text) := by
  have hchars : Token.lexemes (first text).text =
      Token.lexemesFrom (first text).text.length 0 (first text).text := by
    have hcut : (first text).text.takeWhile (· != '\x00') = (first text).text := by
      simp only [first, List.takeWhile_takeWhile, and_self, Bool.decide_eq_true]
    rw [Token.lexemes, hcut]
  rw [← hchars]
  exact (List.takeWhile_sublist _).trans (List.dropWhile_sublist _)

theorem standsIn_of_mem {text : String} {l : Lexeme} (h : l ∈ (first text).lexemes) :
    l.StandsIn (first text).text :=
  (Token.mem_lexemesFrom _ 0 _ ((sublist_lexemes text).mem h)).2

def parameters (s : Source) : List (String × Nat) := s.lexemes.filterMap Lexeme.parameter?

theorem mem_parameters {s : Source} {name : String} {offset : Nat} :
    (name, offset) ∈ s.parameters ↔ ⟨.parameter name, offset⟩ ∈ s.lexemes := by
  rw [parameters, List.mem_filterMap]
  constructor
  · rintro ⟨⟨token, place⟩, hl, he⟩
    cases token with
    | parameter own =>
      obtain ⟨rfl, rfl⟩ := Prod.mk.inj (Option.some.inj he)
      exact hl
    | _ => cases he
  · exact fun hl => ⟨_, hl, rfl⟩

theorem pairwise_parameters (text : String) :
    (first text).parameters.Pairwise (·.2 < ·.2) := by
  have hlexemes := (Token.pairwise_lexemesFrom _ 0 (first text).text).sublist (sublist_lexemes text)
  rw [parameters, List.pairwise_filterMap]
  refine hlexemes.imp fun {l l'} hlt q hq q' hq' => ?_
  obtain ⟨token, place⟩ := l
  obtain ⟨token', place'⟩ := l'
  cases token with
  | parameter name =>
    cases token' with
    | parameter name' =>
      obtain rfl := Option.some.inj hq
      obtain rfl := Option.some.inj hq'
      exact hlt
    | _ => cases hq'
  | _ => cases hq

theorem nameAt_of_mem {text name : String} {offset : Nat} (h : (name, offset) ∈ (first text).parameters) :
    ∃ c rest, (first text).text.drop offset = c :: rest ∧ Token.NameAt c rest name := by
  obtain ⟨c, rest, htext, htoken⟩ := standsIn_of_mem (mem_parameters.mp h)
  exact ⟨c, rest, htext, (Token.readAt_first c rest).parameter name htoken⟩

theorem takeWhile_drop {p : Char → Bool} {cs : List Char} {c : Char} {rest : List Char} {n : Nat}
    (h : (cs.takeWhile p).drop n = c :: rest) : (cs.drop n).takeWhile p = c :: rest := by
  induction cs generalizing n with
  | nil => simp at h
  | cons d cs ih =>
    cases n with
    | zero => exact h
    | succ n =>
      by_cases hd : p d = true
      · rw [List.takeWhile_cons_of_pos hd] at h
        exact ih h
      · rw [List.takeWhile_cons_of_neg hd] at h
        cases h

theorem drop_text {text : String} {offset : Nat} {own more rest : List Char} {c : Char}
    (h : (first text).text.drop offset = c :: rest) (htext : text.toList.drop offset = own ++ more)
    (hown : ∀ d ∈ own, d ≠ '\x00') : ∃ more', c :: rest = own ++ more' := by
  have hread := takeWhile_drop h
  rw [htext, List.takeWhile_append_of_pos (by simpa using hown)] at hread
  exact ⟨_, hread.symm⟩

theorem parameter_unique {text : String} {name name' : String} {offset : Nat}
    (h : (name, offset) ∈ (first text).parameters) (h' : (name', offset) ∈ (first text).parameters) :
    name = name' := by
  obtain ⟨c, rest, htext, htoken⟩ := standsIn_of_mem (mem_parameters.mp h)
  obtain ⟨c', rest', htext', htoken'⟩ := standsIn_of_mem (mem_parameters.mp h')
  obtain ⟨rfl, rfl⟩ := List.cons.inj (htext.symm.trans htext')
  exact Token.parameter.inj (Option.some.inj (htoken.symm.trans htoken'))

end Source

end EndpointGate.Sql
