import EndpointGate.Disk.Stores
import EndpointGate.Proofs.Transaction

/-! Places on a disk. A path that can be followed leads where its pieces lead as they are written. What
is done to a file leaves all other places as they are, and every path leads where it led; directories that
are made leave all else as it was. -/

namespace EndpointGate

/-- Paths that start alike and never go back: where they lead can be told from how they are written. -/
structure Path.Comparable (a b : String) : Prop where
  left : ['.', '.'] ∉ pieces a.toList
  right : ['.', '.'] ∉ pieces b.toList
  front : (front a.toList).1 = (front b.toList).1

theorem Refusal.guard_eq_ok {α : Type} {refused : Refusal} {d : Disk} {path : String}
    {asked : Except DiskFault α} {a : α} (h : refused.guard d path asked = .ok a) : asked = .ok a := by
  unfold guard at h
  split at h
  · cases h
  · exact h

namespace Disk

open Sql (bind_eq_ok)

variable {d d' : Disk} {p q : Place} {n : Node} {c : Content} {path : String} {refused : Refusal}

section Nodes

theorem node?_put_self (hp : p ≠ []) : (d.put p n).node? p = some n := by
  simp [node?, put, hp]

theorem node?_remove_of_ne (h : q ≠ p) : (d.remove p).node? q = d.node? q := by
  have hpq : (fun e : Place × Node => decide ((e.1 != p) = true ∧ (e.1 == q) = true)) =
      fun e => e.1 == q := by
    funext e
    by_cases he : e.1 = q <;> simp [he, h]
  simp only [node?, remove, List.find?_filter, hpq]

theorem node?_remove_self (hp : p ≠ []) : (d.remove p).node? p = none := by
  simp [node?, remove, hp]

theorem node?_put_of_ne (h : q ≠ p) : (d.put p n).node? q = d.node? q := by
  have hfind : (d.put p n).node? q = (d.remove p).node? q := by
    simp [node?, put, Ne.symm h]
  rw [hfind, node?_remove_of_ne h]

theorem ne_nil_of_isDirectory (h : d.isDirectory p = false) : p ≠ [] := by
  rintro rfl
  cases h

theorem isDirectory_of_file (h : d.node? p = some (.file c)) : d.isDirectory p = false := by
  rw [isDirectory, h]

end Nodes

section Following

theorem foldl_of_follow {pieces : List (List Char)} (h : d.follow p pieces = .ok q) :
    q = pieces.foldl step p := by
  induction pieces generalizing p with
  | nil => exact (Except.ok.inj h).symm
  | cons piece rest ih =>
    obtain ⟨-, -, h⟩ := bind_eq_ok h
    exact ih h

theorem storePlace_of_locate (h : d.locate path = .ok p) : d.storePlace path = p := by
  unfold locate at h
  simp only at h
  split at h
  · cases h
  · split at h
    · cases h
    · exact (foldl_of_follow h).symm

theorem storePlace_congr (h : d'.workingDirectory = d.workingDirectory) (path : String) :
    d'.storePlace path = d.storePlace path := by
  rw [storePlace, start, h, storePlace, start]

theorem foldl_step_of_forward {pieces : List (List Char)} (h : ['.', '.'] ∉ pieces) (p : Place) :
    pieces.foldl step p = p ++ (pieces.filter (!Path.isIdle ·)).map String.ofList := by
  induction pieces generalizing p with
  | nil => simp
  | cons piece rest ih =>
    obtain ⟨hpiece, hrest⟩ := not_or.mp (mt List.mem_cons.mpr h)
    rw [List.foldl_cons, ih hrest, step]
    by_cases hidle : Path.isIdle piece = true
    · simp [hidle]
    · simp [hidle, Ne.symm hpiece]

theorem pieces_front (cs : List Char) :
    (Path.pieces (Path.front cs).2).filter (!Path.isIdle ·) =
      (Path.pieces cs).filter (!Path.isIdle ·) := by
  unfold Path.front
  split <;> simp [Path.pieces, Path.piecesFrom, Path.isIdle]

theorem front_eq_root {cs : List Char} : (Path.front cs).1 = ['/'] ↔ cs.head? = some '/' := by
  unfold Path.front
  split
  · simp
  · simp
  · simp
  · rename_i hroot _ _
    cases cs with
    | nil => simp
    | cons c rest =>
      have hc : c ≠ '/' := by
        rintro rfl
        exact hroot rest rfl
      simp [hc]

theorem storePlace_ne_of_not_same {a b : String} (h : Path.Comparable a b)
    (hsame : Path.same a b = false) : d.storePlace a ≠ d.storePlace b := by
  obtain ⟨ha, hb, hfront⟩ := h
  have hstart : d.start a.toList = d.start b.toList := by
    simp only [start, ← front_eq_root, hfront]
  intro hplace
  rw [storePlace, storePlace, foldl_step_of_forward ha, foldl_step_of_forward hb, hstart] at hplace
  have hnames := List.map_inj_right (fun _ _ => String.ofList_inj.mp) |>.mp
    (List.append_cancel_left hplace)
  have hcomponents : Path.components a = Path.components b := by
    simp only [Path.components, pieces_front, hfront, hnames]
  rw [Path.same, hcomponents, beq_self_eq_true] at hsame
  cases hsame

structure SameDirectories (d d' : Disk) : Prop where
  workingDirectory : d'.workingDirectory = d.workingDirectory
  isDirectory : ∀ p, d'.isDirectory p = d.isDirectory p

namespace SameDirectories

theorem refl (d : Disk) : d.SameDirectories d := ⟨rfl, fun _ => rfl⟩

theorem trans {d'' : Disk} (h : d.SameDirectories d') (h' : d'.SameDirectories d'') :
    d.SameDirectories d'' :=
  ⟨h'.workingDirectory.trans h.workingDirectory, fun p => (h'.isDirectory p).trans (h.isDirectory p)⟩

theorem storePlace (h : d.SameDirectories d') (path : String) :
    d'.storePlace path = d.storePlace path :=
  storePlace_congr h.workingDirectory path

theorem require (h : d.SameDirectories d') (p : Place) :
    d'.require p = .ok () ↔ d.require p = .ok () := by
  have hrequire : ∀ e : Disk, e.require p = .ok () ↔ e.isDirectory p = true := by
    intro e
    unfold Disk.require Disk.isDirectory
    rcases e.node? p with _ | _ | _ <;> simp
  rw [hrequire, hrequire, h.isDirectory]

theorem follow (h : d.SameDirectories d') {pieces : List (List Char)} :
    d'.follow p pieces = .ok q ↔ d.follow p pieces = .ok q := by
  induction pieces generalizing p with
  | nil => exact Iff.rfl
  | cons piece rest ih =>
    have hbind : ∀ e : Disk, e.follow p (piece :: rest) = .ok q ↔
        e.require p = .ok () ∧ e.follow (step p piece) rest = .ok q := by
      intro e
      rw [Disk.follow]
      cases e.require p <;> simp [bind, Except.bind]
    rw [hbind, hbind, h.require, ih]

theorem locate (h : d.SameDirectories d') : d'.locate path = .ok p ↔ d.locate path = .ok p := by
  unfold Disk.locate
  simp only [start, h.workingDirectory]
  split
  · exact Iff.rfl
  · split
    · exact Iff.rfl
    · exact h.follow

end SameDirectories

theorem sameDirectories_put (hp : d.isDirectory p = false) (c : Content) :
    d.SameDirectories (d.put p (.file c)) := by
  refine ⟨rfl, fun q => ?_⟩
  by_cases hq : q = p
  · rw [hq, hp, isDirectory, node?_put_self (ne_nil_of_isDirectory hp)]
  · rw [isDirectory, node?_put_of_ne hq, isDirectory]

theorem sameDirectories_remove (hp : d.isDirectory p = false) : d.SameDirectories (d.remove p) := by
  refine ⟨rfl, fun q => ?_⟩
  by_cases hq : q = p
  · rw [hq, hp, isDirectory, node?_remove_self (ne_nil_of_isDirectory hp)]
  · rw [isDirectory, node?_remove_of_ne hq, isDirectory]

end Following

section Directories

/-- A disk on which there are more directories, and all else is as it was. -/
structure Extends (d d' : Disk) : Prop where
  workingDirectory : d'.workingDirectory = d.workingDirectory
  node? : ∀ p, d'.node? p = d.node? p ∨ d.node? p = none ∧ d'.node? p = some .directory

namespace Extends

theorem refl (d : Disk) : d.Extends d := ⟨rfl, fun _ => Or.inl rfl⟩

theorem trans {d'' : Disk} (h : d.Extends d') (h' : d'.Extends d'') : d.Extends d'' := by
  refine ⟨h'.workingDirectory.trans h.workingDirectory, fun p => ?_⟩
  rcases h'.node? p with hp | ⟨hnone, hp⟩ <;> rcases h.node? p with hp' | ⟨hnone', hp'⟩
  · exact Or.inl (hp.trans hp')
  · exact Or.inr ⟨hnone', hp.trans hp'⟩
  · exact Or.inr ⟨hp' ▸ hnone, hp⟩
  · rw [hp'] at hnone
    cases hnone

theorem storePlace (h : d.Extends d') (path : String) : d'.storePlace path = d.storePlace path :=
  storePlace_congr h.workingDirectory path

theorem keeps (h : d.Extends d') (hn : d.node? p = some n) : d'.node? p = some n := by
  rcases h.node? p with hp | ⟨hnone, -⟩
  · rw [hp, hn]
  · rw [hn] at hnone
    cases hnone

theorem file (h : d.Extends d') (hp : d'.node? p = some (.file c)) : d.node? p = some (.file c) := by
  rcases h.node? p with hsame | ⟨-, hdirectory⟩
  · rw [← hsame, hp]
  · rw [hp] at hdirectory
    cases hdirectory

theorem isDirectory (h : d.Extends d') (hp : d.isDirectory p = true) : d'.isDirectory p = true := by
  unfold Disk.isDirectory at hp
  split at hp
  · rename_i hn
    rw [Disk.isDirectory, h.keeps hn]
  · cases hp

end Extends

theorem makeDirectory_extends (h : d.makeDirectory path refused = .ok d') : d.Extends d' := by
  obtain ⟨p, -, h⟩ := bind_eq_ok (Refusal.guard_eq_ok h)
  split at h
  · cases h
  · rename_i hnone
    obtain rfl := Except.ok.inj h
    refine ⟨rfl, fun q => ?_⟩
    by_cases hq : q = p
    · subst hq
      have hne : q ≠ [] := by
        rintro rfl
        cases hnone
      exact Or.inr ⟨hnone, node?_put_self hne⟩
    · exact Or.inl (node?_put_of_ne hq)

theorem makeDirectories_extends (refused : Refusal) (fuel : Nat) (d : Disk) (path : String) :
    d.Extends (makeDirectories refused fuel d path).2 := by
  induction fuel generalizing d path with
  | zero => exact .refl d
  | succ fuel ih =>
    unfold makeDirectories
    split
    · exact .refl d
    · split
      · rename_i hmade
        exact makeDirectory_extends hmade
      · split
        · split
          · exact .refl d
          · -- what has been made above stays, whether or not the directory itself can be made
            rename_i above _
            have habove := ih d above
            rcases hr : makeDirectories refused fuel d above with ⟨fault | u, d₁⟩ <;> rw [hr] at habove
            · exact habove
            · simp only
              split
              · rename_i hmade
                exact habove.trans (makeDirectory_extends hmade)
              · split <;> exact habove
        · split <;> exact .refl d

end Directories

section Files

theorem removeFile_eq_ok (h : d.removeFile path refused = .ok d') :
    ∃ p c, d.locate path = .ok p ∧ d.node? p = some (.file c) ∧ d' = d.remove p := by
  obtain ⟨p, hp, h⟩ := bind_eq_ok (Refusal.guard_eq_ok h)
  split at h
  · cases h
  · cases h
  · rename_i c hc
    exact ⟨p, c, hp, hc, (Except.ok.inj h).symm⟩

theorem removeFile_of_file (hp : d.locate path = .ok p) (hc : d.node? p = some (.file c)) :
    d.removeFile path = .ok (d.remove p) := by
  simp only [removeFile, Refusal.guard, Refusal.never, hp, hc, bind, Except.bind, pure, Except.pure]

theorem locateNew_of_no_separator (h : path.toList.getLast? ≠ some '/') :
    d.locateNew path = d.locate path := by
  have htrimmed : (path.toList.reverse.dropWhile (· == '/')).reverse = path.toList := by
    rw [List.getLast?_eq_head?_reverse] at h
    cases hr : path.toList.reverse with
    | nil => simpa using (congrArg List.reverse hr).symm
    | cons c rest =>
      have hc : (c == '/') = false := by
        rw [hr] at h
        simpa using h
      rw [List.dropWhile_cons_of_neg (by simp [hc]), ← hr, List.reverse_reverse]
  have hempty : (path.toList.isEmpty && !path.isEmpty) = false := by
    cases hp : path.toList with
    | nil =>
      obtain rfl : path = "" := String.toList_inj.mp hp
      rfl
    | cons => rfl
  simp only [locateNew, htrimmed, hempty, Bool.false_eq_true, if_false, String.ofList_toList]

theorem removeIfPresent_eq_ok (h : d.removeIfPresent path refused = .ok d') :
    d' = d ∨ ∃ p c, d.locate path = .ok p ∧ d.node? p = some (.file c) ∧ d' = d.remove p := by
  unfold removeIfPresent at h
  split at h
  · exact Or.inl (Except.ok.inj h).symm
  · exact Or.inr (removeFile_eq_ok h)

theorem rename_eq_ok {source target : String} (h : d.rename source target refused = .ok d') :
    ∃ p q c, d.locate source = .ok p ∧ d.locate target = .ok q ∧ d.node? p = some (.file c) ∧
      d.isDirectory q = false ∧ d' = if p = q then d else (d.remove p).put q (.file c) := by
  obtain ⟨p, hp, h⟩ := bind_eq_ok (Refusal.guard_eq_ok h)
  obtain ⟨q, hq, h⟩ := bind_eq_ok h
  dsimp only at h
  split at h
  · split at h
    · rename_i c hc
      split at h
      · cases h
      · rename_i hlast
        rw [locateNew_of_no_separator hlast] at hq
        split at h
        · cases h
        · rename_i hfree
          have hdirectory : d.isDirectory q = false := by
            unfold isDirectory
            split
            · rename_i hq'
              exact absurd hq' hfree
            · rfl
          refine ⟨p, q, c, hp, hq, hc, hdirectory, ?_⟩
          split at h
          · rename_i hpq
            rw [if_pos hpq, Except.ok.inj h]
          · rename_i hpq
            rw [if_neg hpq, ← Except.ok.inj h]
    · cases h
  · cases h

end Files

section Media

theorem mediumAt_eq_fleeting : d.mediumAt path = .fleeting ↔ path = "" ∨ path = ":memory:" := by
  unfold mediumAt
  constructor
  · intro h
    split at h
    · cases h
    · split at h
      · rename_i hpath
        simpa using hpath
      · dsimp only at h
        split at h
        · cases h
        · split at h <;> try cases h
          split at h <;> cases h
  · rintro (rfl | rfl) <;> rfl

theorem openable (hpath : d.mediumAt path ≠ .fleeting) (h : ∀ reason, d.mediumAt path ≠ .unopenable reason) :
    path.toList.contains '\x00' = false ∧ d.hasParent (d.storePlace path) = true ∧
      d.isDirectory (d.storePlace path) = false := by
  unfold mediumAt at hpath h
  split at h
  · exact absurd rfl (h _)
  · rename_i hnul
    rw [if_neg hnul] at hpath
    split at h
    · rename_i hfleeting
      rw [if_pos hfleeting] at hpath
      exact absurd rfl hpath
    · dsimp only at h
      split at h
      · exact absurd rfl (h _)
      · rename_i hparent
        refine ⟨by simpa using hnul, by simpa using hparent, ?_⟩
        split at h
        · exact absurd rfl (h _)
        · exact isDirectory_of_file ‹_›
        · exact isDirectory_of_file ‹_›
        · rename_i hnone
          rw [isDirectory, hnone]

theorem sameDirectories_removeIfPresent (h : d.removeIfPresent path refused = .ok d') :
    d.SameDirectories d' := by
  rcases removeIfPresent_eq_ok h with rfl | ⟨p, c, -, hc, rfl⟩
  · exact .refl d'
  · exact sameDirectories_remove (isDirectory_of_file hc)

theorem sameDirectories_rename {source target : String} (h : d.rename source target refused = .ok d') :
    d.SameDirectories d' := by
  obtain ⟨p, q, c, -, -, hc, hq, rfl⟩ := rename_eq_ok h
  split
  · exact .refl d
  · have hremoved : d.SameDirectories (d.remove p) :=
      sameDirectories_remove (isDirectory_of_file hc)
    exact hremoved.trans (sameDirectories_put ((hremoved.isDirectory q).trans hq) c)

end Media

end Disk

end EndpointGate
