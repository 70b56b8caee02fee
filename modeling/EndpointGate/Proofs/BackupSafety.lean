import EndpointGate.Proofs.BatchRun
import EndpointGate.Proofs.ConfigChecks
import EndpointGate.Proofs.DiskPlaces
import EndpointGate.Worker
import Mathlib.Data.List.Basic

/-! What a backup does to the file of the store that it copies. The deeds of a run, done one after another,
leave the disk that the run leaves. They spare the file unless the target leads to it, or the copy beside
the target does, or it stands where the copy's own journal or log would. -/

namespace EndpointGate

namespace Deed

def places : Deed → List Place
  | .wrote p _ | .removed p => [p]
  | .moved p q => [p, q]

def Spares (p : Place) (deed : Deed) : Prop := p ∉ deed.places

end Deed

def Path.isUri (path : String) : Bool := "file:".toList.isPrefixOf path.toList

theorem Companion.place_ne (k : Companion) (p : Place) : k.place p ≠ p := by
  intro h
  rcases List.eq_nil_or_concat p with rfl | ⟨before, last, rfl⟩
  · simp [place] at h
  · simp only [place, List.concat_eq_append, List.dropLast_concat, List.getLastD_concat] at h
    have hlength := congrArg String.length (List.singleton_inj.mp (List.append_cancel_left h))
    cases k <;> simp [suffix] at hlength

namespace Disk

variable {d d' : Disk} {p : Place} {deed : Deed} {deeds : List Deed} {path : String} {refused : Refusal}

section Deeds

theorem node?_perform (h : deed.Spares p) : (d.perform deed).node? p = d.node? p := by
  cases deed with
  | wrote q c => exact node?_put_of_ne (List.ne_of_not_mem_cons h)
  | removed q => exact node?_remove_of_ne (List.ne_of_not_mem_cons h)
  | moved q r =>
    obtain ⟨hq, hr⟩ : p ≠ q ∧ p ≠ r := by simpa [Deed.Spares, Deed.places] using h
    simp only [perform]
    split
    · rw [node?_put_of_ne hr, node?_remove_of_ne hq]
    · rfl

theorem node?_foldl_perform (h : ∀ deed ∈ deeds, deed.Spares p) :
    (deeds.foldl perform d).node? p = d.node? p := by
  induction deeds generalizing d with
  | nil => rfl
  | cons deed rest ih =>
    rw [List.forall_mem_cons] at h
    rw [List.foldl_cons, ih h.2, node?_perform h.1]

theorem sameDirectories_perform (h : ∀ q ∈ deed.places, d.isDirectory q = false) :
    d.SameDirectories (d.perform deed) := by
  cases deed with
  | wrote q c => exact sameDirectories_put (h q List.mem_cons_self) c
  | removed q => exact sameDirectories_remove (h q List.mem_cons_self)
  | moved q r =>
    have hq := h q List.mem_cons_self
    have hr := h r (List.mem_cons_of_mem _ List.mem_cons_self)
    simp only [perform]
    cases hn : d.node? q with
    | none => exact .refl d
    | some n =>
      cases n with
      | directory => simp [isDirectory, hn] at hq
      | file c =>
        have hremoved := sameDirectories_remove hq
        exact hremoved.trans (sameDirectories_put ((hremoved.isDirectory r).trans hr) c)

theorem sameDirectories_foldl (h : ∀ deed ∈ deeds, ∀ q ∈ deed.places, d.isDirectory q = false) :
    d.SameDirectories (deeds.foldl perform d) := by
  induction deeds generalizing d with
  | nil => exact .refl d
  | cons deed rest ih =>
    rw [List.forall_mem_cons] at h
    have hfirst := sameDirectories_perform h.1
    exact hfirst.trans (ih fun deed hdeed q hq => (hfirst.isDirectory q).trans (h.2 deed hdeed q hq))

theorem workingDirectory_foldl_perform (deeds : List Deed) (d : Disk) :
    (deeds.foldl perform d).workingDirectory = d.workingDirectory := by
  induction deeds generalizing d with
  | nil => rfl
  | cons deed rest ih =>
    rw [List.foldl_cons, ih]
    cases deed with
    | wrote | removed => rfl
    | moved p q =>
      simp only [perform]
      split <;> rfl

def removal (d : Disk) (path : String) (refused : Refusal := .never) : List Deed :=
  match d.removeFile path refused with
  | .ok _ => [.removed (d.storePlace path)]
  | .error _ => []

def move (d : Disk) (source target : String) : List Deed :=
  if d.storePlace source = d.storePlace target then []
  else [.moved (d.storePlace source) (d.storePlace target)]

theorem mem_removal (h : deed ∈ d.removal path refused) :
    deed = .removed (d.storePlace path) ∧ d.locate path = .ok (d.storePlace path) := by
  unfold removal at h
  split at h
  · rename_i hremove
    obtain ⟨p, c, hp, -, -⟩ := removeFile_eq_ok hremove
    rw [storePlace_of_locate hp] at h ⊢
    exact ⟨List.mem_singleton.mp h, hp⟩
  · cases h

theorem removal_of_file {c : Content} (hp : d.locate path = .ok p) (hc : d.node? p = some (.file c)) :
    d.removal path = [.removed p] := by
  rw [removal, removeFile_of_file hp hc, storePlace_of_locate hp]

theorem removeIfPresent_eq (h : d.removeIfPresent path refused = .ok d') :
    d' = (d.removal path refused).foldl perform d := by
  unfold removeIfPresent at h
  unfold removal
  cases hremove : d.removeFile path refused with
  | ok d₁ =>
    obtain ⟨p, c, hp, -, rfl⟩ := removeFile_eq_ok hremove
    rw [hremove] at h
    rw [storePlace_of_locate hp]
    exact (Except.ok.inj h).symm
  | error fault =>
    rw [hremove] at h
    split at h
    · exact (Except.ok.inj h).symm
    · cases h

theorem rename_eq {source target : String} (h : d.rename source target refused = .ok d') :
    d' = (d.move source target).foldl perform d := by
  obtain ⟨p, q, c, hp, hq, hc, -, rfl⟩ := rename_eq_ok h
  rw [move, storePlace_of_locate hp, storePlace_of_locate hq]
  split
  · rfl
  · simp only [List.foldl_cons, List.foldl_nil, perform, hc]

theorem isDirectory_of_hasOctets (h : d.hasOctets p = true) : d.isDirectory p = false := by
  unfold hasOctets at h
  split at h
  · exact isDirectory_of_file ‹_›
  · cases h

theorem mem_dropping (h : deed ∈ d.dropping p) : deed = .removed p ∧ d.isDirectory p = false := by
  unfold dropping at h
  split at h
  · rename_i hoctets
    exact ⟨List.mem_singleton.mp h, isDirectory_of_hasOctets hoctets⟩
  · cases h

theorem mem_touching {s : Store} (h : deed ∈ d.touching s) :
    deed = .wrote (d.storePlace s.path) (.text "") ∧ d.node? (d.storePlace s.path) = none := by
  unfold touching at h
  split at h
  · exact ⟨List.mem_singleton.mp h, ‹_›⟩
  · cases h

end Deeds

end Disk

namespace Backup

open Disk

variable {b : Backup} {lock : Option Lock} {w : Circumstances} {d d₁ d₂ d' : Disk} {c : Content}
  {deed : Deed} {path : String} {db : Sql.Database} {i : Option Interruption}

section Writing

theorem mem_through {steps : List (Except StoreError (List Deed))} (h : deed ∈ (through steps).2) :
    ∃ deeds, .ok deeds ∈ steps ∧ deed ∈ deeds := by
  induction steps with
  | nil => cases h
  | cons step rest ih =>
    cases step with
    | error e => cases h
    | ok deeds =>
      rcases List.mem_append.mp h with h | h
      · exact ⟨deeds, List.mem_cons_self, h⟩
      · obtain ⟨more, hmore, h⟩ := ih h
        exact ⟨more, List.mem_cons_of_mem _ hmore, h⟩

theorem through_eq_ok {steps : List (Except StoreError (List Deed))}
    (h : (through steps).1 = .ok ()) :
    ∃ parts : List (List Deed), steps = parts.map .ok ∧ (through steps).2 = parts.flatten := by
  induction steps with
  | nil => exact ⟨[], rfl, rfl⟩
  | cons step rest ih =>
    cases step with
    | error e => cases h
    | ok deeds =>
      obtain ⟨parts, hparts, hdeeds⟩ := ih h
      exact ⟨deeds :: parts, by rw [hparts, List.map_cons], congrArg (deeds ++ ·) hdeeds⟩

theorem vacuumInto_eq_take (path : String) (db : Sql.Database) (d : Disk) (i : Option Interruption) :
    ∃ c n, (vacuumInto path db d i).2 = (through ((steps path c d).take n)).2 := by
  cases i with
  | none => exact ⟨.database db, 5, rfl⟩
  | some i => exact ⟨i.written, i.after, rfl⟩

theorem mem_vacuumInto (h : deed ∈ (vacuumInto path db d i).2) :
    (∃ c, deed = .wrote (d.storePlace path) c) ∨
      ∃ k : Companion, k ≠ .index ∧ deed = .removed (k.place (d.storePlace path)) ∧
        d.isDirectory (k.place (d.storePlace path)) = false := by
  obtain ⟨c, n, htake⟩ := vacuumInto_eq_take path db d i
  obtain ⟨deeds, hdeeds, hdeed⟩ := mem_through (htake ▸ h)
  have hstep := List.mem_of_mem_take hdeeds
  simp only [steps, List.mem_cons, List.not_mem_nil, or_false] at hstep
  rcases hstep with hfile | hjournal | hlog | hown | hwritten
  · split at hfile
    · cases hfile
    · split at hfile
      · cases hfile
      · obtain rfl := Except.ok.inj hfile
        exact Or.inl ⟨_, List.mem_singleton.mp hdeed⟩
  · obtain rfl := Except.ok.inj hjournal
    exact Or.inr ⟨.journal, by decide, mem_dropping hdeed⟩
  · split at hlog
    · cases hlog
    · obtain rfl := Except.ok.inj hlog
      exact Or.inr ⟨.log, by decide, mem_dropping hdeed⟩
  · split at hown
    · cases hown
    · rename_i hfree
      obtain rfl := Except.ok.inj hown
      exact Or.inr ⟨.journal, by decide, List.mem_singleton.mp hdeed, by simpa using hfree⟩
  · obtain rfl := Except.ok.inj hwritten
    exact Or.inl ⟨_, List.mem_singleton.mp hdeed⟩

theorem vacuumInto_of_unopenable {reason : String} (h : d.mediumAt path = .unopenable reason) :
    (vacuumInto path db d i).2 = [] := by
  obtain ⟨c, n, htake⟩ := vacuumInto_eq_take path db d i
  rw [htake]
  cases n with
  | zero => rfl
  | succ n => simp only [steps, h, List.take_succ_cons, through]

theorem vacuumInto_eq_ok (h : (vacuumInto path db d i).1 = .ok ()) :
    ∃ before, (vacuumInto path db d i).2 = before ++ [.wrote (d.storePlace path) (.database db)] ∧
      .removed (Companion.journal.place (d.storePlace path)) ∈ before ∧
      d.dropping (Companion.log.place (d.storePlace path)) ⊆ before := by
  cases i with
  | some i =>
    simp only [vacuumInto] at h
    cases hr : (through ((steps path i.written d).take i.after)).1 <;> rw [hr] at h <;> cases h
  | none =>
    obtain ⟨parts, hparts, hdeeds⟩ := through_eq_ok h
    have hsteps : (steps path (.database db) d).length = 5 := rfl
    rw [hparts, List.length_map] at hsteps
    obtain ⟨p₁, p₂, p₃, p₄, p₅, rfl⟩ : ∃ p₁ p₂ p₃ p₄ p₅, parts = [p₁, p₂, p₃, p₄, p₅] := by
      match parts, hsteps with
      | [p₁, p₂, p₃, p₄, p₅], _ => exact ⟨p₁, p₂, p₃, p₄, p₅, rfl⟩
    simp only [steps, List.map_cons, List.map_nil, List.cons.injEq, and_true] at hparts
    obtain ⟨-, -, hlog, hown, hwritten⟩ := hparts
    have hlog : p₃ = d.dropping (Companion.log.place (d.storePlace path)) := by
      split at hlog
      · cases hlog
      · exact (Except.ok.inj hlog).symm
    have hown : p₄ = [.removed (Companion.journal.place (d.storePlace path))] := by
      split at hown
      · cases hown
      · exact (Except.ok.inj hown).symm
    have hwritten : p₅ = [.wrote (d.storePlace path) (.database db)] :=
      (Except.ok.inj hwritten).symm
    refine ⟨p₁ ++ p₂ ++ p₃ ++ p₄, ?_, ?_, ?_⟩
    · have hall : (vacuumInto path db d none).2 = [p₁, p₂, p₃, p₄, p₅].flatten := hdeeds
      rw [hall, hwritten]
      simp
    · simp [hown]
    · intro deed hdeed
      simp [hlog, hdeed]

end Writing

section Copying

def reading (b : Backup) (d : Disk) (w : Circumstances) : List Deed :=
  d.touching (d.storeAt b.primary none) ++
    w.sweeping.flatMap fun k => d.dropping (k.place (d.storePlace b.primary))

def writing (b : Backup) (d : Disk) (w : Circumstances) : Except StoreError Unit × List Deed :=
  vacuumInto b.sibling (d.storeAt b.primary none).tables ((b.reading d w).foldl perform d) w.copying

theorem copyInto_cases (b : Backup) (lock : Option Lock) (d : Disk) (w : Circumstances) :
    (∃ e, b.copyInto lock d w = (.error e, []) ∨ b.copyInto lock d w = (.error e, b.reading d w)) ∨
      d.storePlace b.sibling ≠ d.storePlace b.primary ∧
        b.copyInto lock d w = ((b.writing d w).1, b.reading d w ++ (b.writing d w).2) := by
  unfold copyInto
  dsimp only
  cases hconnect : (d.storeAt b.primary lock).connect with
  | error e => exact Or.inl ⟨e, Or.inl rfl⟩
  | ok conn =>
    dsimp only
    rw [(Store.connect_atRest hconnect).1]
    split
    · exact Or.inl ⟨_, Or.inr rfl⟩
    · split
      · exact Or.inl ⟨_, Or.inr rfl⟩
      · exact Or.inr ⟨‹_›, rfl⟩

theorem copyInto_eq_ok (h : (b.copyInto lock d w).1 = .ok ()) :
    d.storePlace b.sibling ≠ d.storePlace b.primary ∧ (b.writing d w).1 = .ok () ∧
      (b.copyInto lock d w).2 = b.reading d w ++ (b.writing d w).2 := by
  rcases copyInto_cases b lock d w with ⟨e, hcopy | hcopy⟩ | ⟨hapart, hcopy⟩
  · rw [hcopy] at h
    cases h
  · rw [hcopy] at h
    cases h
  · rw [hcopy] at h ⊢
    exact ⟨hapart, h, rfl⟩

theorem mem_reading (h : deed ∈ b.reading d w) :
    deed = .wrote (d.storePlace b.primary) (.text "") ∧ d.node? (d.storePlace b.primary) = none ∨
      ∃ k : Companion, deed = .removed (k.place (d.storePlace b.primary)) ∧
        d.isDirectory (k.place (d.storePlace b.primary)) = false := by
  rcases List.mem_append.mp h with h | h
  · exact Or.inl (mem_touching h)
  · obtain ⟨k, -, h⟩ := List.mem_flatMap.mp h
    exact Or.inr ⟨k, mem_dropping h⟩

theorem sameDirectories_reading (b : Backup) (d : Disk) (w : Circumstances) :
    d.SameDirectories ((b.reading d w).foldl perform d) := by
  refine sameDirectories_foldl fun deed hdeed q hq => ?_
  rcases mem_reading hdeed with ⟨rfl, hnone⟩ | ⟨k, rfl, hfree⟩ <;> rw [List.mem_singleton.mp hq]
  · rw [isDirectory, hnone]
  · exact hfree

theorem mediumAt_sibling_ne_fleeting (b : Backup) (d : Disk) : d.mediumAt b.sibling ≠ .fleeting := by
  intro h
  have hlast : b.sibling.toList.getLast? = some 'l' := by simp [sibling]
  rcases mediumAt_eq_fleeting.mp h with h | h <;> simp [h] at hlast

theorem openable_of_mem_writing (h : deed ∈ (b.writing d w).2) :
    b.sibling.toList.contains '\x00' = false ∧ d.hasParent (d.storePlace b.sibling) = true ∧
      d.isDirectory (d.storePlace b.sibling) = false := by
  have hsame := b.sameDirectories_reading d w
  have hopenable := openable (mediumAt_sibling_ne_fleeting b ((b.reading d w).foldl perform d))
    fun reason hreason => by
      rw [writing, vacuumInto_of_unopenable hreason] at h
      cases h
  rwa [hsame.storePlace, hasParent, hsame.isDirectory, hsame.isDirectory] at hopenable

theorem mem_writing (h : deed ∈ (b.writing d w).2) :
    (∃ c, deed = .wrote (d.storePlace b.sibling) c) ∨
      ∃ k : Companion, k ≠ .index ∧ deed = .removed (k.place (d.storePlace b.sibling)) ∧
        d.isDirectory (k.place (d.storePlace b.sibling)) = false := by
  have hsame := b.sameDirectories_reading d w
  have hmem := mem_vacuumInto h
  simpa only [hsame.storePlace, hsame.isDirectory] using hmem

theorem mem_copyInto (h : deed ∈ (b.copyInto lock d w).2) :
    deed ∈ b.reading d w ∨
      d.storePlace b.sibling ≠ d.storePlace b.primary ∧ deed ∈ (b.writing d w).2 := by
  rcases copyInto_cases b lock d w with ⟨e, hcopy | hcopy⟩ | ⟨hapart, hcopy⟩ <;> rw [hcopy] at h
  · cases h
  · exact Or.inl h
  · exact (List.mem_append.mp h).imp_right fun h => ⟨hapart, h⟩

theorem sameDirectories_copyInto (b : Backup) (lock : Option Lock) (d : Disk) (w : Circumstances) :
    d.SameDirectories ((b.copyInto lock d w).2.foldl perform d) := by
  refine sameDirectories_foldl fun deed hdeed q hq => ?_
  rcases mem_copyInto hdeed with hread | ⟨-, hwritten⟩
  · rcases mem_reading hread with ⟨rfl, hnone⟩ | ⟨k, rfl, hfree⟩ <;> rw [List.mem_singleton.mp hq]
    · rw [isDirectory, hnone]
    · exact hfree
  · rcases mem_writing hwritten with ⟨c, rfl⟩ | ⟨k, -, rfl, hfree⟩ <;> rw [List.mem_singleton.mp hq]
    · exact (openable_of_mem_writing hwritten).2.2
    · exact hfree

theorem spares_reading (hfile : d.node? (d.storePlace b.primary) = some (.file c)) :
    ∀ deed ∈ b.reading d w, deed.Spares (d.storePlace b.primary) := by
  intro deed hdeed
  rcases mem_reading hdeed with ⟨-, hnone⟩ | ⟨k, rfl, -⟩
  · rw [hfile] at hnone
    cases hnone
  · simpa [Deed.Spares, Deed.places] using (k.place_ne _).symm

theorem spares_copyInto (hfile : d.node? (d.storePlace b.primary) = some (.file c))
    (h : deed ∈ (b.copyInto lock d w).2) : deed.Spares (d.storePlace b.primary) ∨
      deed = .removed (d.storePlace b.primary) ∧ ∃ k : Companion, k ≠ .index ∧
        d.storePlace b.primary = k.place (d.storePlace b.sibling) := by
  rcases mem_copyInto h with hread | ⟨hapart, hwritten⟩
  · exact Or.inl (spares_reading hfile deed hread)
  · rcases mem_writing hwritten with ⟨c, rfl⟩ | ⟨k, hk, rfl, -⟩
    · exact Or.inl (by simpa [Deed.Spares, Deed.places] using hapart.symm)
    · by_cases hplace : d.storePlace b.primary = k.place (d.storePlace b.sibling)
      · exact Or.inr ⟨by rw [hplace], k, hk, hplace⟩
      · exact Or.inl (by simpa [Deed.Spares, Deed.places] using hplace)

end Copying

section Running

def finishing (b : Backup) (d : Disk) (w : Circumstances) : List Deed :=
  match d.rename b.sibling b.target w.moving with
  | .error _ => d.removal b.sibling
  | .ok _ => d.move b.sibling b.target

def deeds (b : Backup) (lock : Option Lock) (d : Disk) (w : Circumstances) : List Deed :=
  match b.prepareDirectory d w with
  | (.error _, _) => []
  | (.ok (), d) =>
    match d.removeIfPresent b.sibling w.removing with
    | .error _ => []
    | .ok d' =>
      let (r, copying) := b.copyInto lock d' w
      d.removal b.sibling w.removing ++ copying ++
        match r with
        | .error _ => (copying.foldl perform d').removal b.sibling
        | .ok () => b.finishing (copying.foldl perform d') w

def Begun (b : Backup) (w : Circumstances) (d d₂ : Disk) : Prop :=
  ∃ d₁, b.prepareDirectory d w = (.ok (), d₁) ∧ d₁.removeIfPresent b.sibling w.removing = .ok d₂

theorem prepareDirectory_extends (b : Backup) (d : Disk) (w : Circumstances) :
    d.Extends (b.prepareDirectory d w).2 := by
  unfold prepareDirectory
  split
  · exact .refl d
  · exact makeDirectories_extends _ _ d _

theorem extends_of_prepared (h : b.prepareDirectory d w = (.ok (), d₁)) : d.Extends d₁ := by
  have hextends := b.prepareDirectory_extends d w
  rwa [h] at hextends

theorem Begun.storePlace (h : b.Begun w d d₂) (path : String) :
    d₂.storePlace path = d.storePlace path := by
  obtain ⟨d₁, hprepare, hremove⟩ := h
  rw [(sameDirectories_removeIfPresent hremove).storePlace, (extends_of_prepared hprepare).storePlace]

theorem copy_of_not_begun (h : ∀ d₂, ¬ b.Begun w d d₂) (lock : Option Lock) :
    (∃ path fault, (b.copy lock d w).1 = .error (.target path fault)) ∧ b.deeds lock d w = [] ∧
      (b.copy lock d w).2 = (b.prepareDirectory d w).2 := by
  rcases hprepare : b.prepareDirectory d w with ⟨e | u, d₁⟩
  · obtain ⟨path, fault, rfl⟩ : ∃ path fault, e = .target path fault := by
      unfold prepareDirectory at hprepare
      split at hprepare
      · cases (Prod.mk.inj hprepare).1
      · rename_i directory _
        rcases hr : d.makeAll directory w.making with ⟨fault | u, d₂⟩ <;> rw [hr] at hprepare
        · exact ⟨directory, fault, (Except.error.inj (Prod.mk.inj hprepare).1).symm⟩
        · cases (Prod.mk.inj hprepare).1
    refine ⟨⟨path, fault, ?_⟩, ?_, ?_⟩ <;> simp only [copy, deeds, hprepare]
  · cases hremove : d₁.removeIfPresent b.sibling w.removing with
    | ok d₂ => exact absurd ⟨d₁, hprepare, hremove⟩ (h d₂)
    | error fault =>
      refine ⟨⟨b.sibling, fault, ?_⟩, ?_, ?_⟩ <;> simp only [copy, deeds, hprepare, hremove]

theorem copy_of_begun (lock : Option Lock) (hprepare : b.prepareDirectory d w = (.ok (), d₁))
    (hremove : d₁.removeIfPresent b.sibling w.removing = .ok d₂) :
    let copying := (b.copyInto lock d₂ w).2
    let d₃ := copying.foldl perform d₂
    (∃ e, (b.copyInto lock d₂ w).1 = .error e ∧ b.copy lock d w = (.error (.copy e), b.cleared d₃) ∧
      b.deeds lock d w = d₁.removal b.sibling w.removing ++ copying ++ d₃.removal b.sibling) ∨
    (b.copyInto lock d₂ w).1 = .ok () ∧ b.copy lock d w = b.finish d₃ w ∧
      b.deeds lock d w = d₁.removal b.sibling w.removing ++ copying ++ b.finishing d₃ w := by
  rcases hcopy : b.copyInto lock d₂ w with ⟨e | u, copying⟩
  · refine Or.inl ⟨e, rfl, ?_, ?_⟩ <;> simp only [copy, deeds, hprepare, hremove, hcopy]
  · refine Or.inr ⟨rfl, ?_, ?_⟩ <;> simp only [copy, deeds, hprepare, hremove, hcopy]

theorem cleared_eq (b : Backup) (d : Disk) :
    b.cleared d = (d.removal b.sibling).foldl perform d := by
  unfold cleared
  cases hremove : d.removeIfPresent b.sibling with
  | ok d' => exact removeIfPresent_eq hremove
  | error fault =>
    have hnone : d.removal b.sibling = [] := by
      unfold removal
      split
      · rename_i hfile
        rw [removeIfPresent, hfile] at hremove
        cases hremove
      · rfl
    rw [hnone, List.foldl_nil]

theorem finish_eq (b : Backup) (d : Disk) (w : Circumstances) :
    (b.finish d w).2 = (b.finishing d w).foldl perform d := by
  unfold finish finishing
  cases hrename : d.rename b.sibling b.target w.moving with
  | error fault => exact cleared_eq b d
  | ok d' =>
    dsimp only
    rw [← rename_eq hrename]
    split <;> rfl

theorem copy_eq (b : Backup) (lock : Option Lock) (d : Disk) (w : Circumstances) :
    (b.copy lock d w).2 = (b.deeds lock d w).foldl perform (b.prepareDirectory d w).2 := by
  by_cases h : ∃ d₂, b.Begun w d d₂
  · obtain ⟨d₂, d₁, hprepare, hremove⟩ := h
    rcases copy_of_begun lock hprepare hremove with ⟨e, -, hcopy, hdeeds⟩ | ⟨-, hcopy, hdeeds⟩ <;>
      rw [hcopy, hdeeds, List.foldl_append, List.foldl_append, hprepare,
        ← removeIfPresent_eq hremove]
    · exact cleared_eq b _
    · exact finish_eq b _ w
  · obtain ⟨-, hdeeds, hdisk⟩ := copy_of_not_begun (not_exists.mp h) lock
    rw [hdisk, hdeeds, List.foldl_nil]

theorem run_result (b : Backup) (lock : Option Lock) (d : Disk) (m : Metrics) (j : Journal)
    (w : Circumstances) : (b.run lock d m j w).1 = (b.copy lock d w).1 ∧
      (b.run lock d m j w).2.1 = (b.copy lock d w).2 := by
  unfold run
  rcases b.copy lock d w with ⟨e | report, d'⟩ <;> exact ⟨rfl, rfl⟩

theorem finish_of_rename (h : d.rename b.sibling b.target w.moving = .ok d') :
    (b.finish d w).1.isOk = true := by
  have hsame := sameDirectories_rename h
  obtain ⟨p, q, c, -, hq, hc, hfree, hd⟩ := rename_eq_ok h
  have htarget : d'.locate b.target = .ok q := hsame.locate.mpr hq
  have hfile : d'.node? q = some (.file c) := by
    rw [hd]
    split
    · rename_i hpq
      rw [← hpq, hc]
    · exact node?_put_self (ne_nil_of_isDirectory hfree)
  simp only [finish, h, htarget, hfile]
  rfl

theorem rename_of_finish (h : (b.finish d w).1.isOk = true) :
    ∃ d', d.rename b.sibling b.target w.moving = .ok d' := by
  unfold finish at h
  split at h
  · cases h
  · exact ⟨_, ‹_›⟩

theorem begun_of_isOk (h : (b.copy lock d w).1.isOk = true) :
    ∃ d₂ d', b.Begun w d d₂ ∧ (b.copyInto lock d₂ w).1 = .ok () ∧
      ((b.copyInto lock d₂ w).2.foldl perform d₂).rename b.sibling b.target w.moving = .ok d' := by
  by_cases hbegun : ∃ d₂, b.Begun w d d₂
  · obtain ⟨d₂, d₁, hprepare, hremove⟩ := hbegun
    rcases copy_of_begun lock hprepare hremove with ⟨e, -, hcopy, -⟩ | ⟨hok, hcopy, -⟩ <;>
      rw [hcopy] at h
    · cases h
    · obtain ⟨d', hrename⟩ := rename_of_finish h
      exact ⟨d₂, d', ⟨d₁, hprepare, hremove⟩, hok, hrename⟩
  · obtain ⟨⟨path, fault, he⟩, -⟩ := copy_of_not_begun (not_exists.mp hbegun) lock
    rw [he] at h
    cases h

end Running

section Sparing

variable {p : Place}

/-- A store that has a file, under names that are paths and no URIs: these are left out. -/
structure Filed (b : Backup) (d : Disk) (c : Content) : Prop where
  file : d.node? (d.storePlace b.primary) = some (.file c)
  primary : Path.isUri b.primary = false
  target : Path.isUri b.target = false

/-- Whether copying takes the file at a place for what an earlier copy left over. -/
def Sweeps (b : Backup) (lock : Option Lock) (w : Circumstances) (d : Disk) (p : Place) : Prop :=
  ∃ d₂, b.Begun w d d₂ ∧ .removed p ∈ (b.copyInto lock d₂ w).2

theorem spares_of_mem_removal {refused : Refusal} (h : d.locate path ≠ .ok p) :
    ∀ deed ∈ d.removal path refused, deed.Spares p := by
  intro deed hdeed
  obtain ⟨rfl, hlocate⟩ := mem_removal hdeed
  have hne : p ≠ d.storePlace path := by
    rintro rfl
    exact h hlocate
  simpa [Deed.Spares, Deed.places] using hne

theorem spares_of_mem_finishing (hsibling : d.locate b.sibling ≠ .ok p)
    (htarget : (b.finish d w).1.isOk = true → d.storePlace b.target ≠ p) :
    ∀ deed ∈ b.finishing d w, deed.Spares p := by
  unfold finishing
  cases hrename : d.rename b.sibling b.target w.moving with
  | error => exact spares_of_mem_removal hsibling
  | ok d' =>
    obtain ⟨q, -, c, hq, -⟩ := rename_eq_ok hrename
    have hqp : p ≠ d.storePlace b.sibling := by
      rintro rfl
      exact hsibling (storePlace_of_locate hq ▸ hq)
    have hrp := htarget (finish_of_rename hrename)
    intro deed hdeed
    simp only [move] at hdeed
    split at hdeed
    · cases hdeed
    · rw [List.mem_singleton.mp hdeed]
      simpa [Deed.Spares, Deed.places] using ⟨hqp, hrp.symm⟩

theorem file_of_begun (hprepare : b.prepareDirectory d w = (.ok (), d₁))
    (hremove : d₁.removeIfPresent b.sibling w.removing = .ok d₂) (hlocate : d₁.locate b.sibling ≠ .ok p)
    (hfile : d.node? p = some (.file c)) : d₂.node? p = some (.file c) := by
  rw [removeIfPresent_eq hremove, node?_foldl_perform (spares_of_mem_removal hlocate)]
  exact (extends_of_prepared hprepare).keeps hfile

theorem spares_of_apart (lock : Option Lock) (hfile : d.node? (d.storePlace b.primary) = some (.file c))
    (hsibling : ∀ d₂, b.Begun w d d₂ →
      (b.prepareDirectory d w).2.locate b.sibling ≠ .ok (d.storePlace b.primary))
    (hsweeps : ¬ b.Sweeps lock w d (d.storePlace b.primary))
    (htarget : (b.copy lock d w).1.isOk = true → d.storePlace b.target ≠ d.storePlace b.primary) :
    ∀ deed ∈ b.deeds lock d w, deed.Spares (d.storePlace b.primary) := by
  by_cases hbegun : ∃ d₂, b.Begun w d d₂
  · obtain ⟨d₂, d₁, hprepare, hremove⟩ := hbegun
    -- the disk with the directory is d₁, with the place of the copy cleared d₂, after copying d₃:
    -- paths lead where they led on each, so that one look at the sibling settles both removals
    have hplace : ∀ path, d₂.storePlace path = d.storePlace path :=
      Begun.storePlace ⟨d₁, hprepare, hremove⟩
    have hsibling₁ := hsibling d₂ ⟨d₁, hprepare, hremove⟩
    rw [hprepare] at hsibling₁
    have hfile₂ := file_of_begun hprepare hremove hsibling₁ hfile
    have hcopied : ∀ deed ∈ (b.copyInto lock d₂ w).2, deed.Spares (d.storePlace b.primary) := by
      intro deed hdeed
      rw [← hplace] at hfile₂ ⊢
      refine (spares_copyInto hfile₂ hdeed).resolve_right fun ⟨hremoved, _⟩ => ?_
      rw [hplace] at hremoved
      exact hsweeps ⟨d₂, ⟨d₁, hprepare, hremove⟩, hremoved ▸ hdeed⟩
    have hbefore : ∀ deed ∈ d₁.removal b.sibling w.removing ++ (b.copyInto lock d₂ w).2,
        deed.Spares (d.storePlace b.primary) :=
      List.forall_mem_append.mpr ⟨spares_of_mem_removal hsibling₁, hcopied⟩
    have hsame₂ := sameDirectories_removeIfPresent hremove
    have hsame₃ := hsame₂.trans (b.sameDirectories_copyInto lock d₂ w)
    have hsibling₃ := fun hlocate => hsibling₁ (hsame₃.locate.mp hlocate)
    rcases copy_of_begun lock hprepare hremove with ⟨e, -, -, hdeeds⟩ | ⟨-, hcopy, hdeeds⟩
    · rw [hdeeds]
      exact List.forall_mem_append.mpr ⟨hbefore, spares_of_mem_removal hsibling₃⟩
    · rw [hdeeds]
      refine List.forall_mem_append.mpr ⟨hbefore, spares_of_mem_finishing hsibling₃ fun hfinished => ?_⟩
      rw [hsame₃.storePlace, (extends_of_prepared hprepare).storePlace]
      exact htarget (hcopy ▸ hfinished)
  · rw [(copy_of_not_begun (not_exists.mp hbegun) lock).2.1]
    exact List.forall_mem_nil _

theorem copyInto_mem_deeds (hbegun : b.Begun w d d₂) (h : deed ∈ (b.copyInto lock d₂ w).2) :
    deed ∈ b.deeds lock d w := by
  obtain ⟨d₁, hprepare, hremove⟩ := hbegun
  rcases copy_of_begun lock hprepare hremove with ⟨e, -, -, hdeeds⟩ | ⟨-, -, hdeeds⟩ <;>
    rw [hdeeds] <;> exact List.mem_append_left _ (List.mem_append_right _ h)

/-- In the copy's place the file of the store does not stay: what is found of it at the end is cleared
away like a copy that has failed. -/
theorem not_spared_of_sibling (hfile : d.node? p = some (.file c)) (hplace : d.storePlace b.primary = p)
    (hbegun : b.Begun w d d₂) (hsibling : (b.prepareDirectory d w).2.locate b.sibling = .ok p) :
    ¬ ∀ deed ∈ b.deeds lock d w, deed.Spares p := by
  intro hspares
  obtain ⟨d₁, hprepare, hremove⟩ := hbegun
  have hbegun : b.Begun w d d₂ := ⟨d₁, hprepare, hremove⟩
  rw [hprepare] at hsibling
  rcases copy_of_begun lock hprepare hremove with ⟨e, -, -, hdeeds⟩ | ⟨hok, -, -⟩
  · rw [hdeeds, List.forall_mem_append, List.forall_mem_append] at hspares
    obtain ⟨⟨hremoved, hcopied⟩, hcleared⟩ := hspares
    have hsame := (sameDirectories_removeIfPresent hremove).trans (b.sameDirectories_copyInto lock d₂ w)
    have hstill : ((b.copyInto lock d₂ w).2.foldl perform d₂).node? p = some (.file c) := by
      rw [node?_foldl_perform hcopied, removeIfPresent_eq hremove, node?_foldl_perform hremoved]
      exact (extends_of_prepared hprepare).keeps hfile
    rw [removal_of_file (hsame.locate.mpr hsibling) hstill] at hcleared
    exact hcleared _ List.mem_cons_self List.mem_cons_self
  · -- copying comes to its end only where the two places differ
    refine (copyInto_eq_ok hok).1 ?_
    rw [hbegun.storePlace, hbegun.storePlace, hplace, ← (extends_of_prepared hprepare).storePlace]
    exact storePlace_of_locate hsibling

theorem moved_mem_deeds (h : (b.copy lock d w).1.isOk = true)
    (htarget : d.storePlace b.target = d.storePlace b.primary) :
    ∃ q, .moved q (d.storePlace b.primary) ∈ b.deeds lock d w := by
  obtain ⟨d₂, d', ⟨d₁, hprepare, hremove⟩, hok, hrename⟩ := begun_of_isOk h
  have hbegun : b.Begun w d d₂ := ⟨d₁, hprepare, hremove⟩
  have hsame := b.sameDirectories_copyInto lock d₂ w
  -- the copy was not made in place of the store, so that it is moved from elsewhere
  have hapart := (copyInto_eq_ok hok).1
  rcases copy_of_begun lock hprepare hremove with ⟨e, he, -⟩ | ⟨-, -, hdeeds⟩
  · rw [hok] at he
    cases he
  · refine ⟨d.storePlace b.sibling, ?_⟩
    rw [hbegun.storePlace, hbegun.storePlace] at hapart
    rw [hdeeds, finishing, hrename]
    refine List.mem_append_right _ ?_
    simp only [move, hsame.storePlace, hbegun.storePlace, htarget, if_neg hapart, List.mem_singleton]

theorem spares_iff (hfile : d.node? (d.storePlace b.primary) = some (.file c)) :
    (∀ deed ∈ b.deeds lock d w, deed.Spares (d.storePlace b.primary)) ↔
      ¬ ((∃ d₂, b.Begun w d d₂) ∧
          (b.prepareDirectory d w).2.locate b.sibling = .ok (d.storePlace b.primary)) ∧
      ¬ b.Sweeps lock w d (d.storePlace b.primary) ∧
      ¬ ((b.copy lock d w).1.isOk = true ∧ d.storePlace b.target = d.storePlace b.primary) := by
  constructor
  · refine fun hspares => ⟨fun ⟨⟨d₂, hbegun⟩, hsibling⟩ => ?_, fun ⟨d₂, hbegun, hswept⟩ => ?_,
      fun ⟨hok, htarget⟩ => ?_⟩
    · exact not_spared_of_sibling hfile rfl hbegun hsibling hspares
    · exact hspares _ (copyInto_mem_deeds hbegun hswept) List.mem_cons_self
    · obtain ⟨q, hmoved⟩ := moved_mem_deeds hok htarget
      exact hspares _ hmoved (List.mem_cons_of_mem _ List.mem_cons_self)
  · rintro ⟨hsibling, hsweeps, htarget⟩
    exact spares_of_apart lock hfile (fun d₂ hbegun hlocate => hsibling ⟨⟨d₂, hbegun⟩, hlocate⟩) hsweeps
      fun hok hplace => htarget ⟨hok, hplace⟩

theorem place_of_sweeps (h : b.Sweeps lock w d (d.storePlace b.primary)) :
    ∃ k : Companion, k ≠ .index ∧ d.storePlace b.primary = k.place (d.storePlace b.sibling) := by
  obtain ⟨d₂, hbegun, hswept⟩ := h
  rcases mem_copyInto hswept with hread | ⟨-, hwritten⟩
  · -- reading the store removes nothing but what stands beside it
    rcases mem_reading hread with ⟨hwrote, -⟩ | ⟨k, hremoved, -⟩
    · cases hwrote
    · rw [hbegun.storePlace] at hremoved
      exact absurd (Deed.removed.inj hremoved).symm (k.place_ne _)
  · rcases mem_writing hwritten with ⟨c, hwrote⟩ | ⟨k, hk, hremoved, -⟩
    · cases hwrote
    · rw [hbegun.storePlace] at hremoved
      exact ⟨k, hk, Deed.removed.inj hremoved⟩

theorem sweeps_of_isOk (hfile : d.node? (d.storePlace b.primary) = some (.file c))
    (h : (b.copy lock d w).1.isOk = true) {k : Companion} (hk : k = .journal ∨ k = .log ∧ c.isEmpty = false)
    (hplace : d.storePlace b.primary = k.place (d.storePlace b.sibling)) :
    b.Sweeps lock w d (d.storePlace b.primary) := by
  obtain ⟨d₂, d', ⟨d₁, hprepare, hremove⟩, hok, -⟩ := begun_of_isOk h
  have hbegun : b.Begun w d d₂ := ⟨d₁, hprepare, hremove⟩
  refine ⟨d₂, hbegun, ?_⟩
  obtain ⟨-, hwritten, hdeeds⟩ := copyInto_eq_ok hok
  obtain ⟨before, hwriting, hjournal, hlog⟩ := vacuumInto_eq_ok hwritten
  have hsame := b.sameDirectories_reading d₂ w
  rw [hsame.storePlace, hbegun.storePlace] at hjournal hlog
  rw [hdeeds, writing, hwriting]
  refine List.mem_append_right _ (List.mem_append_left _ ?_)
  rcases hk with rfl | ⟨rfl, hfull⟩
  · rwa [hplace]
  · have hlocate : d₁.locate b.sibling ≠ .ok (d.storePlace b.primary) := by
      intro hlocate
      have hsibling := storePlace_of_locate hlocate
      rw [(extends_of_prepared hprepare).storePlace] at hsibling
      exact Companion.place_ne _ _ (hplace.symm.trans hsibling.symm)
    have hfile₂ := file_of_begun hprepare hremove hlocate hfile
    have hread : ((b.reading d₂ w).foldl perform d₂).node? (d.storePlace b.primary) =
        some (.file c) := by
      rw [← hbegun.storePlace] at hfile₂ ⊢
      rw [node?_foldl_perform (spares_reading hfile₂), hfile₂]
    refine hlog ?_
    rw [← hplace, dropping, hasOctets, hread]
    simp [hfull]

/-- What a backup does to the file of its store, whatever comes of it and whatever befalls it. The disk that
it leaves is what its deeds make of the disk with the directory of the target. They spare the file unless it
is removed as a copy left over or as the journal or the log of one, or the finished copy is moved over it;
and what is spared is as it was. -/
theorem run_spares_primary (b : Backup) (lock : Option Lock) (d : Disk) (m : Metrics) (j : Journal)
    (w : Circumstances) (h : b.Filed d c) :
    let p := d.storePlace b.primary
    let q := d.storePlace b.sibling
    let d₁ := (b.prepareDirectory d w).2
    let r := b.run lock d m j w
    d.Extends d₁ ∧ r.2.1 = (b.deeds lock d w).foldl perform d₁ ∧
    ((∀ deed ∈ b.deeds lock d w, deed.Spares p) ↔
      ¬ ((∃ d₂, b.Begun w d d₂) ∧ d₁.locate b.sibling = .ok p) ∧ ¬ b.Sweeps lock w d p ∧
      ¬ (r.1.isOk = true ∧ d.storePlace b.target = p)) ∧
    (b.Sweeps lock w d p → p = Companion.journal.place q ∨ p = Companion.log.place q) ∧
    (r.1.isOk = true → p = Companion.journal.place q ∨ p = Companion.log.place q ∧ c.isEmpty = false →
      b.Sweeps lock w d p) ∧
    ((∀ deed ∈ b.deeds lock d w, deed.Spares p) → r.2.1.node? p = some (.file c)) := by
  intro p q d₁ r
  have hextends := b.prepareDirectory_extends d w
  obtain ⟨hresult, hdisk⟩ := b.run_result lock d m j w
  have hdone : r.2.1 = (b.deeds lock d w).foldl perform d₁ := hdisk.trans (b.copy_eq lock d w)
  refine ⟨hextends, hdone, ?_, fun hsweeps => ?_, fun hok hplace => ?_, fun hspares => ?_⟩
  · rw [hresult]
    exact spares_iff h.file
  · obtain ⟨k, hk, hplace⟩ := place_of_sweeps hsweeps
    cases k with
    | journal => exact Or.inl hplace
    | log => exact Or.inr hplace
    | index => exact absurd rfl hk
  · rw [hresult] at hok
    rcases hplace with hplace | ⟨hplace, hfull⟩
    · exact sweeps_of_isOk h.file hok (Or.inl rfl) hplace
    · exact sweeps_of_isOk h.file hok (Or.inr ⟨rfl, hfull⟩) hplace
  · rw [hdone, node?_foldl_perform hspares]
    exact hextends.keeps h.file

theorem copy_beside_spares :
    let t : Sql.Table := {
      name := "t"
      columns := [{ name := "v", typed := false, affinity := .blob, notNull := false, default := .null }]
      rows := [⟨1, [.integer 1]⟩] }
    let d : Disk := {
      nodes := [(["gate.db"], .file (.database [t])), (["copies"], .directory),
        (["copies", "gate.db.partial"], .file (.text "left"))] }
    let b : Backup := ⟨"gate.db", "copies/../copies/gate.db"⟩
    let r := b.run none d {} { threshold := .fatal }
    b.Filed d (.database [t]) ∧ r.1.isOk = true ∧
      r.2.1.node? (d.storePlace b.primary) = some (.file (.database [t])) := by
  intro t d b r
  have hfiled : b.Filed d (.database [t]) := by
    refine ⟨?_, by decide +kernel, by decide +kernel⟩
    unfold d b
    rfl
  obtain ⟨-, -, hiff, hswept, -, hkept⟩ := run_spares_primary b none d {} { threshold := .fatal } {} hfiled
  have hsibling : (b.prepareDirectory d).2.locate b.sibling ≠ .ok (d.storePlace b.primary) := by
    unfold d b t
    decide +kernel
  have htarget : d.storePlace b.target ≠ d.storePlace b.primary := by
    unfold d b
    decide +kernel
  have hsweeps : ¬ b.Sweeps none {} d (d.storePlace b.primary) := by
    intro h
    have hnone : ∀ k : Companion, d.storePlace b.primary ≠ k.place (d.storePlace b.sibling) := by
      unfold d b
      intro k
      cases k <;> decide +kernel
    rcases hswept h with hplace | hplace <;> exact hnone _ hplace
  refine ⟨hfiled, ?_, hkept (hiff.mpr ⟨fun h => hsibling h.2, hsweeps, fun h => htarget h.2⟩)⟩
  unfold r d b t
  decide +kernel

/-- An accepted configuration puts its database where the copy is written first: a backup fails, and the
database is gone. -/
theorem backup_loses_database :
    let text := "\x7b\"database_path\": \"gate.db.partial\", \"backup_path\": \"gate.db\"\x7d"
    let t : Sql.Table := {
      name := "t"
      columns := [{ name := "v", typed := false, affinity := .blob, notNull := false, default := .null }]
      rows := [⟨1, [.integer 1]⟩] }
    let d : Disk := {
      nodes := [(["sqlgate.json"], .file (.text text)), (["gate.db.partial"], .file (.database [t]))] }
    let b : Backup := ⟨"gate.db.partial", "gate.db"⟩
    let r := b.run none d {} { threshold := .fatal }
    (Config.load d "sqlgate.json").toOption =
      some { databasePath := b.primary, backupPath := some b.target } ∧
    d.node? (d.storePlace b.primary) = some (.file (.database [t])) ∧
    r.1 = .error (.copy (.sql .locked)) ∧ r.2.1.node? (d.storePlace b.primary) = none := by
  refine ⟨by decide +kernel, rfl, by decide +kernel, rfl⟩

/-- Neither the target nor the copy beside it has the place of the store, nor has the store that of the
copy's journal or log. -/
structure Apart (b : Backup) (d : Disk) : Prop where
  target : d.storePlace b.target ≠ d.storePlace b.primary
  sibling : d.storePlace b.sibling ≠ d.storePlace b.primary
  beside : ∀ k : Companion, k ≠ .index → d.storePlace b.primary ≠ k.place (d.storePlace b.sibling)

theorem Apart.of_workingDirectory (h : b.Apart d) (hd : d'.workingDirectory = d.workingDirectory) :
    b.Apart d' := by
  have hplace := storePlace_congr hd
  constructor <;> simp only [hplace]
  · exact h.target
  · exact h.sibling
  · exact h.beside

theorem workingDirectory_copy (b : Backup) (lock : Option Lock) (d : Disk) (w : Circumstances) :
    (b.copy lock d w).2.workingDirectory = d.workingDirectory := by
  rw [copy_eq, workingDirectory_foldl_perform]
  exact (b.prepareDirectory_extends d w).workingDirectory

theorem Apart.node?_copy (h : b.Apart d) (hfile : d.node? (d.storePlace b.primary) = some (.file c))
    (lock : Option Lock) (w : Circumstances) :
    (b.copy lock d w).2.node? (d.storePlace b.primary) = some (.file c) := by
  have hextends := b.prepareDirectory_extends d w
  have hspares := spares_of_apart lock hfile
    (fun _ _ hlocate => h.sibling ((hextends.storePlace _).symm.trans (storePlace_of_locate hlocate)))
    (fun hsweeps => let ⟨k, hk, hplace⟩ := place_of_sweeps hsweeps; h.beside k hk hplace)
    (fun _ => h.target)
  rw [copy_eq, node?_foldl_perform hspares]
  exact hextends.keeps hfile

theorem repeatRun_keeps (n : Nat) (w : Nat → Circumstances) (h : b.Filed d c) (ha : b.Apart d)
    (m : Metrics) (j : Journal) :
    (b.repeatRun lock n d m j w).1.node? (d.storePlace b.primary) = some (.file c) := by
  induction n generalizing d m j with
  | zero => exact h.file
  | succ n ih =>
    have hdisk := (b.run_result lock d m j (w n)).2
    have hwd : (b.run lock d m j (w n)).2.1.workingDirectory = d.workingDirectory := by
      rw [hdisk, workingDirectory_copy]
    have hfile : (b.run lock d m j (w n)).2.1.node? (d.storePlace b.primary) = some (.file c) := by
      rw [hdisk]
      exact ha.node?_copy h.file lock (w n)
    rw [← storePlace_congr hwd] at hfile ⊢
    exact ih ⟨hfile, h.primary, h.target⟩ (ha.of_workingDirectory hwd) _ _

end Sparing

end Backup

/-- The backups of an accepted configuration keep its database where the paths can be told apart as they
are written, and the database has not the place of the copy or of what stands beside that: for the target
itself the check of the configuration is enough. -/
theorem Config.backups_keep_database {config : Config} {target : String} {lock : Option Lock} {d : Disk}
    {m : Metrics} {j : Journal} {c : Content} (hvalid : config.validate = .ok ())
    (htarget : config.backupPath = some target)
    (htold : Path.Comparable target config.databasePath)
    (hsibling : d.storePlace (target ++ ".partial") ≠ d.storePlace config.databasePath)
    (hbeside : ∀ k : Companion, k ≠ .index →
      d.storePlace config.databasePath ≠ k.place (d.storePlace (target ++ ".partial")))
    (hfiled : (Backup.mk config.databasePath target).Filed d c) (n : Nat) (w : Nat → Circumstances) :
    ((Backup.mk config.databasePath target).repeatRun lock n d m j w).1.node?
      (d.storePlace config.databasePath) = some (.file c) := by
  have hplace : d.storePlace target ≠ d.storePlace config.databasePath :=
    Disk.storePlace_ne_of_not_same htold ((validate_eq_ok_iff.mp hvalid).backupPath target htarget)
  exact Backup.repeatRun_keeps n w hfiled ⟨hplace, hsibling, hbeside⟩ m j

end EndpointGate
