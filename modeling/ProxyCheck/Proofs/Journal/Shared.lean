import ProxyCheck.Proofs.Journal.Effect

/-! Appends that share a directory. Each takes its steps in order; in between, others take theirs. If
every step succeeds and every append comes to its end, rotations do not overlap. -/
namespace ProxyCheck

structure Writer where
  line : String
  stage : Stage := .measure

structure Shared where
  directory : Directory
  writers : List Writer

structure Turn where
  writer : Nat
  clock : Clock

namespace Shared

def advance (s : Shared) (turn : Turn) (w : Writer) : Shared :=
  let next := w.stage.step turn.clock (lineBytes w.line) s.directory
  ⟨next.2, s.writers.set turn.writer { w with stage := next.1 }⟩

def step (s : Shared) (turn : Turn) : Shared :=
  match s.writers[turn.writer]? with
  | some w => s.advance turn w
  | none => s

def run (s : Shared) (turns : List Turn) : Shared :=
  turns.foldl step s

theorem step_some (s : Shared) (turn : Turn) (w : Writer) (here : s.writers[turn.writer]? = some w) :
    s.step turn = s.advance turn w := by
  rw [step, here]

theorem step_none (s : Shared) (turn : Turn) (absent : s.writers[turn.writer]? = none) :
    s.step turn = s := by
  rw [step, absent]

theorem step_cases (s : Shared) (turn : Turn) :
    (s.writers[turn.writer]? = none ∧ s.step turn = s) ∨
      ∃ front w back, s.writers = front ++ w :: back ∧ s.writers[turn.writer]? = some w ∧
        s.step turn = ⟨(w.stage.step turn.clock (lineBytes w.line) s.directory).2,
          front ++ { w with stage := (w.stage.step turn.clock (lineBytes w.line) s.directory).1 } ::
            back⟩ := by
  cases found : s.writers[turn.writer]? with
  | none => exact .inl ⟨rfl, s.step_none turn found⟩
  | some w =>
      obtain ⟨inside, here⟩ := List.getElem?_eq_some_iff.mp found
      refine .inr ⟨s.writers.take turn.writer, w, s.writers.drop (turn.writer + 1), ?_, rfl, ?_⟩
      · rw [← here, List.cons_getElem_drop_succ, List.take_append_drop]
      · rw [s.step_some turn w found]
        simp only [advance]
        rw [List.set_eq_take_append_cons_drop, if_pos inside]

end Shared

namespace Stage

/-- A step that fails ends a rotation, or an append, before its time. That another has the lock is no
failure, nor that a lock file is gone. -/
def Succeeds (clock : Clock) (d : Directory) : Stage → Prop
  | .openLock => (d.openFile lockName clock.now).isSome
  | .moveAway _ => (d.rename logName stagingName).isSome
  | .createArchive _ name => (d.createFile name clock.now).isSome
  | .pack .. => (d.file? stagingName).isSome
  | .dropStaging _ => (d.removeFile stagingName).isSome
  | .openLog => (d.openFile logName clock.now).isSome
  | _ => True

/-- The log has been moved away, and is not yet packed. -/
def awaits : Stage → Bool
  | .createArchive .. | .pack .. => true
  | _ => false

theorem rotates_of_awaits (st : Stage) (awaits : st.awaits) : st.rotates := by
  cases st <;> first | rfl | cases awaits

theorem of_rotates (st : Stage) (rotates : st.rotates) (packed : st.awaits = false) :
    ∃ lock, st = .dropStaging lock := by
  cases st with
  | dropStaging lock => exact ⟨lock, rfl⟩
  | createArchive | pack => cases packed
  | _ => cases rotates

def mayRotate (st : Stage) : Bool :=
  (Stage.moveAway 0).remaining ≤ st.remaining

def Named : Stage → Prop
  | .createArchive _ name => isArchiveName logStem name
  | _ => True

section

variable (clock : Clock) (line : ByteArray) (d : Directory) (st : Stage)

theorem creates_step (succeeds : st.Succeeds clock d) :
    (st.step clock line d).1.creates = st.movesAway := by
  cases st <;> simp only [step] <;> (repeat' split) <;> simp_all [Succeeds, creates, movesAway]

theorem awaits_step (succeeds : st.Succeeds clock d) :
    (st.step clock line d).1.awaits = (st.movesAway || st.creates) := by
  cases st <;> simp only [step] <;> (repeat' split) <;>
    simp_all [Succeeds, awaits, creates, movesAway]

theorem rotates_step (succeeds : st.Succeeds clock d) :
    (st.step clock line d).1.rotates = (st.movesAway || st.awaits) := by
  cases st <;> simp only [step] <;> (repeat' split) <;>
    simp_all [Succeeds, rotates, awaits, movesAway]

theorem mayRotate_step :
    st.movesAway.toNat + (st.step clock line d).1.mayRotate.toNat ≤ st.mayRotate.toNat := by
  by_cases finished : st = .done
  · rw [finished]
    exact Nat.le_refl 0
  · have less := remaining_step clock line d st finished
    cases moves : st.movesAway with
    | true =>
        obtain ⟨lock, rfl⟩ := st.of_movesAway moves
        have past : ((Stage.moveAway lock).step clock line d).1.mayRotate = false :=
          decide_eq_false (Nat.not_le_of_lt less)
        rw [past]
        exact Nat.le_refl 1
    | false =>
        rw [Bool.toNat_false, Nat.zero_add]
        refine Bool.toNat_le_toNat fun later => decide_eq_true ?_
        exact Nat.le_of_lt (Nat.lt_of_le_of_lt (of_decide_eq_true later) less)

theorem named_step : (st.step clock line d).1.Named := by
  cases st with
  | moveAway lock =>
      rw [step]
      split
      · exact d.isArchiveName_freeArchiveName logStem clock.stamp
      · trivial
  | _ =>
      simp only [step]
      repeat' split
      all_goals trivial

theorem staged_of_staged (named : st.Named) (quiet : st.movesAway = false)
    (staged : ((st.step clock line d).2.file? stagingName).isSome) :
    (d.file? stagingName).isSome := by
  have opened (name : String) (id : Nat) (e : Directory) (apart : stagingName ≠ name)
      (opened : d.openFile name clock.now = some (id, e)) :
      e.file? stagingName = d.file? stagingName := by
    rcases d.openFile_cases e name clock.now id opened with ⟨f, -, -, rfl⟩ | ⟨-, -, rfl⟩
    · rfl
    · rw [Directory.file?_addFile, if_neg apart]
  cases st with
  | moveAway lock => cases quiet
  | openLock =>
      rw [step] at staged
      cases found : d.openFile lockName clock.now with
      | none => exact (found ▸ staged :)
      | some result =>
          rw [found] at staged
          rwa [← opened lockName result.1 result.2 (by decide) found]
  | tryLock lock =>
      rw [step, Directory.lock] at staged
      split at staged <;> rename_i taken <;> split at taken <;> cases taken <;> exact staged
  | createArchive lock name =>
      have apart := (ne_of_isArchiveName logStem name stagingName named stagingName_not_archive).symm
      rw [step, Directory.createFile] at staged
      cases found : d.openFile name clock.now with
      | none => exact (found ▸ staged :)
      | some result =>
          rw [found] at staged
          simp only [Option.map_some, Directory.file?_update, Option.isSome_map] at staged
          rwa [← opened name result.1 result.2 apart found]
  | pack lock archive =>
      rw [step] at staged
      split at staged <;> simpa [Directory.pack, Directory.file?_update] using staged
  | dropStaging lock =>
      rw [step] at staged
      cases found : d.file? stagingName with
      | none => simp [Directory.removeFile, found] at staged
      | some f => rfl
  | prune lock =>
      obtain ⟨f, present⟩ := Option.isSome_iff_exists.mp staged
      rw [((d.file?_prune stagingName f).mp present).1]
      rfl
  | removeLock lock =>
      rw [step, Directory.file?_removeFile, if_neg (by decide)] at staged
      exact staged
  | openLog =>
      rw [step] at staged
      cases found : d.openFile logName clock.now with
      | none => exact (found ▸ staged :)
      | some result =>
          rw [found] at staged
          rwa [← opened logName result.1 result.2 (by decide) found]
  | write log => simpa [step, Directory.appendTo, Directory.file?_update] using staged
  | measure | measureAgain lock | release lock | done => exact staged

theorem not_staged_of_dropped (succeeds : st.Succeeds clock d) (rotates : st.rotates)
    (packed : st.awaits = false) :
    (d.file? stagingName).isSome ∧ (st.step clock line d).2.file? stagingName = none := by
  obtain ⟨lock, rfl⟩ := st.of_rotates rotates packed
  rw [Succeeds, Directory.removeFile, Option.isSome_map] at succeeds
  obtain ⟨f, present⟩ := Option.isSome_iff_exists.mp succeeds
  have removed := d.file?_removeFile stagingName stagingName
  rw [if_pos rfl, d.removeFile_present stagingName f present] at removed
  rw [step, d.removeFile_present stagingName f present]
  exact ⟨succeeds, removed⟩

theorem balance_step (succeeds : st.Succeeds clock d) (named : st.Named) :
    st.rotates.toNat + ((st.step clock line d).2.file? stagingName).isSome.toNat ≤
      (st.step clock line d).1.rotates.toNat + (d.file? stagingName).isSome.toNat := by
  have next := rotates_step clock line d st succeeds
  have below := Bool.toNat_le ((st.step clock line d).2.file? stagingName).isSome
  cases moves : st.movesAway with
  | true =>
      obtain ⟨lock, rfl⟩ := st.of_movesAway moves
      have resting : (Stage.moveAway lock).rotates = false := rfl
      rw [next, moves, resting, Bool.true_or, Bool.toNat_true, Bool.toNat_false]
      omega
  | false =>
      have kept := staged_of_staged clock line d st named moves
      cases packed : st.awaits with
      | true =>
          have before := Bool.toNat_le st.rotates
          have less := Bool.toNat_le_toNat kept
          rw [next, packed, Bool.or_true, Bool.toNat_true]
          omega
      | false =>
          cases rotates : st.rotates with
          | true =>
              obtain ⟨before, after⟩ := not_staged_of_dropped clock line d st succeeds rotates packed
              rw [before, after]
              simp
          | false =>
              have less := Bool.toNat_le_toNat kept
              rw [Bool.toNat_false]
              omega

/-- Unless a rotation is on its way, what waits to be packed has been left behind by another. -/
theorem staging_of_still (effect : Effect clock line d st (st.step clock line d).2)
    (succeeds : st.Succeeds clock d) (still : (st.step clock line d).1.rotates = false) (g : File)
    (staged : (st.step clock line d).2.file? stagingName = some g) :
    st.rotates = false ∧ ∃ f, d.file? stagingName = some f ∧ f.id = g.id := by
  rw [rotates_step clock line d st succeeds, Bool.or_eq_false_iff] at still
  obtain ⟨moves, awaits⟩ := still
  constructor
  · by_contra rotates
    rw [Bool.not_eq_false] at rotates
    have gone := (not_staged_of_dropped clock line d st succeeds rotates awaits).2
    rw [staged] at gone
    cases gone
  · cases effect.origin stagingName g staged with
    | same f present identity => exact ⟨f, present, identity⟩
    | moved _ moved _ _ _ _ =>
        rw [moves] at moved
        cases moved
    | new made _ _ =>
        cases st with
        | createArchive => cases awaits
        | openLock => exact absurd (Option.some.inj made) (by decide)
        | openLog => exact absurd (Option.some.inj made) (by decide)
        | _ => cases made

theorem name_of_opened (coherent : d.Coherent)
    (sole : ∀ f, d.file? logName = some f → d.Sole logName f) (id : Nat)
    (next : (st.step clock line d).1 = .write id) (name : String) (f : File)
    (present : d.file? name = some f) (shared : f.id = id) : name = logName := by
  cases st with
  | openLog =>
      rw [step] at next
      cases found : d.openFile logName clock.now with
      | none =>
          rw [found] at next
          cases next
      | some result =>
          rw [found] at next
          cases next
          rcases d.openFile_cases result.2 logName clock.now result.1 found with
            ⟨g, log, same, -⟩ | ⟨-, fresh, -⟩
          · exact (sole g log).unique name f present (shared.trans same.symm)
          · have below := coherent.files name f present
            omega
  | _ =>
      simp only [step] at next
      repeat' split at next
      all_goals cases next

end

end Stage

namespace Shared

def Succeeds : Shared → List Turn → Prop
  | _, [] => True
  | s, turn :: rest =>
    (∀ w, s.writers[turn.writer]? = some w → w.stage.Succeeds turn.clock s.directory) ∧
      (s.step turn).Succeeds rest

def rotations : Shared → List Turn → Nat
  | _, [] => 0
  | s, turn :: rest =>
    ((s.writers[turn.writer]?).any fun w => w.stage.movesAway).toNat + (s.step turn).rotations rest

def Finished (s : Shared) : Prop :=
  ∀ w ∈ s.writers, w.stage = .done

def busy (s : Shared) : Nat :=
  s.writers.countP fun w => w.stage.rotates

def creating (s : Shared) : Nat :=
  s.writers.countP fun w => w.stage.creates

theorem countP_middle (p : Writer → Bool) (front back : List Writer) (w : Writer) :
    (front ++ w :: back).countP p = front.countP p + back.countP p + (p w).toNat := by
  rw [List.countP_append, List.countP_cons, ← Nat.add_assoc]
  cases p w <;> rfl

theorem mem_middle (front back : List Writer) (v w : Writer) (other : v ∈ front ∨ v ∈ back) :
    v ∈ front ++ w :: back :=
  other.elim (List.mem_append_left _) fun inBack =>
    List.mem_append_right front (List.mem_cons_of_mem w inBack)

/-- Two appends that rotate at a time would have two files to remove at their ends, but there is one
name for them. -/
theorem busy_le_staged (s : Shared) (turns : List Turn) (named : ∀ w ∈ s.writers, w.stage.Named)
    (succeeds : s.Succeeds turns) (finished : (s.run turns).Finished) :
    s.busy ≤ (s.directory.file? stagingName).isSome.toNat := by
  -- From the end on: there nobody rotates, and no step raises the balance.
  induction turns generalizing s with
  | nil =>
      have none : s.busy = 0 := List.countP_eq_zero.mpr fun w member => by
        rw [finished w member]
        exact Bool.false_ne_true
      omega
  | cons turn rest ih =>
      rcases s.step_cases turn with ⟨-, stays⟩ | ⟨front, w, back, writers, here, steps⟩
      · exact ih s named (stays ▸ succeeds.2) (by rwa [run, List.foldl_cons, stays] at finished)
      · rw [writers] at named
        simp only [List.forall_mem_append, List.forall_mem_cons] at named
        have balance := w.stage.balance_step turn.clock (lineBytes w.line) s.directory
          (succeeds.1 w here) named.2.1
        have next := w.stage.named_step turn.clock (lineBytes w.line) s.directory
        have later := ih (s.step turn) ?_ succeeds.2 finished
        · simp only [steps, busy, countP_middle] at later
          simp only [busy, writers, countP_middle]
          omega
        · rw [steps]
          simp only [List.forall_mem_append, List.forall_mem_cons]
          exact ⟨named.1, next, named.2.2⟩

theorem rotations_le (s : Shared) (turns : List Turn) : s.rotations turns ≤ s.writers.length := by
  suffices bound : s.rotations turns ≤ s.writers.countP fun w => w.stage.mayRotate from
    Nat.le_trans bound List.countP_le_length
  induction turns generalizing s with
  | nil => exact Nat.zero_le _
  | cons turn rest ih =>
      have later := ih (s.step turn)
      rw [rotations]
      rcases s.step_cases turn with ⟨absent, stays⟩ | ⟨front, w, back, writers, here, steps⟩
      · rw [stays] at later
        rwa [absent, stays, Option.any_none, Bool.toNat_false, Nat.zero_add]
      · have once := w.stage.mayRotate_step turn.clock (lineBytes w.line) s.directory
        rw [steps] at later ⊢
        simp only [countP_middle] at later
        rw [here, Option.any_some, writers, countP_middle]
        omega

structure Underway (since : Nat) (s : Shared) (rest : List Turn) : Prop where
  coherent : s.directory.Coherent
  sole : ∀ f, s.directory.file? logName = some f → s.directory.Sole logName f
  fits : ∀ w ∈ s.writers, w.stage.Fits since s.directory
  /-- Nobody writes to what has been left behind by another run. -/
  idle : s.busy = 0 → ∀ f, s.directory.file? stagingName = some f →
    ∀ w ∈ s.writers, w.stage ≠ .write f.id
  succeeds : s.Succeeds rest
  finished : (s.run rest).Finished
  timed : ∀ turn ∈ rest, since ≤ turn.clock.now
  few : (s.directory.recentNames since).length + s.creating + s.rotations rest ≤ archivesKept

namespace Underway

variable {since : Nat} {s : Shared} {turn : Turn} {rest : List Turn}

theorem busy_le (under : s.Underway since rest) :
    s.busy ≤ (s.directory.file? stagingName).isSome.toNat := by
  refine s.busy_le_staged rest (fun w member => ?_) under.succeeds under.finished
  have fits := under.fits w member
  cases stage : w.stage with
  | createArchive lock name =>
      rw [stage] at fits
      exact fits.1
  | _ => trivial

theorem alone (under : s.Underway since rest) (front back : List Writer) (w : Writer)
    (writers : s.writers = front ++ w :: back) (v : Writer) (other : v ∈ front ∨ v ∈ back)
    (theirs : v.stage.rotates) : ¬w.stage.rotates := by
  intro rotates
  have one := under.busy_le
  have bound := Bool.toNat_le (s.directory.file? stagingName).isSome
  have positive : 0 < front.countP (fun w => w.stage.rotates) +
      back.countP (fun w => w.stage.rotates) := by
    rcases other with member | member
    · exact Nat.add_pos_left (List.countP_pos_iff.mpr ⟨v, member, theirs⟩) _
    · exact Nat.add_pos_right _ (List.countP_pos_iff.mpr ⟨v, member, theirs⟩)
  rw [busy, writers, countP_middle, rotates, Bool.toNat_true] at one
  omega

theorem few_recent (under : s.Underway since rest) :
    (s.directory.recentNames since).length ≤ archivesKept := by
  have few := under.few
  omega

theorem idle_step (under : s.Underway since (turn :: rest)) (front back : List Writer) (w : Writer)
    (writers : s.writers = front ++ w :: back) (here : s.writers[turn.writer]? = some w)
    (steps : s.step turn = ⟨(w.stage.step turn.clock (lineBytes w.line) s.directory).2, front ++
      { w with stage := (w.stage.step turn.clock (lineBytes w.line) s.directory).1 } :: back⟩)
    (idle : (s.step turn).busy = 0) (g : File)
    (staged : (s.step turn).directory.file? stagingName = some g) :
    ∀ v ∈ (s.step turn).writers, v.stage ≠ .write g.id := by
  have succeeds := under.succeeds.1 w here
  have effect := w.stage.effect_step turn.clock (lineBytes w.line) since s.directory under.coherent
    (under.fits w (List.mem_of_getElem? here))
  rw [steps] at idle staged ⊢
  rw [busy, countP_middle] at idle
  simp only at idle staged ⊢
  have still : (w.stage.step turn.clock (lineBytes w.line) s.directory).1.rotates = false := by
    rw [← Bool.toNat_eq_zero]
    omega
  obtain ⟨rested, f, before, same⟩ := w.stage.staging_of_still turn.clock (lineBytes w.line)
    s.directory effect succeeds still g staged
  have was : s.busy = 0 := by
    rw [busy, writers, countP_middle, rested, Bool.toNat_false]
    omega
  have others := under.idle was f before
  rw [writers] at others
  simp only [List.forall_mem_append, List.forall_mem_cons, same] at others ⊢
  refine ⟨others.1, fun write => ?_, others.2.2⟩
  have log := w.stage.name_of_opened turn.clock (lineBytes w.line) s.directory under.coherent
    under.sole g.id write stagingName f before same
  exact absurd log (by decide)

theorem step (under : s.Underway since (turn :: rest)) : (s.step turn).Underway since rest := by
  rcases s.step_cases turn with ⟨absent, stays⟩ | ⟨front, w, back, writers, here, steps⟩
  · have few := under.few
    have finished := under.finished
    rw [run, List.foldl_cons, stays] at finished
    rw [rotations, absent, stays] at few
    rw [stays]
    exact ⟨under.coherent, under.sole, under.fits, under.idle, stays ▸ under.succeeds.2, finished,
      fun later member => under.timed later (List.mem_cons_of_mem turn member),
      by simpa using few⟩
  · have member : w ∈ s.writers := List.mem_of_getElem? here
    have fits := under.fits w member
    have effect := w.stage.effect_step turn.clock (lineBytes w.line) since s.directory under.coherent fits
    have next := w.stage.fits_step turn.clock (lineBytes w.line) since s.directory under.coherent
      under.sole (under.timed turn List.mem_cons_self) fits
    have moved := w.stage.creates_step turn.clock (lineBytes w.line) s.directory
      (under.succeeds.1 w here)
    have others (v : Writer) (other : v ∈ front ∨ v ∈ back) :=
      effect.fits under.coherent under.few_recent fits
        (under.fits v (writers ▸ mem_middle front back v w other))
        (under.alone front back w writers v other)
    have few := under.few
    have recent := effect.length_recent fits
    constructor
    case coherent =>
      rw [steps]
      exact effect.coherent under.coherent
    case sole =>
      rw [steps]
      exact effect.sole_log under.coherent under.sole
    case fits =>
      rw [steps]
      simp only [List.forall_mem_append, List.forall_mem_cons]
      exact ⟨fun v inFront => others v (.inl inFront), next, fun v inBack => others v (.inr inBack)⟩
    case idle => exact under.idle_step front back w writers here steps
    case succeeds => exact under.succeeds.2
    case finished => exact under.finished
    case timed => exact fun later member => under.timed later (List.mem_cons_of_mem turn member)
    case few =>
      rw [rotations, here, Option.any_some, creating, writers, countP_middle] at few
      rw [steps] at few ⊢
      rw [creating, countP_middle]
      simp only [moved]
      omega

theorem quiet (under : s.Underway since (turn :: rest)) (front back : List Writer) (w : Writer)
    (writers : s.writers = front ++ w :: back) (here : s.writers[turn.writer]? = some w)
    (steps : (s.step turn).writers = front ++
      { w with stage := (w.stage.step turn.clock (lineBytes w.line) s.directory).1 } :: back)
    (v : Writer) (other : v ∈ front ∨ v ∈ back) (theirs : v.stage.rotates) :
    w.stage.rotates = false ∧ w.stage.movesAway = false := by
  constructor
  · exact Bool.eq_false_iff.mpr (under.alone front back w writers v other theirs)
  · by_contra moves
    rw [Bool.not_eq_false] at moves
    have next := w.stage.rotates_step turn.clock (lineBytes w.line) s.directory
      (under.succeeds.1 w here)
    rw [moves, Bool.true_or] at next
    exact under.step.alone front back _ steps v other theirs next

theorem run (front : List Turn) (under : s.Underway since (front ++ rest)) :
    (s.run front).Underway since rest := by
  induction front generalizing s with
  | nil => exact under
  | cons turn front ih => exact ih under.step

end Underway

/-- Appends begin, each of their steps succeeds, and all of them come to their end. -/
structure Runs (s : Shared) (turns : List Turn) : Prop where
  writable : s.directory.Writable
  unstarted : ∀ w ∈ s.writers, w.stage = .measure
  succeeds : s.Succeeds turns
  finished : (s.run turns).Finished

/-- Dated from some time on there are no more archives, with those that are made, than are kept. -/
structure Few (since : Nat) (s : Shared) (turns : List Turn) : Prop where
  timed : ∀ turn ∈ turns, since ≤ turn.clock.now
  few : (s.directory.recentNames since).length + s.rotations turns ≤ archivesKept

theorem underway_of_runs (since : Nat) (s : Shared) (turns : List Turn) (runs : s.Runs turns)
    (few : s.Few since turns) : s.Underway since turns := by
  constructor
  case coherent => exact runs.writable.coherent
  case sole =>
    intro f log
    rcases runs.writable.log with absent | ⟨g, sole⟩
    · rw [Directory.file?_eq_some_iff, absent] at log
      cases log
    · rw [sole.present] at log
      cases log
      exact sole
  case fits =>
    intro w member
    rw [runs.unstarted w member]
    trivial
  case idle =>
    intro _ f _ w member
    rw [runs.unstarted w member]
    exact nofun
  case few =>
    have none : s.creating = 0 := List.countP_eq_zero.mpr fun w member => by
      rw [runs.unstarted w member]
      exact Bool.false_ne_true
    rw [none]
    exact few.few
  case succeeds => exact runs.succeeds
  case finished => exact runs.finished
  case timed => exact few.timed

/-- The file is the log, or has been moved away and is not packed yet. -/
def Timely (s : Shared) (id : Nat) : Prop :=
  (∃ f, s.directory.file? logName = some f ∧ f.id = id) ∨
    (∃ f, s.directory.file? stagingName = some f ∧ f.id = id) ∧ ∃ w ∈ s.writers, w.stage.awaits

end Shared

end ProxyCheck
