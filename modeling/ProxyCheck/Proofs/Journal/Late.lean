import ProxyCheck.Proofs.Journal.Shared

/-! What is written too late leaves no trace: two runs that differ in it end in the same directory. -/
namespace ProxyCheck

namespace Directory

/-- All the same but for what waits to be removed. -/
structure Near (d e : Directory) : Prop where
  nodes : ∀ name, name ≠ stagingName → e.nodes.get? name = d.nodes.get? name
  locks : e.locks = d.locks
  fresh : e.fresh = d.fresh
  staged : (e.file? stagingName).isSome

theorem ext_nodes (d e : Directory) (nodes : ∀ name, e.nodes.get? name = d.nodes.get? name)
    (locks : e.locks = d.locks) (fresh : e.fresh = d.fresh) : e = d := by
  have same : e.nodes = d.nodes := NameMap.ext_get? _ _ nodes
  cases d
  cases e
  simp_all

theorem get?_update_of_other (d : Directory) (id : Nat) (change : File → File) (name : String)
    (other : ∀ f, d.file? name = some f → f.id ≠ id) :
    (d.update id change).nodes.get? name = d.nodes.get? name := by
  rw [get?_update]
  cases found : d.nodes.get? name with
  | none => rfl
  | some node =>
      cases node with
      | folder modified => rfl
      | file f =>
          have apart := other f ((d.file?_eq_some_iff name f).mpr found)
          simp only [Option.map_some, if_neg apart]

theorem update_nameless (d : Directory) (id : Nat) (change : File → File)
    (nameless : ∀ name f, d.file? name = some f → f.id ≠ id) : d.update id change = d :=
  ext_nodes d _ (fun name => d.get?_update_of_other id change name (nameless name)) rfl rfl

variable {d e : Directory}

namespace Near

theorem file? (near : d.Near e) (name : String) (apart : name ≠ stagingName) :
    e.file? name = d.file? name := by
  rw [Directory.file?, Directory.file?, near.nodes name apart]

theorem isOversized (near : d.Near e) : e.isOversized = d.isOversized := by
  rw [Directory.isOversized, Directory.isOversized, near.file? logName (by decide)]

theorem addFile (near : d.Near e) (name : String) (f : File) (apart : name ≠ stagingName) :
    (d.addFile name f).Near (e.addFile name f) := by
  refine ⟨fun other outside => ?_, near.locks, congrArg (· + 1) near.fresh, ?_⟩
  · rw [get?_addFile, get?_addFile, near.nodes other outside]
  · rw [file?_addFile, if_neg apart.symm]
    exact near.staged

theorem openFile (near : d.Near e) (name : String) (now : Nat) (apart : name ≠ stagingName) :
    (d.openFile name now = none ∧ e.openFile name now = none) ∨
      ∃ id d' e', d.openFile name now = some (id, d') ∧ e.openFile name now = some (id, e') ∧
        d'.Near e' := by
  have same := near.nodes name apart
  cases found : d.nodes.get? name with
  | none =>
      rw [d.openFile_absent name now found, e.openFile_absent name now (same.trans found), near.fresh]
      exact .inr ⟨_, _, _, rfl, rfl, near.addFile name _ apart⟩
  | some node =>
      rw [Directory.openFile, Directory.openFile, same, found]
      cases node with
      | file f => exact .inr ⟨f.id, d, e, rfl, rfl, near⟩
      | folder modified => exact .inl ⟨rfl, rfl⟩

theorem update (near : d.Near e) (id : Nat) (change : File → File) :
    (d.update id change).Near (e.update id change) := by
  refine ⟨fun name apart => ?_, near.locks, near.fresh, ?_⟩
  · rw [get?_update, get?_update, near.nodes name apart]
  · rw [file?_update, Option.isSome_map]
    exact near.staged

theorem removeFile (near : d.Near e) (name : String) (apart : name ≠ stagingName) :
    ((d.removeFile name).getD d).Near ((e.removeFile name).getD e) := by
  obtain ⟨locks, fresh⟩ := d.removeFile_rest name
  obtain ⟨locks', fresh'⟩ := e.removeFile_rest name
  refine ⟨fun other outside => ?_, ?_, ?_, ?_⟩
  · rw [get?_removeFile, get?_removeFile, near.file? other outside, near.nodes other outside]
  · rw [locks, locks', near.locks]
  · rw [fresh, fresh', near.fresh]
  · rw [file?_removeFile, if_neg apart.symm]
    exact near.staged

theorem prune (near : d.Near e) : (d.prune logStem).Near (e.prune logStem) := by
  obtain ⟨locks, fresh⟩ := d.prune_rest logStem
  obtain ⟨locks', fresh'⟩ := e.prune_rest logStem
  have archives : e.archives logStem = d.archives logStem := archives_congr e d logStem fun name named =>
    near.nodes name (ne_of_isArchiveName logStem name stagingName named stagingName_not_archive)
  have surplus : e.surplus logStem = d.surplus logStem :=
    congrArg (fun archives => archives.take (archives.length - archivesKept)) archives
  refine ⟨fun name outside => ?_, ?_, ?_, ?_⟩
  · rw [get?_prune, get?_prune, surplus, near.file? name outside, near.nodes name outside]
  · rw [locks, locks', near.locks]
  · rw [fresh, fresh', near.fresh]
  · have stays := e.get?_prune_other logStem stagingName stagingName_not_archive
    rw [Directory.file?, stays]
    exact near.staged

theorem drop (near : d.Near e) (clock : Clock) (line : ByteArray) (lock : Nat)
    (staged : (d.file? stagingName).isSome) :
    (Stage.dropStaging lock).step clock line e = (Stage.dropStaging lock).step clock line d := by
  obtain ⟨f, present⟩ := Option.isSome_iff_exists.mp staged
  obtain ⟨g, present'⟩ := Option.isSome_iff_exists.mp near.staged
  rw [Stage.step, Stage.step, d.removeFile_present stagingName f present,
    e.removeFile_present stagingName g present']
  refine congrArg (Prod.mk _) (ext_nodes _ _ (fun name => ?_) near.locks near.fresh)
  rw [NameMap.get?_erase, NameMap.get?_erase]
  split
  · rfl
  · exact near.nodes name ‹_›

theorem step (near : d.Near e) (clock : Clock) (line : ByteArray) (st : Stage)
    (resting : st.rotates = false) (moves : st.movesAway = false) :
    (st.step clock line e).1 = (st.step clock line d).1 ∧
      (st.step clock line d).2.Near (st.step clock line e).2 := by
  cases st with
  | moveAway => cases moves
  | createArchive | pack | dropStaging => cases resting
  | measure | measureAgain lock => exact ⟨by rw [Stage.step, Stage.step, near.isOversized], near⟩
  | openLock =>
      rw [Stage.step, Stage.step]
      rcases near.openFile lockName clock.now (by decide) with ⟨h, h'⟩ | ⟨id, d', e', h, h', after⟩
      · rw [h, h']
        exact ⟨rfl, near⟩
      · rw [h, h']
        exact ⟨rfl, after⟩
  | openLog =>
      rw [Stage.step, Stage.step]
      rcases near.openFile logName clock.now (by decide) with ⟨h, h'⟩ | ⟨id, d', e', h, h', after⟩
      · rw [h, h']
        exact ⟨rfl, near⟩
      · rw [h, h']
        exact ⟨rfl, after⟩
  | tryLock lock =>
      rw [Stage.step, Stage.step, Directory.lock, Directory.lock, near.locks]
      by_cases taken : d.locks.contains lock
      · rw [if_pos taken, if_pos taken]
        exact ⟨rfl, near⟩
      · rw [if_neg taken, if_neg taken]
        exact ⟨rfl, near.nodes, rfl, near.fresh, near.staged⟩
  | prune lock => exact ⟨rfl, near.prune⟩
  | removeLock lock => exact ⟨rfl, near.removeFile lockName (by decide)⟩
  | release lock =>
      exact ⟨rfl, near.nodes, congrArg (fun locks => locks.erase lock) near.locks, near.fresh, near.staged⟩
  | write log => exact ⟨rfl, near.update log _⟩
  | done => exact ⟨rfl, near⟩

end Near

end Directory

theorem Stage.step_line (clock : Clock) (line other : ByteArray) (d : Directory) (st : Stage)
    (unwritten : ∀ id, st ≠ .write id) : st.step clock line d = st.step clock other d := by
  cases st with
  | write id => exact absurd rfl (unwritten id)
  | _ => rfl

namespace Shared

def stage? (s : Shared) (i : Nat) : Option Stage :=
  (s.writers[i]?).map Writer.stage

theorem writers_advance (s : Shared) (turn : Turn) (w : Writer)
    (here : s.writers[turn.writer]? = some w) (j : Nat) :
    (s.advance turn w).writers[j]? = if turn.writer = j then
      some { w with stage := (w.stage.step turn.clock (lineBytes w.line) s.directory).1 }
      else s.writers[j]? := by
  have inside := (List.getElem?_eq_some_iff.mp here).1
  rw [advance, List.getElem?_set, if_pos inside]

theorem done_step (s : Shared) (turn : Turn) (i : Nat) (done : s.stage? i = some .done) :
    (s.step turn).stage? i = some .done := by
  cases found : s.writers[turn.writer]? with
  | none => rwa [step_none s turn found]
  | some w =>
      rw [step_some s turn w found, stage?, writers_advance s turn w found]
      split
      · rename_i same
        rw [stage?, ← same, found, Option.map_some] at done
        rw [Option.map_some, Option.some.inj done]
        rfl
      · exact done

theorem done_run (s : Shared) (turns : List Turn) (i : Nat) (done : s.stage? i = some .done) :
    (s.run turns).stage? i = some .done := by
  induction turns generalizing s with
  | nil => exact done
  | cons turn rest ih => exact ih (s.step turn) (s.done_step turn i done)

/-- Two states whose appends are equally far, and have the same lines, one of them apart. -/
structure AlikeBut (i : Nat) (s t : Shared) : Prop where
  stages : ∀ j, t.stage? j = s.stage? j
  others : ∀ j, j ≠ i → t.writers[j]? = s.writers[j]?

section

variable {i : Nat} {s t : Shared} {turn : Turn}

namespace AlikeBut

theorem absent (alike : AlikeBut i s t) (absent : s.writers[turn.writer]? = none) :
    t.writers[turn.writer]? = none := by
  have stages := alike.stages turn.writer
  rwa [stage?, stage?, absent, Option.map_none, Option.map_eq_none_iff] at stages

theorem present (alike : AlikeBut i s t) (w : Writer) (here : s.writers[turn.writer]? = some w) :
    ∃ w', t.writers[turn.writer]? = some w' ∧ w'.stage = w.stage ∧ (turn.writer ≠ i → w' = w) := by
  have stages := alike.stages turn.writer
  rw [stage?, stage?, here, Option.map_some, Option.map_eq_some_iff] at stages
  obtain ⟨w', here', same⟩ := stages
  refine ⟨w', here', same, fun apart => ?_⟩
  have others := alike.others turn.writer apart
  rw [here, here'] at others
  exact Option.some.inj others

theorem advance (alike : AlikeBut i s t) (w w' : Writer)
    (here : s.writers[turn.writer]? = some w) (here' : t.writers[turn.writer]? = some w')
    (lines : turn.writer ≠ i → w' = w)
    (next : (w'.stage.step turn.clock (lineBytes w'.line) t.directory).1 =
      (w.stage.step turn.clock (lineBytes w.line) s.directory).1) :
    AlikeBut i (s.step turn) (t.step turn) := by
  rw [step_some s turn w here, step_some t turn w' here']
  constructor
  · intro j
    rw [stage?, stage?, writers_advance s turn w here, writers_advance t turn w' here', next]
    split
    · rfl
    · exact alike.stages j
  · intro j apart
    rw [writers_advance s turn w here, writers_advance t turn w' here', next]
    split
    · rename_i same
      rw [lines (same ▸ apart)]
    · exact alike.others j apart

theorem step (alike : AlikeBut i s t) (same : t.directory = s.directory)
    (unwritten : turn.writer = i → ∀ id, s.stage? i ≠ some (.write id)) :
    AlikeBut i (s.step turn) (t.step turn) ∧ (t.step turn).directory = (s.step turn).directory := by
  cases here : s.writers[turn.writer]? with
  | none =>
      rw [step_none s turn here, step_none t turn (alike.absent here)]
      exact ⟨alike, same⟩
  | some w =>
      obtain ⟨w', here', stages, lines⟩ := alike.present w here
      have steps : w'.stage.step turn.clock (lineBytes w'.line) t.directory =
          w.stage.step turn.clock (lineBytes w.line) s.directory := by
        rw [stages, same]
        by_cases mine : turn.writer = i
        · refine Stage.step_line _ _ _ _ _ fun id writes => unwritten mine id ?_
          rw [stage?, ← mine, here, Option.map_some, writes]
        · rw [lines mine]
      refine ⟨alike.advance w w' here here' lines (congrArg Prod.fst steps), ?_⟩
      rw [step_some s turn w here, step_some t turn w' here']
      exact congrArg Prod.snd steps

theorem run (alike : AlikeBut i s t) (same : t.directory = s.directory) (turns : List Turn)
    (unwritten : (s.run turns).stage? i ≠ some .done) :
    AlikeBut i (s.run turns) (t.run turns) ∧ (t.run turns).directory = (s.run turns).directory := by
  induction turns generalizing s t with
  | nil => exact ⟨alike, same⟩
  | cons turn rest ih =>
      have before : turn.writer = i → ∀ id, s.stage? i ≠ some (.write id) := by
        intro mine id writes
        refine unwritten (done_run (s.step turn) rest i ?_)
        cases here : s.writers[turn.writer]? with
        | none =>
            rw [stage?, ← mine, here] at writes
            cases writes
        | some w =>
            rw [stage?, ← mine, here, Option.map_some] at writes
            rw [step_some s turn w here, stage?, writers_advance s turn w here, if_pos mine,
              Option.map_some, Option.some.inj writes]
            rfl
      obtain ⟨next, after⟩ := alike.step same before
      exact ih next after unwritten

end AlikeBut

/-- Two states that differ in a line that is written, in no file, or only in one that will be
removed. -/
structure Forgets (i : Nat) (s t : Shared) : Prop where
  alike : AlikeBut i s t
  done : s.stage? i = some .done
  files : t.directory = s.directory ∨ s.directory.Near t.directory ∧
    ∃ w ∈ s.writers, ∃ lock, w.stage = .dropStaging lock

theorem forgets_step (since : Nat) (rest : List Turn) (under : s.Underway since (turn :: rest))
    (forgets : Forgets i s t) : Forgets i (s.step turn) (t.step turn) := by
  have later := under.step
  have done := done_step s turn i forgets.done
  have unwritten (id : Nat) : s.stage? i ≠ some (.write id) := by
    rw [forgets.done]
    exact nofun
  rcases forgets.files with same | ⟨near, v, member, lock, drops⟩
  · obtain ⟨alike, same⟩ := forgets.alike.step same fun _ => unwritten
    exact ⟨alike, done, .inl same⟩
  · rcases s.step_cases turn with ⟨absent, -⟩ | ⟨front, w, back, writers, here, steps⟩
    · rw [step_none s turn absent, step_none t turn (forgets.alike.absent absent)]
      exact forgets
    · obtain ⟨w', here', stages, lines⟩ := forgets.alike.present w here
      have same : w'.stage.step turn.clock (lineBytes w'.line) t.directory =
          w.stage.step turn.clock (lineBytes w.line) t.directory := by
        rw [stages]
        by_cases mine : turn.writer = i
        · refine Stage.step_line _ _ _ _ _ fun id writes => unwritten id ?_
          rw [stage?, ← mine, here, Option.map_some, writes]
        · rw [lines mine]
      rw [writers, List.mem_append, List.mem_cons, or_left_comm] at member
      -- The rotation removes the file that differs, or its turn is still to come.
      rcases member with rfl | other
      · have staged := (v.stage.not_staged_of_dropped turn.clock (lineBytes v.line) s.directory
          (under.succeeds.1 v here) (drops ▸ rfl) (drops ▸ rfl)).1
        have gone := near.drop turn.clock (lineBytes v.line) lock staged
        rw [← drops, ← same] at gone
        refine ⟨forgets.alike.advance v w' here here' lines (congrArg Prod.fst gone), done, .inl ?_⟩
        rw [step_some s turn v here, step_some t turn w' here']
        exact congrArg Prod.snd gone
      · obtain ⟨resting, moves⟩ := under.quiet front back w writers here (by rw [steps]) v other
          (drops ▸ rfl)
        obtain ⟨next, after⟩ := near.step turn.clock (lineBytes w.line) w.stage resting moves
        refine ⟨forgets.alike.advance w w' here here' lines ?_, done, .inr ⟨?_, v, ?_, lock, drops⟩⟩
        · rw [same, next]
        · rw [step_some s turn w here, step_some t turn w' here']
          simp only [advance, same]
          exact after
        · rw [steps]
          exact mem_middle front back v _ other

theorem forgets_run (since : Nat) (turns : List Turn) (under : s.Underway since turns)
    (forgets : Forgets i s t) : (t.run turns).directory = (s.run turns).directory := by
  induction turns generalizing s t with
  | nil =>
      rcases forgets.files with same | ⟨-, w, member, lock, drops⟩
      · exact same
      · have finished := under.finished w member
        rw [drops] at finished
        cases finished
  | cons turn rest ih => exact ih under.step (forgets_step since rest under forgets)

theorem forgets_of_late (since : Nat) (rest : List Turn) (under : s.Underway since (turn :: rest))
    (alike : AlikeBut turn.writer s t) (same : t.directory = s.directory) (line : String) (id : Nat)
    (here : s.writers[turn.writer]? = some ⟨line, .write id⟩) (late : ¬s.Timely id) :
    Forgets turn.writer (s.step turn) (t.step turn) := by
  obtain ⟨w', here', stages, lines⟩ := alike.present _ here
  have member := List.mem_of_getElem? here
  obtain ⟨-, names⟩ : (Stage.write id).Fits since s.directory := under.fits _ member
  obtain ⟨notLog, notWaiting⟩ := not_or.mp late
  have next : (w'.stage.step turn.clock (lineBytes w'.line) t.directory).1 = .done := by
    rw [stages]
    rfl
  have elsewhere (name : String) (apart : name ≠ stagingName) (f : File)
      (present : s.directory.file? name = some f) : f.id ≠ id := by
    intro here
    rcases names name f present here with rfl | staging
    · exact notLog ⟨f, present, here⟩
    · exact apart staging
  refine ⟨alike.advance _ w' here here' lines next, ?_, ?_⟩
  · rw [step_some s turn _ here, stage?, writers_advance s turn _ here, if_pos rfl]
    rfl
  · have before : (s.step turn).directory = s.directory.appendTo id (lineBytes line) turn.clock.now := by
      rw [step_some s turn _ here]
      rfl
    have after : (t.step turn).directory =
        s.directory.appendTo id (lineBytes w'.line) turn.clock.now := by
      rw [step_some t turn w' here', advance, stages, same]
      rfl
    rw [before, after]
    -- Only a rotation that has packed the file can be on its way: it will remove it.
    by_cases waiting : ∃ f, s.directory.file? stagingName = some f ∧ f.id = id
    · obtain ⟨f, staged, identity⟩ := waiting
      have busy : 0 < s.busy := Nat.pos_of_ne_zero fun none =>
        under.idle none f staged _ member (congrArg Stage.write identity.symm)
      obtain ⟨v, rotating, rotates⟩ := List.countP_pos_iff.mp busy
      have packed : v.stage.awaits = false := Bool.eq_false_iff.mpr fun awaits =>
        notWaiting ⟨⟨f, staged, identity⟩, v, rotating, awaits⟩
      obtain ⟨lock, drops⟩ := v.stage.of_rotates rotates packed
      obtain ⟨j, there⟩ := List.mem_iff_getElem?.mp rotating
      have stays : (s.step turn).writers[j]? = some v := by
        rw [step_some s turn _ here, writers_advance s turn _ here]
        split
        · rename_i mine
          rw [← mine, here] at there
          cases there
          cases drops
        · exact there
      refine .inr ⟨⟨fun name apart => ?_, rfl, rfl, ?_⟩, v, List.mem_of_getElem? stays, lock, drops⟩
      · rw [Directory.appendTo, Directory.appendTo,
          s.directory.get?_update_of_other id _ name (elsewhere name apart),
          s.directory.get?_update_of_other id _ name (elsewhere name apart)]
      · rw [Directory.appendTo, Directory.file?_update, Option.isSome_map, staged]
        rfl
    · left
      have nameless (name : String) (f : File) (present : s.directory.file? name = some f) :
          f.id ≠ id := by
        by_cases apart : name = stagingName
        · subst apart
          exact fun here => waiting ⟨f, present, here⟩
        · exact elsewhere name apart f present
      rw [Directory.appendTo, Directory.appendTo, s.directory.update_nameless id _ nameless,
        s.directory.update_nameless id _ nameless]

end

end Shared

end ProxyCheck
