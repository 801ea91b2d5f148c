import ProxyCheck.Proofs.Journal.Shared

/-! What is kept when appends share a directory: bytes that are in the log, or wait to be packed, are
in an archive in the end, or still in the log. -/
namespace ProxyCheck

namespace Stage

theorem Effect.grows {clock : Clock} {line : ByteArray} {since : Nat} {d e : Directory} {st : Stage}
    (effect : Effect clock line d st e) (few : (d.recentNames since).length ≤ archivesKept)
    (fits : st.Fits since d) (name : String) (f : File) (present : d.file? name = some f)
    (live : name = logName ∨ name = stagingName) (moves : st.movesAway = false)
    (drops : name = stagingName → ∀ lock, st ≠ .dropStaging lock) :
    ∃ g, e.file? name = some g ∧ ∀ bytes, Within bytes f.content → Within bytes g.content := by
  have unarchived : isArchiveName logStem name = false := by rcases live with rfl | rfl <;> decide
  by_cases touched : st.Touches since name f
  · obtain ⟨id, rfl, here⟩ : ∃ id, st = .write id ∧ f.id = id := by
      cases st with
      | write id => exact ⟨id, rfl, touched⟩
      | moveAway lock => cases moves
      | dropStaging lock => exact absurd rfl (drops touched lock)
      | pack lock id =>
          obtain ⟨archive, g, named, sole, same, -⟩ := fits
          rw [← sole.unique name f present (Eq.trans touched same.symm), unarchived] at named
          cases named
      | prune lock =>
          rw [touched.1] at unarchived
          cases unarchived
      | removeLock lock =>
          have touched : name = lockName := touched
          subst touched
          exact absurd live (by decide)
      | _ => exact touched.elim
    generalize same : Stage.write id = st at effect
    cases effect with
    | rest _ _ nodes _ _ =>
        rw [Directory.file?, nodes]
        exact ⟨f, present, fun bytes within => within⟩
    | add _ new made absent =>
        rw [← same] at made
        cases made
    | write id =>
        cases same
        refine ⟨{ f with content := f.content ++ line, modified := clock.now }, ?_, ?_⟩
        · rw [Directory.appendTo, Directory.file?_update, present, Option.map_some, if_pos here]
        · rintro bytes ⟨front, back, whole⟩
          exact ⟨front, back ++ line, by rw [whole, ByteArray.append_assoc]⟩
    | _ => cases same
  · exact ⟨f, effect.untouched name f few present touched, fun bytes within => within⟩

end Stage

namespace Shared

inductive Kept (since : Nat) (s : Shared) (bytes : ByteArray) : Prop where
  | log (f : File) (present : s.directory.file? logName = some f) (within : Within bytes f.content)
  | staging (f : File) (present : s.directory.file? stagingName = some f)
      (within : Within bytes f.content) (awaited : ∃ w ∈ s.writers, w.stage.awaits)
  | archive (name : String) (f : File) (named : isArchiveName logStem name)
      (present : s.directory.file? name = some f) (packed : f.packed) (recent : since ≤ f.modified)
      (within : Within bytes f.content)

theorem saved_of_kept (since : Nat) (s : Shared) (bytes : ByteArray) (kept : s.Kept since bytes) :
    s.directory.Saved bytes := by
  cases kept with
  | log f present within => exact .log (s.directory.logContent_of_file f present ▸ within)
  | staging f present within awaited => exact .staging f present within
  | archive name f named present packed recent within =>
      exact .archive ⟨name, f, named, present, packed, within⟩

variable {since : Nat} {s : Shared} {turn : Turn} {rest : List Turn} {bytes : ByteArray}

section

variable (front back : List Writer) (w : Writer) (clock : Clock)
  (effect : Stage.Effect clock (lineBytes w.line) s.directory w.stage
    (w.stage.step clock (lineBytes w.line) s.directory).2)
  (fits : w.stage.Fits since s.directory) (succeeds : w.stage.Succeeds clock s.directory)
  (few : (s.directory.recentNames since).length ≤ archivesKept)

include effect fits succeeds few

theorem kept_log (f : File) (present : s.directory.file? logName = some f)
    (within : Within bytes f.content) :
    Kept since ⟨(w.stage.step clock (lineBytes w.line) s.directory).2,
      front ++ { w with stage := (w.stage.step clock (lineBytes w.line) s.directory).1 } :: back⟩
      bytes := by
  cases moves : w.stage.movesAway with
  | true =>
      have next := w.stage.awaits_step clock (lineBytes w.line) s.directory succeeds
      rw [moves, Bool.true_or] at next
      refine .staging f ?_ within ⟨_, List.mem_append_right front List.mem_cons_self, next⟩
      obtain ⟨lock, away⟩ := w.stage.of_movesAway moves
      rw [away] at succeeds ⊢
      rw [Stage.Succeeds] at succeeds
      rw [Stage.step]
      cases renamed : s.directory.rename logName stagingName with
      | none =>
          rw [renamed] at succeeds
          cases succeeds
      | some e =>
          obtain ⟨g, log, rfl⟩ := s.directory.rename_cases e logName stagingName renamed
          rw [present] at log
          cases log
          rw [Directory.file?_rename, if_pos rfl]
  | false =>
      obtain ⟨g, there, grown⟩ := effect.grows few fits logName f present (.inl rfl) moves
        fun same => absurd same (by decide)
      exact .log g there (grown bytes within)

theorem kept_awaited (timed : since ≤ clock.now) (f : File)
    (present : s.directory.file? stagingName = some f) (within : Within bytes f.content)
    (awaits : w.stage.awaits) :
    Kept since ⟨(w.stage.step clock (lineBytes w.line) s.directory).2,
      front ++ { w with stage := (w.stage.step clock (lineBytes w.line) s.directory).1 } :: back⟩
      bytes := by
  cases stage : w.stage with
  | createArchive lock name =>
      have next := w.stage.awaits_step clock (lineBytes w.line) s.directory succeeds
      rw [stage] at effect next
      have untouched : ¬(Stage.createArchive lock name).Touches since stagingName f := id
      exact .staging f (effect.untouched stagingName f few present untouched) within
        ⟨_, List.mem_append_right front List.mem_cons_self, next⟩
  | pack lock id =>
      rw [stage] at fits
      obtain ⟨name, g, named, sole, rfl, -, -⟩ := fits
      have filled : (s.directory.pack g.id f.content clock.now).file? name =
          some { g with content := f.content, packed := true, modified := clock.now } := by
        rw [Directory.pack, Directory.file?_update, sole.present, Option.map_some, if_pos rfl]
      rw [Stage.step, present]
      exact .archive name _ named filled rfl timed within
  | _ =>
      rw [stage] at awaits
      cases awaits

end

theorem kept_step (under : s.Underway since (turn :: rest)) (kept : s.Kept since bytes) :
    (s.step turn).Kept since bytes := by
  rcases s.step_cases turn with ⟨absent, stays⟩ | ⟨front, w, back, writers, here, steps⟩
  · rw [stays]
    exact kept
  · have fits := under.fits w (List.mem_of_getElem? here)
    have succeeds := under.succeeds.1 w here
    have effect := w.stage.effect_step turn.clock (lineBytes w.line) since s.directory under.coherent fits
    have few := under.few_recent
    rw [steps]
    cases kept with
    | log f present within =>
        exact kept_log front back w turn.clock effect fits succeeds few f present within
    | staging f present within awaited =>
        obtain ⟨v, member, awaits⟩ := awaited
        rw [writers, List.mem_append, List.mem_cons, or_left_comm] at member
        -- Either the rotation itself goes on, or somebody else does who does not rotate.
        rcases member with rfl | other
        · exact kept_awaited front back v turn.clock effect fits succeeds few
            (under.timed turn List.mem_cons_self) f present within awaits
        · obtain ⟨resting, moves⟩ := under.quiet front back w writers here (by rw [steps]) v other
            (v.stage.rotates_of_awaits awaits)
          obtain ⟨g, there, grown⟩ := effect.grows few fits stagingName f present (.inr rfl) moves
            fun _ lock drops => by
              rw [drops] at resting
              cases resting
          exact .staging g there (grown bytes within) ⟨v, mem_middle front back v _ other, awaits⟩
    | archive name f named present packed recent within =>
        have untouched := w.stage.not_touches_archive since s.directory name f fits named present recent
          fun lock same => ?_
        · exact .archive name f named (effect.untouched name f few present untouched) packed recent within
        · rw [same] at fits
          -- What is being packed is the new archive, which nothing has been packed into before.
          obtain ⟨archive, g, _, sole, identity, unpacked, _⟩ := fits
          have same := sole.present
          rw [← sole.unique name f present identity.symm, present] at same
          cases same
          rw [packed] at unpacked
          cases unpacked

theorem kept_run (turns : List Turn) (under : s.Underway since turns) (kept : s.Kept since bytes) :
    (s.run turns).Kept since bytes := by
  induction turns generalizing s with
  | nil => exact kept
  | cons turn rest ih => exact ih under.step (kept_step under kept)

theorem kept_of_timely (line : String) (id : Nat)
    (here : s.writers[turn.writer]? = some ⟨line, .write id⟩) (timely : s.Timely id) :
    (s.step turn).Kept since (lineBytes line) := by
  have written (name : String) (f : File) (present : s.directory.file? name = some f)
      (same : f.id = id) : (s.directory.appendTo id (lineBytes line) turn.clock.now).file? name =
        some { f with content := f.content ++ lineBytes line, modified := turn.clock.now } := by
    rw [Directory.appendTo, Directory.file?_update, present, Option.map_some, if_pos same]
  have within (f : File) : Within (lineBytes line) (f.content ++ lineBytes line) :=
    ⟨f.content, .empty, ByteArray.append_empty.symm⟩
  rcases s.step_cases turn with ⟨absent, -⟩ | ⟨front, w, back, writers, present, steps⟩
  · rw [absent] at here
    cases here
  · rw [present] at here
    cases here
    rw [steps]
    rcases timely with ⟨f, log, same⟩ | ⟨⟨f, staged, same⟩, v, member, awaits⟩
    · exact .log _ (written logName f log same) (within f)
    · refine .staging _ (written stagingName f staged same) (within f) ⟨v, ?_, awaits⟩
      rw [writers, List.mem_append, List.mem_cons, or_left_comm] at member
      rcases member with rfl | other
      · cases awaits
      · exact mem_middle front back v _ other

end Shared

end ProxyCheck
