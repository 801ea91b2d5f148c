import ProxyCheck.Proofs.Journal.Effect
import ProxyCheck.Proofs.Journal.Growth

/-! The search for the name of a new archive, check by check. It ends with a name that is free, so that
an append never writes over an archive. -/
namespace ProxyCheck

/-- A search on its way: the name to be checked, and the number of the next. -/
structure NameSearch where
  name : String
  next : UInt32

namespace NameSearch

def start (stem stamp : String) : NameSearch :=
  ⟨stem ++ "." ++ stamp ++ archiveEnd, 1⟩

/-- A number is made into a name, and is then counted up, which it must have room for. -/
def advance? (stem stamp : String) (s : NameSearch) : Option NameSearch :=
  if s.next.toNat + 1 < UInt32.size then
    some ⟨stem ++ "." ++ stamp ++ "-" ++ toString s.next.toNat ++ archiveEnd, s.next + 1⟩
  else none

inductive Ends (d : Directory) (stem stamp : String) : NameSearch → Nat → String → Prop where
  | free (s : NameSearch) (absent : d.has s.name = false) : Ends d stem stamp s 1 s.name
  | taken (s t : NameSearch) (checks : Nat) (name : String) (present : d.has s.name)
      (advances : s.advance? stem stamp = some t) (later : Ends d stem stamp t checks name) :
      Ends d stem stamp s (checks + 1) name

def after (stem stamp : String) (n : Nat) : NameSearch :=
  ⟨archiveName stem stamp n, UInt32.ofNat (n + 1)⟩

section

variable (d : Directory) (stem stamp : String)

theorem after_zero : after stem stamp 0 = start stem stamp := by
  simp [after, start, archiveName]

theorem advance?_after (n : Nat) (room : n + 2 < UInt32.size) :
    (after stem stamp n).advance? stem stamp = some (after stem stamp (n + 1)) := by
  have number : (UInt32.ofNat (n + 1)).toNat = n + 1 :=
    UInt32.toNat_ofNat_of_lt (Nat.lt_of_succ_lt room)
  have counted : UInt32.ofNat (n + 1) + 1 = UInt32.ofNat (n + 1 + 1) :=
    (UInt32.ofNat_add (n + 1) 1).symm
  have name : archiveName stem stamp (n + 1) =
      stem ++ "." ++ stamp ++ "-" ++ toString (n + 1) ++ archiveEnd := by
    simp [archiveName, String.append_assoc]
  simp only [advance?, after, number, counted, name]
  exact if_pos room

theorem ends_after (n left : Nat) (room : n + 1 < UInt32.size)
    (absent : d.has (archiveName stem stamp n) = false)
    (present : ∀ k < n, d.has (archiveName stem stamp k)) (few : left ≤ n) :
    Ends d stem stamp (after stem stamp (n - left)) (left + 1) (archiveName stem stamp n) := by
  induction left with
  | zero => exact .free (after stem stamp n) absent
  | succ left ih =>
      have here : n - (left + 1) + 1 = n - left := by omega
      have advances := advance?_after stem stamp (n - (left + 1)) (by omega)
      rw [here] at advances
      exact .taken _ _ _ _ (present _ (by omega)) advances (ih (by omega))

theorem ends_unique (s : NameSearch) (m n : Nat) (first second : String)
    (one : Ends d stem stamp s m first) (other : Ends d stem stamp s n second) :
    m = n ∧ first = second := by
  induction one generalizing n with
  | free s absent =>
      cases other with
      | free _ _ => exact ⟨rfl, rfl⟩
      | taken _ t checks _ present advances later =>
          rw [absent] at present
          cases present
  | taken s t checks first present advances later ih =>
      cases other with
      | free _ absent =>
          rw [absent] at present
          cases present
      | taken _ u checks' _ _ advances' later' =>
          rw [advances] at advances'
          cases advances'
          obtain ⟨count, name⟩ := ih checks' later'
          exact ⟨congrArg (· + 1) count, name⟩

end

end NameSearch

namespace Directory

theorem has_iff (d : Directory) (name : String) : d.has name ↔ d.nodes.get? name ≠ none :=
  Option.isSome_iff_ne_none

/-- Identities are given out once, and the log has no second name. -/
structure Unshared (d : Directory) : Prop where
  coherent : d.Coherent
  sole : ∀ f, d.file? logName = some f → d.Sole logName f

/-- After so many steps of an append an archive is as it was, or has been removed as one too many. -/
inductive Spared (d : Directory) (clock : Clock) (line : ByteArray) (n : Nat) (name : String)
    (node : Node) : Prop where
  | kept (same : (Stage.run clock line n (.measure, d)).2.nodes.get? name = some node)
  | pruned (m lock : Nat) (e : Directory) (earlier : m < n)
      (prunes : Stage.run clock line m (.measure, d) = (.prune lock, e)) (surplus : e.Removes name)
      (gone : (Stage.run clock line n (.measure, d)).2.nodes.get? name = none)

end Directory

namespace Stage

variable {clock : Clock} {line : ByteArray} {d e : Directory} {st : Stage}

theorem Effect.archive (effect : Effect clock line d st e) (name : String) (node : Node)
    (named : isArchiveName logStem name) (present : d.nodes.get? name = some node) :
    e.nodes.get? name = some node ∨
      (e.nodes.get? name = none ∧ d.Removes name ∧ ∃ lock, st = .prune lock) ∨
      ∃ f, node = .file f ∧ (st = .write f.id ∨ ∃ lock, st = .pack lock f.id) := by
  have updated (id : Nat) (change : File → File) :
      (d.update id change).nodes.get? name = some node ∨ ∃ f, node = .file f ∧ f.id = id := by
    rw [Directory.get?_update, present]
    cases node with
    | folder modified => exact .inl rfl
    | file f =>
        by_cases here : f.id = id
        · exact .inr ⟨f, rfl, here⟩
        · simp [here]
  have removed (other : String) (different : isArchiveName logStem other = false) :
      ((d.removeFile other).getD d).nodes.get? name = some node := by
    have apart := ne_of_isArchiveName logStem name other named different
    rw [Directory.get?_removeFile, if_neg fun both => apart both.1, present]
  cases effect with
  | rest _ _ nodes _ _ => exact .inl (nodes ▸ present)
  | add _ new made absent =>
      have apart : name ≠ new := by
        rintro rfl
        rw [present] at absent
        cases absent
      rw [Directory.get?_addFile, if_neg apart]
      exact .inl present
  | move lock f log =>
      have notLog := ne_of_isArchiveName logStem name logName named logName_not_archive
      have notStaging := ne_of_isArchiveName logStem name stagingName named stagingName_not_archive
      rw [NameMap.get?_insert, if_neg notStaging, NameMap.get?_erase, if_neg notLog]
      exact .inl present
  | pack lock id content =>
      refine (updated id _).imp_right ?_
      rintro ⟨f, file, rfl⟩
      exact .inr ⟨f, file, .inr ⟨lock, rfl⟩⟩
  | write id =>
      refine (updated id _).imp_right ?_
      rintro ⟨f, file, rfl⟩
      exact .inr ⟨f, file, .inl rfl⟩
  | dropStaging lock => exact .inl (removed stagingName stagingName_not_archive)
  | prune lock =>
      rw [Directory.get?_prune]
      by_cases gone : name ∈ (d.surplus logStem).map Prod.fst ∧ (d.file? name).isSome
      · rw [if_pos gone]
        exact .inr (.inl ⟨rfl, gone.1, lock, rfl⟩)
      · rw [if_neg gone]
        exact .inl present
  | removeLock lock => exact .inl (removed lockName lockName_not_archive)

theorem creates_of_packs (lock id : Nat) (packs : (st.step clock line d).1 = .pack lock id) :
    ∃ lock name, st = .createArchive lock name := by
  cases st with
  | createArchive lock name => exact ⟨lock, name, rfl⟩
  | prune | removeLock | release | write | done => cases packs
  | measure | openLock | tryLock | measureAgain | moveAway | pack | dropStaging | openLog =>
      rw [step] at packs
      split at packs <;> cases packs

/-- An append that started in `d`: what its next step needs is there, and what it packs is a file that
was not there at the start. -/
structure OnItsWay (d : Directory) (state : Stage × Directory) : Prop where
  unshared : state.2.Unshared
  fits : state.1.Fits 0 state.2
  grown : d.fresh ≤ state.2.fresh
  packsNew : ∀ lock id, state.1 = .pack lock id → d.fresh ≤ id

theorem OnItsWay.effect (way : OnItsWay d (st, e)) :
    Effect clock line e st (st.step clock line e).2 :=
  effect_step clock line 0 e st way.unshared.coherent way.fits

theorem OnItsWay.step (way : OnItsWay d (st, e)) : OnItsWay d (st.step clock line e) := by
  obtain ⟨⟨coherent, sole⟩, fits, grown, -⟩ := way
  have effect := effect_step clock line 0 e st coherent fits
  have next := fits_step clock line 0 e st coherent sole (Nat.zero_le _) fits
  refine ⟨⟨effect.coherent coherent, effect.sole_log coherent sole⟩, next,
    Nat.le_trans grown effect.fresh_le, ?_⟩
  intro lock id packs
  obtain ⟨lock', name, rfl⟩ := creates_of_packs lock id packs
  rw [Stage.step, e.createFile_absent name clock.now coherent fits.2] at packs
  cases packs
  exact grown

theorem onItsWay_run (n : Nat) (unshared : d.Unshared) :
    OnItsWay d (run clock line n (.measure, d)) := by
  induction n with
  | zero => exact ⟨unshared, trivial, Nat.le_refl d.fresh, nofun⟩
  | succ n ih =>
      rw [run_add clock line n 1]
      exact ih.step

theorem OnItsWay.archive (clock : Clock) (line : ByteArray) (way : OnItsWay d (st, e))
    (coherent : d.Coherent) (name : String) (node : Node) (named : isArchiveName logStem name)
    (old : d.nodes.get? name = some node)
    (present : e.nodes.get? name = some node) :
    (st.step clock line e).2.nodes.get? name = some node ∨
      (st.step clock line e).2.nodes.get? name = none ∧ e.Removes name ∧ ∃ lock, st = .prune lock := by
  have effect : Effect clock line e st (st.step clock line e).2 := way.effect
  rcases effect.archive name node named present with same | pruned | ⟨f, rfl, writes | ⟨lock, packs⟩⟩
  · exact .inl same
  · exact .inr pruned
  · -- Whoever writes a line writes to the log, or to what the log has been moved to.
    have fits := way.fits
    rw [writes] at fits
    rcases fits.2 name f ((e.file?_eq_some_iff name f).mpr present) rfl with rfl | rfl
    · rw [logName_not_archive] at named
      cases named
    · rw [stagingName_not_archive] at named
      cases named
  · have new := way.packsNew lock f.id packs
    have below := coherent.files name f ((d.file?_eq_some_iff name f).mpr old)
    omega

theorem remaining_run (n : Nat) (state : Stage × Directory) :
    (run clock line n state).1.remaining ≤ state.1.remaining := by
  induction n generalizing state with
  | zero => exact Nat.le_refl _
  | succ n ih =>
      rcases state with ⟨st, e⟩
      by_cases finished : st = .done
      · rw [finished, run_finished]
      · have less := remaining_step clock line e st finished
        exact Nat.le_trans (ih (st.step clock line e)) (Nat.le_of_lt less)

theorem gone_past_prune (m k lock : Nat) (name : String) (unshared : d.Unshared)
    (named : isArchiveName logStem name)
    (prunes : run clock line m (.measure, d) = (.prune lock, e))
    (gone : (run clock line (m + 1 + k) (.measure, d)).2.nodes.get? name = none) :
    (run clock line (m + 1 + k + 1) (.measure, d)).2.nodes.get? name = none := by
  have past : (run clock line (m + 1 + k) (.measure, d)).1.remaining ≤
      (Stage.removeLock lock).remaining := by
    rw [run_add clock line (m + 1) k, run_add clock line m 1, prunes]
    exact remaining_run k _
  have way : OnItsWay d (run clock line (m + 1 + k) (.measure, d)) := onItsWay_run _ unshared
  rw [run_add clock line (m + 1 + k) 1]
  generalize run clock line (m + 1 + k) (.measure, d) = state at past way gone ⊢
  rcases state with ⟨st, e'⟩
  have effect : Effect clock line e' st (st.step clock line e').2 := way.effect
  refine effect.absent name named (fun made => ?_) gone
  obtain ⟨lock', rfl⟩ := st.created_of_made name made named
  have before : (Stage.removeLock lock).remaining < (Stage.createArchive lock' name).remaining := by
    simp [remaining]
  exact absurd past (Nat.not_le_of_lt before)

/-- Nothing is written over an archive on the way of an append: the archive that it makes is new. -/
theorem spared_run (n : Nat) (unshared : d.Unshared) (name : String) (node : Node)
    (named : isArchiveName logStem name) (present : d.nodes.get? name = some node) :
    d.Spared clock line n name node := by
  induction n with
  | zero => exact .kept present
  | succ n ih =>
      cases ih with
      | kept same =>
          have way : OnItsWay d (run clock line n (.measure, d)) := onItsWay_run n unshared
          have next := run_add clock line n 1 (.measure, d)
          generalize reached : run clock line n (.measure, d) = state at way same next
          rcases state with ⟨st, e⟩
          have fares := way.archive clock line unshared.coherent name node named present same
          rcases fares with kept | ⟨gone, surplus, lock, rfl⟩
          · exact .kept (next ▸ kept)
          · exact .pruned n lock e (Nat.lt_succ_self n) reached surplus (next ▸ gone)
      | pruned m lock e earlier prunes surplus gone =>
          obtain ⟨k, rfl⟩ := Nat.exists_eq_add_of_le earlier
          exact .pruned m lock e (Nat.lt_succ_of_lt earlier) prunes surplus
            (gone_past_prune m k lock name unshared named prunes gone)

end Stage

namespace Directory

theorem unshared_append (d : Directory) (clock : Clock) (line : String) (unshared : d.Unshared) :
    (d.append clock line).Unshared := by
  have way : Stage.OnItsWay d
      (Stage.run clock (lineBytes line) Stage.measure.remaining (.measure, d)) :=
    Stage.onItsWay_run _ unshared
  exact way.unshared

theorem unshared_appendAll (d : Directory) (run : List (Clock × String)) (unshared : d.Unshared) :
    (d.appendAll run).Unshared := by
  induction run generalizing d with
  | nil => exact unshared
  | cons head rest ih => exact ih _ (d.unshared_append head.1 head.2 unshared)

/-- The search for a name ends after at most one check more than there are entries, with the first
name of its time that is free, which counts as the name of an archive; and appends, whatever the
clock shows them, write over no archive that is there. -/
theorem freeArchiveName_search (d : Directory) (stem stamp : String)
    (bounded : d.nodes.pairs.length < UInt32.size - 1) :
    (∃ n ≤ d.nodes.pairs.length,
        (∀ checks name, NameSearch.Ends d stem stamp (.start stem stamp) checks name ↔
          checks = n + 1 ∧ name = d.freeArchiveName stem stamp) ∧
        d.freeArchiveName stem stamp = archiveName stem stamp n ∧
        d.nodes.get? (archiveName stem stamp n) = none ∧
        ∀ k < n, d.nodes.get? (archiveName stem stamp k) ≠ none) ∧
      (∃ middle, d.freeArchiveName stem stamp = stem ++ "." ++ middle ++ ".gz") ∧
      (∀ node, (d.freeArchiveName stem stamp, node) ∈
        (d.put (d.freeArchiveName stem stamp) node).archives stem) ∧
      (d.Unshared → ∀ run name node, isArchiveName logStem name →
        (d.appendAll run).nodes.get? name = some node →
          ∀ clock line n, (d.appendAll run).Spared clock (lineBytes line) n name node) := by
  obtain ⟨n, bound, same, absent, taken⟩ := d.freeArchiveName_spec stem stamp
  refine ⟨⟨n, bound, ?_, same, absent, taken⟩, ?_, ?_, ?_⟩
  · have room : n + 1 < UInt32.size := by omega
    have free : d.has (archiveName stem stamp n) = false := by
      rw [has, absent, Option.isSome_none]
    have ends := NameSearch.ends_after d stem stamp n n room free
      (fun k less => (d.has_iff _).mpr (taken k less)) (Nat.le_refl n)
    rw [Nat.sub_self, NameSearch.after_zero, ← same] at ends
    intro checks name
    constructor
    · intro other
      exact NameSearch.ends_unique d stem stamp _ _ _ _ _ other ends
    · rintro ⟨rfl, rfl⟩
      exact ends
  · exact ⟨stamp ++ (if n = 0 then "" else "-" ++ toString n),
      same.trans (by simp [archiveName, archiveEnd, String.append_assoc])⟩
  · intro node
    rw [mem_archives, get?_put, if_pos rfl]
    exact ⟨rfl, d.isArchiveName_freeArchiveName stem stamp⟩
  · intro unshared run name node named present clock line n
    exact Stage.spared_run n (d.unshared_appendAll run unshared) name node named present

theorem unshared_of_writable (d : Directory) (writable : d.Writable) : d.Unshared := by
  refine ⟨writable.coherent, fun f present => ?_⟩
  rcases writable.log with absent | ⟨g, sole⟩
  · rw [file?_eq_some_iff, absent] at present
    cases present
  · rw [sole.present] at present
    cases present
    exact sole

def sameSecond (d : Directory) : Directory :=
  ((d.addFile logName (largeFile 0)).addFile "proxyprobe-debug.20240229_120000.gz"
    ⟨1, .empty, true, 1⟩).addFile "proxyprobe-debug.20240229_120000-1.gz" ⟨2, .empty, true, 2⟩

/-- The third archive of a second is numbered 2, and the first is safe from it. -/
theorem freeArchiveName_search_sameSecond :
    (sameSecond {}).nodes.pairs.length < UInt32.size - 1 ∧ (sameSecond {}).Unshared ∧
      NameSearch.Ends (sameSecond {}) logStem "20240229_120000" (.start logStem "20240229_120000") 3
        "proxyprobe-debug.20240229_120000-2.gz" ∧
      ∀ n, (sameSecond {}).Spared ⟨3, "20240229_120000", "noon"⟩ (lineBytes "x") n
        "proxyprobe-debug.20240229_120000.gz" (.file ⟨1, .empty, true, 1⟩) := by
  have bounded : (sameSecond {}).nodes.pairs.length < UInt32.size - 1 := by decide +kernel
  have log := (clear_log {} (largeFile 0) unused_empty rfl).writable
  have first := writable_addFile _ "proxyprobe-debug.20240229_120000.gz" ⟨1, .empty, true, 1⟩ log rfl
    (by decide)
  have unshared : (sameSecond {}).Unshared :=
    unshared_of_writable _ (writable_addFile _ _ _ first rfl (by decide))
  have named : (sameSecond {}).freeArchiveName logStem "20240229_120000" =
      archiveName logStem "20240229_120000" 2 := by decide +kernel
  obtain ⟨⟨n, -, ends, same, -⟩, -, -, spares⟩ :=
    freeArchiveName_search (sameSecond {}) logStem "20240229_120000" bounded
  have second : n = 2 := archiveName_injective _ _ _ _ (same.symm.trans named)
  refine ⟨bounded, unshared, (ends _ _).mpr ⟨by rw [second], named.symm⟩, ?_⟩
  intro n
  exact spares unshared [] _ _ (by decide) rfl _ "x" n

end Directory

end ProxyCheck
