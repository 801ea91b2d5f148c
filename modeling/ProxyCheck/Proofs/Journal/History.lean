import ProxyCheck.Proofs.Journal.Rotation

/-! What a log and its archives keep of all that was appended, over any number of rotations. -/
namespace ProxyCheck

def joined (blocks : List ByteArray) : ByteArray :=
  blocks.foldr (· ++ ·) .empty

theorem joined_append (front back : List ByteArray) :
    joined (front ++ back) = joined front ++ joined back := by
  induction front with
  | nil => exact ByteArray.empty_append.symm
  | cons block rest ih =>
      calc block ++ joined (rest ++ back)
          = block ++ (joined rest ++ joined back) := congrArg (block ++ ·) ih
        _ = joined (block :: rest) ++ joined back := ByteArray.append_assoc.symm

def textOf (lines : List String) : ByteArray :=
  joined (lines.map lineBytes)

theorem textOf_append (front back : List String) :
    textOf (front ++ back) = textOf front ++ textOf back := by
  rw [textOf, List.map_append, joined_append, textOf, textOf]

theorem textOf_singleton (line : String) : textOf [line] = lineBytes line :=
  ByteArray.append_empty

theorem textOf_flatten (blocks : List (List String)) :
    textOf blocks.flatten = joined (blocks.map textOf) := by
  induction blocks with
  | nil => rfl
  | cons block rest ih =>
      rw [List.flatten_cons, textOf_append, ih]
      rfl

theorem lineBytes_ended (line : String) : lineBytes line = line.toUTF8 ++ "\n".toUTF8 :=
  String.toByteArray_append

theorem textOf_ended (front : List String) (last : String) :
    textOf (front ++ [last]) = (textOf front ++ last.toUTF8) ++ "\n".toUTF8 := by
  rw [textOf_append, textOf_singleton, lineBytes_ended, ByteArray.append_assoc]

/-- The lines that each rotation has taken out of the log, and those that are in it. -/
structure Ledger where
  retired : List (List String) := []
  current : List String := []

namespace Ledger

def append (l : Ledger) (line : String) : Ledger :=
  if logLimit ≤ (textOf l.current).size then ⟨l.retired ++ [l.current], [line]⟩
  else { l with current := l.current ++ [line] }

def lines (l : Ledger) : List String :=
  l.retired.flatten ++ l.current

structure Bounded (l : Ledger) : Prop where
  large : ∀ block ∈ l.retired, logLimit ≤ (textOf block).size
  short : (textOf l.current).size < logLimit ∨ ∃ front last,
    l.current = front ++ [last] ∧ (textOf l.current).size < logLimit + (lineBytes last).size

theorem lines_append (l : Ledger) (line : String) : (l.append line).lines = l.lines ++ [line] := by
  rw [append, lines, lines]
  split
  · simp
  · simp

theorem bounded_append (l : Ledger) (line : String) (bounded : l.Bounded) :
    (l.append line).Bounded := by
  rw [append]
  by_cases large : logLimit ≤ (textOf l.current).size
  · rw [if_pos large]
    constructor
    · intro block member
      rcases List.mem_append.mp member with old | new
      · exact bounded.large block old
      · rw [List.mem_singleton.mp new]
        exact large
    · right
      refine ⟨[], line, rfl, ?_⟩
      rw [textOf_singleton]
      exact Nat.lt_add_of_pos_left (by decide)
  · rw [if_neg large]
    refine ⟨bounded.large, .inr ⟨l.current, line, rfl, ?_⟩⟩
    rw [textOf_append, textOf_singleton, ByteArray.size_append]
    omega

end Ledger

namespace Directory

/-- A directory that keeps the lines of a ledger, those of its last rotations in archives. -/
structure Keeps (d : Directory) (l : Ledger) : Prop where
  resting : d.Resting
  log : d.logContent = textOf l.current
  archives : d.unpacked = List.drop (l.retired.length - archivesKept) (l.retired.map textOf)

theorem drop_last_snoc {α : Type} (kept : Nat) (all : List α) (new : α) :
    List.drop ((List.drop (all.length - kept) all).length + 1 - kept)
        (List.drop (all.length - kept) all ++ [new]) =
      List.drop (all.length + 1 - kept) (all ++ [new]) := by
  rw [← List.drop_append_of_le_length (by omega), List.drop_drop, List.length_drop]
  congr 1
  omega

theorem keeps_append (d : Directory) (l : Ledger) (clock : Clock) (line : String)
    (keeps : d.Keeps l)
    (later : d.isOversized → ∀ p ∈ d.archives logStem, p.2.modified < clock.now) :
    (d.append clock line).Keeps (l.append line) := by
  obtain ⟨resting, log, archives⟩ := d.resting_append clock line keeps.resting later
  rw [keeps.log] at log archives
  rw [Ledger.append]
  by_cases large : logLimit ≤ (textOf l.current).size
  · rw [if_pos large] at log archives ⊢
    refine ⟨resting, log.trans (textOf_singleton line).symm, ?_⟩
    have newest := drop_last_snoc archivesKept (l.retired.map textOf) (textOf l.current)
    rw [List.length_map] at newest
    rw [archives, keeps.archives, newest, List.map_append, List.length_append]
    rfl
  · rw [if_neg large] at log archives ⊢
    refine ⟨resting, ?_, archives.trans keeps.archives⟩
    rw [log, textOf_append, textOf_singleton]

def appendAll (d : Directory) : List (Clock × String) → Directory
  | [] => d
  | (clock, line) :: rest => (d.append clock line).appendAll rest

def rotations (d : Directory) : List (Clock × String) → Nat
  | [] => 0
  | (clock, line) :: rest =>
    (if d.isOversized then 1 else 0) + (d.append clock line).rotations rest

/-- At every rotation the clock shows a later time than that of any archive. -/
def Advances (d : Directory) : List (Clock × String) → Prop
  | [] => True
  | (clock, line) :: rest =>
    (d.isOversized → ∀ p ∈ d.archives logStem, p.2.modified < clock.now) ∧
      (d.append clock line).Advances rest

/-- A directory in which no log has been kept yet. -/
structure Unused (d : Directory) : Prop where
  coherent : d.Coherent
  lockFree : d.LockFree
  noLog : d.nodes.get? logName = none
  noStaging : d.nodes.get? stagingName = none
  noArchive : ∀ name, isArchiveName logStem name → d.nodes.get? name = none

theorem keeps_appendAll (d : Directory) (l : Ledger) (run : List (Clock × String))
    (keeps : d.Keeps l) (bounded : l.Bounded) (advances : d.Advances run) :
    ∃ after : Ledger, (d.appendAll run).Keeps after ∧ after.Bounded ∧
      after.lines = l.lines ++ run.map Prod.snd ∧
      after.retired.length = l.retired.length + d.rotations run := by
  induction run generalizing d l with
  | nil => exact ⟨l, keeps, bounded, by simp, rfl⟩
  | cons head rest ih =>
      rcases head with ⟨clock, line⟩
      rcases advances with ⟨later, advances⟩
      have next := d.keeps_append l clock line keeps later
      obtain ⟨after, kept, limits, lines, count⟩ :=
        ih (d.append clock line) (l.append line) next (l.bounded_append line bounded) advances
      refine ⟨after, kept, limits, ?_, ?_⟩
      · rw [lines, l.lines_append, List.append_assoc]
        rfl
      · have oversized := d.isOversized_iff keeps.resting
        rw [keeps.log] at oversized
        rw [count, rotations, Ledger.append]
        by_cases large : logLimit ≤ (textOf l.current).size
        · rw [if_pos large, if_pos (oversized.mpr large), List.length_append, List.length_singleton,
            Nat.add_assoc]
        · rw [if_neg large, if_neg (fun big => large (oversized.mp big)), Nat.zero_add]

theorem archives_unused (d : Directory) (unused : d.Unused) : d.archives logStem = [] := by
  apply List.eq_nil_iff_forall_not_mem.mpr
  intro p member
  rcases (d.mem_archives logStem p).mp member with ⟨present, named⟩
  rw [unused.noArchive p.1 named] at present
  cases present

theorem keeps_unused (d : Directory) (unused : d.Unused) : d.Keeps {} := by
  have archives := d.archives_unused unused
  refine ⟨⟨unused.coherent, unused.lockFree, unused.noStaging, .inl unused.noLog, ?_⟩, ?_, ?_⟩
  · rw [archives]
    exact shelved_nil
  · rw [logContent, unused.noLog]
    rfl
  · rw [unpacked, archives]
    rfl

def remembered (d : Directory) : ByteArray :=
  joined d.unpacked ++ d.logContent

/-- What a log that was rotated so often has kept of the lines appended to it. -/
structure Preserves (d : Directory) (lines : List String) (rotations : Nat) : Prop where
  /-- The rotations cut the lines into blocks; the archives have the last of them. -/
  blocks : ∃ (retired : List (List String)) (current : List String),
    retired.length = rotations ∧ retired.flatten ++ current = lines ∧
      d.unpacked = List.drop (rotations - archivesKept) (retired.map textOf) ∧
      d.logContent = textOf current
  suffix : ∃ lost, lost ++ d.remembered = textOf lines
  whole : rotations ≤ archivesKept → d.remembered = textOf lines
  count : (d.archives logStem).length = min rotations archivesKept
  /-- The archives from the oldest on are the archives in order of creation. -/
  shelved : Shelved (d.archives logStem)
  large : ∀ block ∈ d.unpacked, logLimit ≤ block.size
  ended : ∀ block ∈ d.unpacked, ∃ front, block = front ++ "\n".toUTF8
  noStaging : d.nodes.get? stagingName = none
  short : ∀ front last, lines = front ++ [last] →
    d.logContent.size < logLimit + (lineBytes last).size

theorem mem_unpacked (d : Directory) (l : Ledger) (keeps : d.Keeps l) (block : ByteArray)
    (member : block ∈ d.unpacked) : ∃ lines ∈ l.retired, textOf lines = block := by
  rw [keeps.archives] at member
  exact List.mem_map.mp (List.mem_of_mem_drop member)

theorem remembered_suffix (d : Directory) (l : Ledger) (keeps : d.Keeps l) :
    joined (List.take (l.retired.length - archivesKept) (l.retired.map textOf)) ++ d.remembered =
      textOf l.lines := by
  calc joined (List.take (l.retired.length - archivesKept) (l.retired.map textOf)) ++ d.remembered
      = joined (List.take (l.retired.length - archivesKept) (l.retired.map textOf)) ++
          joined (List.drop (l.retired.length - archivesKept) (l.retired.map textOf)) ++
          textOf l.current := by
        rw [remembered, keeps.archives, keeps.log, ByteArray.append_assoc]
    _ = joined (l.retired.map textOf) ++ textOf l.current := by
        rw [← joined_append, List.take_append_drop]
    _ = textOf l.lines := by
        rw [Ledger.lines, textOf_append, textOf_flatten]

theorem large_nonempty (lines : List String) (large : logLimit ≤ (textOf lines).size) :
    lines ≠ [] := by
  intro empty
  rw [empty] at large
  exact absurd large (by decide)

/-- Rotation loses, repeats and reorders nothing: after any run of appends the archives and the log
have the end of all that was appended, back to the start of the oldest archive kept. -/
theorem appendAll_preserves (d : Directory) (run : List (Clock × String)) (unused : d.Unused)
    (advances : d.Advances run) :
    (d.appendAll run).Preserves (run.map Prod.snd) (d.rotations run) := by
  have fresh : Ledger.Bounded {} := ⟨fun _ member => absurd member List.not_mem_nil, .inl (by decide)⟩
  obtain ⟨l, keeps, bounded, lines, count⟩ :=
    d.keeps_appendAll {} run (d.keeps_unused unused) fresh advances
  generalize d.appendAll run = e at keeps ⊢
  have lines : l.lines = run.map Prod.snd := lines
  have count : l.retired.length = d.rotations run := by
    rw [count]
    exact Nat.zero_add _
  have suffix := e.remembered_suffix l keeps
  rw [← count, ← lines]
  refine ⟨⟨l.retired, l.current, rfl, rfl, keeps.archives, keeps.log⟩, ⟨_, suffix⟩, ?_, ?_,
    keeps.resting.shelved, ?_, ?_, keeps.resting.noStaging, ?_⟩
  · intro few
    rw [Nat.sub_eq_zero_of_le few, List.take_zero] at suffix
    exact ByteArray.empty_append.symm.trans suffix
  · have kept := congrArg List.length keeps.archives
    rw [unpacked, List.length_map, List.length_drop, List.length_map] at kept
    omega
  · intro block member
    obtain ⟨lines, retired, rfl⟩ := e.mem_unpacked l keeps block member
    exact bounded.large lines retired
  · intro block member
    obtain ⟨lines, retired, rfl⟩ := e.mem_unpacked l keeps block member
    have present := large_nonempty lines (bounded.large lines retired)
    have ended := textOf_ended lines.dropLast (lines.getLast present)
    rw [List.dropLast_append_getLast present] at ended
    exact ⟨_, ended⟩
  · intro front last ends
    rw [keeps.log]
    rcases bounded.short with small | ⟨start, line, current, short⟩
    · omega
    · rw [Ledger.lines, current, ← List.append_assoc] at ends
      have same : line = last := by simpa using (List.append_inj' ends rfl).2
      rw [← same]
      exact short

theorem unused_empty : Unused {} := by
  refine ⟨⟨?_, ?_⟩, ⟨?_, ?_⟩, rfl, rfl, fun _ _ => rfl⟩
  · intro name f present
    cases present
  · intro id member
    cases member
  · intro f present
    cases present
  · intro modified present
    cases present

theorem size_lineBytes_replicate (n : Nat) :
    (lineBytes (String.ofList (List.replicate n 'a'))).size = n + 1 := by
  have width : 'a'.utf8Size = 1 := by decide
  have ended : "\n".toByteArray.size = 1 := by decide
  rw [lineBytes, String.toUTF8, String.toByteArray_append, ByteArray.size_append, ended]
  simp [List.utf8Encode, width]

theorem rotations_filling (first second : Clock) (long line : String)
    (large : logLimit ≤ (lineBytes long).size) :
    Advances {} [(first, long), (second, line)] ∧
      rotations {} [(first, long), (second, line)] = 1 := by
  have small : isOversized {} = false := rfl
  have filled := keeps_append {} {} first long (keeps_unused {} unused_empty)
    fun oversized => absurd oversized (by rw [small]; exact Bool.false_ne_true)
  have ledger : Ledger.append {} long = ⟨[], [long]⟩ := rfl
  rw [ledger] at filled
  have full : (append {} first long).isOversized := by
    rw [isOversized_iff _ filled.resting, filled.log, textOf_singleton]
    exact large
  have none : (append {} first long).archives logStem = [] :=
    List.map_eq_nil_iff.mp filled.archives
  refine ⟨⟨fun oversized => ?_, fun _ p member => ?_, trivial⟩, ?_⟩
  · rw [small] at oversized
    cases oversized
  · rw [none] at member
    cases member
  · rw [rotations, rotations, rotations, small, full]
    rfl

def fillingRun : List (Clock × String) :=
  [(⟨1, "20260101_000001", "1"⟩, String.ofList (List.replicate logLimit 'a')),
    (⟨2, "20260101_000002", "2"⟩, "x")]

theorem appendAll_preserves_filling :
    Unused {} ∧ Advances {} fillingRun ∧ rotations {} fillingRun = 1 ∧
      (appendAll {} fillingRun).Preserves (fillingRun.map Prod.snd) 1 := by
  have large : logLimit ≤ (lineBytes (String.ofList (List.replicate logLimit 'a'))).size := by
    rw [size_lineBytes_replicate]
    exact Nat.le_succ logLimit
  rcases rotations_filling ⟨1, "20260101_000001", "1"⟩
    ⟨2, "20260101_000002", "2"⟩ (String.ofList (List.replicate logLimit 'a')) "x" large
      with ⟨advances, once⟩
  have preserved := appendAll_preserves {} fillingRun unused_empty advances
  rw [fillingRun, once, ← fillingRun] at preserved
  exact ⟨unused_empty, advances, once, preserved⟩

end Directory

end ProxyCheck
