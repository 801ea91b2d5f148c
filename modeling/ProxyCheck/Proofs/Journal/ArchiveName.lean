import ProxyCheck.Journal.Append
import ProxyCheck.Proofs.NameMap
import ProxyCheck.Proofs.Text.Digits

/-! Names of archives: no two numbers give one name, and a new archive gets a name that is free. -/
namespace ProxyCheck

theorem archiveName_injective (stem stamp : String) (m n : Nat)
    (same : archiveName stem stamp m = archiveName stem stamp n) : m = n := by
  have dashed (k : Nat) : "-" ++ toString k ≠ "" := by simp
  have numbers := (String.append_right_inj _).mp ((String.append_left_inj _).mp same)
  by_cases first : m = 0 <;> by_cases second : n = 0
  · rw [first, second]
  · rw [if_pos first, if_neg second] at numbers
    exact absurd numbers.symm (dashed n)
  · rw [if_neg first, if_pos second] at numbers
    exact absurd numbers (dashed m)
  · rw [if_neg first, if_neg second] at numbers
    exact toString_injective m n ((String.append_right_inj _).mp numbers)

theorem isArchiveName_archiveName (stem stamp : String) (n : Nat) :
    isArchiveName stem (archiveName stem stamp n) := by
  simp only [isArchiveName, archiveName, Bool.and_eq_true, List.isPrefixOf_iff_prefix,
    List.isSuffixOf_iff_suffix, String.toList_append]
  constructor
  · exact ⟨stamp.toList ++ (if n = 0 then "" else "-" ++ toString n).toList ++ archiveEnd.toList,
      by simp⟩
  · exact List.suffix_append _ _

theorem freeNumber_spec (taken : Nat → Bool) (fuel n : Nat) :
    n ≤ freeNumber taken fuel n ∧ freeNumber taken fuel n ≤ n + fuel ∧
      (∀ k, n ≤ k → k < freeNumber taken fuel n → taken k) ∧
      (freeNumber taken fuel n < n + fuel → taken (freeNumber taken fuel n) = false) := by
  induction fuel generalizing n with
  | zero =>
      refine ⟨Nat.le_refl n, Nat.le_refl n, fun k low high => ?_, fun less => ?_⟩
      · rw [freeNumber] at high
        omega
      · rw [freeNumber] at less
        omega
  | succ fuel ih =>
      rw [freeNumber]
      by_cases used : taken n
      · rcases ih (n + 1) with ⟨low, high, passed, free⟩
        rw [if_pos used]
        refine ⟨by omega, by omega, fun k first last => ?_, fun less => free (by omega)⟩
        by_cases start : k = n
        · rw [start]
          exact used
        · exact passed k (by omega) last
      · rw [if_neg used]
        refine ⟨Nat.le_refl n, by omega, fun k first last => by omega, fun _ => ?_⟩
        simpa using used

theorem not_all_taken (m : NameMap Node) (names : Nat → String)
    (injective : ∀ i j, names i = names j → i = j) :
    ∃ k, k ≤ m.pairs.length ∧ m.get? (names k) = none := by
  by_contra none
  have taken : ∀ k ∈ List.range (m.pairs.length + 1), names k ∈ m.names := by
    intro k member
    rw [NameMap.mem_names_iff, ← Option.ne_none_iff_isSome]
    intro absent
    exact none ⟨k, by simpa [Nat.lt_succ_iff] using member, absent⟩
  have nodup : ((List.range (m.pairs.length + 1)).map names).Nodup :=
    List.nodup_range.map fun i j same => injective i j same
  have subset : (List.range (m.pairs.length + 1)).map names ⊆ m.names := by
    intro name member
    rcases List.mem_map.mp member with ⟨k, inside, rfl⟩
    exact taken k inside
  have short := (List.subperm_of_subset nodup subset).length_le
  simp only [NameMap.names, List.length_map, List.length_range] at short
  exact Nat.not_succ_le_self _ short

namespace Directory

theorem freeArchiveName_absent (d : Directory) (stem stamp : String) :
    d.nodes.get? (d.freeArchiveName stem stamp) = none := by
  rcases not_all_taken d.nodes (archiveName stem stamp)
    (archiveName_injective stem stamp) with ⟨k, bound, absent⟩
  obtain ⟨-, high, passed, free⟩ :=
    freeNumber_spec (fun n => d.has (archiveName stem stamp n)) d.nodes.pairs.length 0
  simp only [Directory.freeArchiveName]
  generalize freeNumber _ _ 0 = n at high passed free ⊢
  by_cases last : n < d.nodes.pairs.length
  · simpa [Directory.has] using free (by omega)
  · by_cases here : k = n
    · rw [← here]
      exact absent
    · have taken := passed k (Nat.zero_le k) (by omega)
      simp [Directory.has, absent] at taken

/-- The free number is the least one, and not above the number of entries. -/
theorem freeArchiveName_spec (d : Directory) (stem stamp : String) :
    ∃ n ≤ d.nodes.pairs.length, d.freeArchiveName stem stamp = archiveName stem stamp n ∧
      d.nodes.get? (archiveName stem stamp n) = none ∧
      ∀ k < n, d.nodes.get? (archiveName stem stamp k) ≠ none := by
  obtain ⟨-, high, passed, -⟩ :=
    freeNumber_spec (fun n => d.has (archiveName stem stamp n)) d.nodes.pairs.length 0
  have absent := d.freeArchiveName_absent stem stamp
  rw [freeArchiveName] at absent
  refine ⟨_, by omega, rfl, absent, fun k less none => ?_⟩
  have taken := passed k (Nat.zero_le k) less
  rw [has, none] at taken
  cases taken

/-- A new archive's name depends on the names only that archives of this time have. -/
theorem freeArchiveName_congr (d e : Directory) (stem stamp : String)
    (same : ∀ n, d.nodes.get? (archiveName stem stamp n) = e.nodes.get? (archiveName stem stamp n)) :
    d.freeArchiveName stem stamp = e.freeArchiveName stem stamp := by
  obtain ⟨m, -, first, freeM, takenM⟩ := d.freeArchiveName_spec stem stamp
  obtain ⟨n, -, second, freeN, takenN⟩ := e.freeArchiveName_spec stem stamp
  have least : m = n := by
    apply Nat.le_antisymm
    · apply Nat.le_of_not_lt
      intro less
      exact takenM n less ((same n).trans freeN)
    · apply Nat.le_of_not_lt
      intro less
      exact takenN m less ((same m).symm.trans freeM)
  rw [first, second, least]

theorem isArchiveName_freeArchiveName (d : Directory) (stem stamp : String) :
    isArchiveName stem (d.freeArchiveName stem stamp) :=
  isArchiveName_archiveName stem stamp _

end Directory

theorem logName_not_archive : isArchiveName logStem logName = false := by decide

theorem lockName_not_archive : isArchiveName logStem lockName = false := by decide

theorem stagingName_not_archive : isArchiveName logStem stagingName = false := by decide

theorem ne_of_isArchiveName (stem name other : String) (named : isArchiveName stem name)
    (different : isArchiveName stem other = false) : name ≠ other := by
  intro same
  rw [same, different] at named
  cases named

end ProxyCheck
