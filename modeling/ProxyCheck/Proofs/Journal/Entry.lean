import ProxyCheck.Journal.Note
import ProxyCheck.Proofs.Json.Record

/-! An entry of the log is read back from its line, and its line is one line. -/
namespace ProxyCheck

open JsonReader (IsScalar ReadsAs Fits)

namespace LogEntry

def inOrder : Json → Json
  | .object ms => .object (NamedPairs.sort ms)
  | j => j

theorem inOrder_optional_text (text : Option String) :
    inOrder (Json.optional .string text) = Json.optional .string text := by
  cases text <;> rfl

section

variable (e : LogEntry) (fields : NamedPairs Json)

theorem nodup_members : ((e.members fields).map Prod.fst).Nodup := by
  have keys : (e.members fields).map Prod.fst = slots.map Slot.key := rfl
  rw [keys]
  decide

theorem slotted :
    (slots.map fun s => (s, ((e.members fields).find? s.key).getD .null)) =
      slots.zip [.string e.timestamp, .string e.level, .string e.component, .string e.event,
        .string e.message, Json.optional .string e.correlation, .object fields] :=
  rfl

theorem reads_slotted (size depth : Nat) (few : fields.length ≤ size)
    (scalars : ∀ p ∈ fields, IsScalar p.2) :
    ∀ q ∈ slots.map fun s => (s, ((e.members fields).find? s.key).getD .null),
      ReadsAs size (depth + 1) q.1.shape q.2 (inOrder q.2) := by
  intro q member rest _
  rw [slotted] at member
  simp only [slots, List.zip_cons_cons, List.zip_nil_right, List.mem_cons, List.not_mem_nil,
    or_false] at member
  rcases member with rfl | rfl | rfl | rfl | rfl | rfl | rfl
  · exact JsonReader.shaped_text size _ e.timestamp rest
  · exact JsonReader.shaped_text size _ e.level rest
  · exact JsonReader.shaped_text size _ e.component rest
  · exact JsonReader.shaped_text size _ e.event rest
  · exact JsonReader.shaped_text size _ e.message rest
  · rw [inOrder_optional_text]
    exact JsonReader.shaped_optional_text size _ e.correlation rest
  · exact JsonReader.shaped_map size depth fields rest few scalars

theorem fits_members (size depth : Nat) (few : fields.length ≤ size)
    (scalars : ∀ p ∈ fields, IsScalar p.2) :
    Fits size (depth + 1) slots inOrder (e.members fields) := by
  have distinct := e.nodup_members fields
  constructor
  case once =>
    rw [List.Nodup, List.pairwise_map] at distinct
    exact distinct.imp fun apart same => absurd same apart
  case known =>
    intro p member s inside key
    have found := NamedPairs.find?_of_mem p.1 p.2 _ distinct member
    refine e.reads_slotted fields size depth few scalars (s, p.2) (List.mem_map.mpr ⟨s, inside, ?_⟩)
    rw [key, found, Option.getD_some]
  case other =>
    intro p member unknown
    have key : p.1 ∈ slots.map Slot.key := List.mem_map_of_mem member
    obtain ⟨s, inside, same⟩ := List.mem_map.mp key
    exact absurd same (unknown s inside)

theorem ofValues_members (perm : fields.Perm e.fields.pairs) :
    ofValues (slots.map fun s => (((e.members fields).find? s.key).map inOrder).getD .null) =
      some e := by
  have values : (slots.map fun s => (((e.members fields).find? s.key).map inOrder).getD .null) =
      [.string e.timestamp, .string e.level, .string e.component, .string e.event,
        .string e.message, inOrder (Json.optional .string e.correlation), inOrder (.object fields)] :=
    rfl
  have correlation : (Json.optional .string e.correlation).text? = e.correlation := by
    cases e.correlation <;> rfl
  have sorted := NamedPairs.sort_of_perm fields e.fields.pairs e.fields.sorted perm
  rw [values, inOrder_optional_text, inOrder, sorted]
  simp only [ofValues, NameMap.ofPairs_pairs, correlation]

end

/-- An entry whose fields are texts and numbers is read from its text, whatever the order in which the
fields are written. -/
theorem read_members (e : LogEntry) (fields : NamedPairs Json) (perm : fields.Perm e.fields.pairs)
    (scalars : ∀ p ∈ e.fields.pairs, IsScalar p.2) :
    read (Json.object (e.members fields)).text = .ok e := by
  have scalars : ∀ p ∈ fields, IsScalar p.2 := fun p member => scalars p (perm.mem_iff.mp member)
  have count := (JsonReader.length_chars_object fields).1
  have inner := (JsonReader.length_chars_object (e.members fields)).2 ("fields", .object fields)
    (by simp [members])
  have fits := e.fits_members fields _ 125 (Nat.le_trans count (Nat.le_of_lt inner)) scalars
  have present : ∀ s ∈ slots, (e.members fields).find? s.key = none →
      ∃ shape, s.shape = .optional shape := by
    intro s inside missing
    rw [NamedPairs.find?_eq_none_iff] at missing
    have key : s.key ∈ (e.members fields).map Prod.fst := List.mem_map_of_mem inside
    obtain ⟨p, member, same⟩ := List.mem_map.mp key
    exact absurd same (missing p member)
  have record := JsonReader.record_object slots inOrder (e.members fields) (by decide) fits present
  rw [read, JsonReader.whole?, Json.text, String.toList_ofList, record]
  simp only [bind, Except.bind, JsonReader.skipBlanks, List.dropWhile_nil, List.isEmpty_nil, if_true,
    pure, Except.pure, e.ofValues_members fields perm]

theorem read_line (e : LogEntry) (scalars : ∀ p ∈ e.fields.pairs, IsScalar p.2) :
    read e.line = .ok e :=
  e.read_members e.fields.pairs (List.Perm.refl _) scalars

end LogEntry

theorem Note.get?_fields_probeStart (target proxy : String) (timeout : UInt64) (correlation : String)
    (name : String) :
    (Note.probeStart target proxy timeout correlation).fields.get? name =
      if name = "target_url" then some (.string target)
      else if name = "proxy_url" then some (.string (redact proxy))
      else if name = "timeout_ms" then some (Json.natural timeout.toNat)
      else none := by
  rw [Note.fields, NameMap.get?_ofPairs]
  simp only [List.reverse_cons, List.reverse_nil, List.nil_append, List.cons_append,
    NamedPairs.find?, eq_comm]
  grind

theorem Note.get?_fields_probeEnd (outcome : String) (status : Option UInt16)
    (errorKind : Option String) (millis : UInt64) (correlation : String) (name : String) :
    (Note.probeEnd outcome status errorKind millis correlation).fields.get? name =
      if name = "outcome" then some (.string outcome)
      else if name = "duration_ms" then some (Json.natural millis.toNat)
      else if name = "status_code" then status.map fun status => Json.natural status.toNat
      else if name = "error_kind" then errorKind.map Json.string
      else none := by
  rw [Note.fields, NameMap.get?_ofPairs]
  cases status <;> cases errorKind <;>
    simp only [Option.map_none, Option.map_some, Option.toList_none, Option.toList_some,
      List.append_nil, List.cons_append, List.nil_append, List.reverse_cons, List.reverse_nil,
      NamedPairs.find?, eq_comm] <;> grind

open JsonReader in
theorem Note.scalar_fields (n : Note) : ∀ p ∈ n.fields.pairs, IsScalar p.2 := by
  have wide (n : UInt64) : IsScalar (Json.natural n.toNat) := .natural _ n.toNat_lt
  have narrow (n : UInt16) : IsScalar (Json.natural n.toNat) :=
    .natural _ (Nat.lt_trans n.toNat_lt (by decide))
  intro p member
  cases n with
  | debug component event message => cases member
  | error component event message => cases member
  | probeStart target proxy timeout correlation =>
      have given := NameMap.mem_of_mem_ofPairs _ p member
      simp only [List.mem_cons, List.not_mem_nil, or_false] at given
      rcases given with rfl | rfl | rfl
      · exact .text target
      · exact .text (redact proxy)
      · exact wide timeout
  | probeEnd outcome status errorKind millis correlation =>
      have given := NameMap.mem_of_mem_ofPairs _ p member
      simp only [List.mem_append, List.mem_cons, List.not_mem_nil, or_false, Option.mem_toList,
        Option.map_eq_some_iff] at given
      rcases given with ((rfl | rfl) | ⟨status, -, rfl⟩) | ⟨kind, -, rfl⟩
      · exact .text outcome
      · exact wide millis
      · exact narrow status
      · exact .text kind

end ProxyCheck
