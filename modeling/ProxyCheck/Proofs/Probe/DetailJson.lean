import ProxyCheck.Probe.DetailJson
import ProxyCheck.Proofs.Json.Record

/-! The circumstances of a probe are read back from their text, and from every other text that says
the same. -/
namespace ProxyCheck

open JsonReader (IsScalar ReadsAs Fits nestingLimit)

def Json.members : Json → NamedPairs Json
  | .object ms => ms
  | _ => []

namespace Detail

def values (d : Detail) : List Json :=
  [.string d.target, Json.optional .string d.proxy, .string d.checkedAt,
    Json.natural d.millis.toNat, Json.optional Json.natural (d.status.map UInt16.toNat),
    Json.optional .string d.errorKind]

def keys : List String :=
  slots.map Slot.key

/-- Members that say what a detail says: its own, in any order, and any others with keys that it does
not have. -/
def Arranges (d : Detail) (ms : NamedPairs Json) : Prop :=
  (ms.filter fun p => keys.contains p.1).Perm d.json.members

theorem ofValues_values (d : Detail) : ofValues d.values = some d := by
  obtain ⟨target, proxy, checkedAt, millis, status, errorKind⟩ := d
  have number : UInt64.ofNat (Int.ofNat millis.toNat).toNat = millis := UInt64.ofNat_toNat
  have code (n : UInt16) : UInt16.ofNat (Int.ofNat n.toNat).toNat = n := UInt16.ofNat_toNat
  cases proxy <;> cases status <;> cases errorKind <;>
    simp [values, ofValues, Json.optional, Json.natural, Json.text?, Json.whole?]

theorem scalar_values (d : Detail) : ∀ j ∈ d.values, IsScalar j := by
  have text (x : Option String) : IsScalar (Json.optional .string x) := by
    cases x with
    | none => exact .null
    | some x => exact .text x
  have number (n : Option UInt16) : IsScalar (Json.optional Json.natural (n.map UInt16.toNat)) := by
    cases n with
    | none => exact .null
    | some n => exact .natural _ (Nat.lt_trans n.toNat_lt (by decide))
  intro j member
  simp only [values, List.mem_cons, List.not_mem_nil, or_false] at member
  rcases member with rfl | rfl | rfl | rfl | rfl | rfl
  · exact .text d.target
  · exact text d.proxy
  · exact .text d.checkedAt
  · exact .natural _ d.millis.toNat_lt
  · exact number d.status
  · exact text d.errorKind

theorem reads_values (d : Detail) (size depth : Nat) :
    ∀ p ∈ slots.zip d.values, ReadsAs size depth p.1.shape p.2 p.2 := by
  intro p member rest ends
  simp only [values, slots, List.zip_cons_cons, List.zip_nil_right, List.mem_cons, List.not_mem_nil,
    or_false] at member
  rcases member with rfl | rfl | rfl | rfl | rfl | rfl
  · exact JsonReader.shaped_text size depth d.target rest
  · exact JsonReader.shaped_optional_text size depth d.proxy rest
  · exact JsonReader.shaped_text size depth d.checkedAt rest
  · have small : d.millis.toNat < UInt64.size := d.millis.toNat_lt
    exact JsonReader.shaped_natural size depth _ _ rest (Nat.le_pred_of_lt small) small ends
  · refine JsonReader.shaped_optional_natural size depth _ _ rest (fun n given => ?_) (by decide) ends
    obtain ⟨status, -, rfl⟩ := Option.map_eq_some_iff.mp given
    exact Nat.le_pred_of_lt status.toNat_lt
  · exact JsonReader.shaped_optional_text size depth d.errorKind rest

theorem keys_members (d : Detail) :
    d.json.members.map Prod.fst =
      ["target_url", "proxy_url", "checked_at", "response_time_ms"] ++
        (if d.status.isSome then ["status_code"] else []) ++
        (if d.errorKind.isSome then ["error_kind"] else []) := by
  obtain ⟨target, proxy, checkedAt, millis, status, errorKind⟩ := d
  cases status <;> cases errorKind <;> rfl

theorem keys_sublist (d : Detail) : (d.json.members.map Prod.fst).Sublist keys := by
  have all : ∀ answered failed : Bool,
      (["target_url", "proxy_url", "checked_at", "response_time_ms"] ++
        (if answered then ["status_code"] else []) ++
        (if failed then ["error_kind"] else [])).Sublist keys := by decide
  rw [keys_members]
  exact all _ _

theorem nodup_keys : keys.Nodup := by decide

theorem nodup_members (d : Detail) : (d.json.members.map Prod.fst).Nodup :=
  nodup_keys.sublist d.keys_sublist

theorem find?_members (d : Detail) :
    (slots.map fun s => (d.json.members.find? s.key).getD .null) = d.values := by
  obtain ⟨target, proxy, checkedAt, millis, status, errorKind⟩ := d
  cases status <;> cases errorKind <;> rfl

theorem mem_keys (key : String) : key ∈ keys ↔ ∃ s ∈ slots, s.key = key :=
  List.mem_map

theorem reads_members (d : Detail) (size depth : Nat) (s : Slot) (j : Json) (known : s ∈ slots)
    (member : (s.key, j) ∈ d.json.members) : ReadsAs size depth s.shape j j := by
  have found := NamedPairs.find?_of_mem s.key j _ d.nodup_members member
  have slotted : (s, j) ∈ slots.zip d.values := by
    rw [← d.find?_members, ← List.map_prod_left_eq_zip, List.mem_map]
    exact ⟨s, known, by rw [found]; rfl⟩
  exact d.reads_values size depth (s, j) slotted

theorem Arranges.nodup (d : Detail) (ms : NamedPairs Json) (arranges : d.Arranges ms) :
    ((ms.filter fun p => keys.contains p.1).map Prod.fst).Nodup :=
  (arranges.map Prod.fst).nodup_iff.mpr d.nodup_members

theorem Arranges.member_iff (d : Detail) (ms : NamedPairs Json) (arranges : d.Arranges ms)
    (p : String × Json) (known : p.1 ∈ keys) : p ∈ ms ↔ p ∈ d.json.members := by
  rw [← arranges.mem_iff, List.mem_filter]
  exact ⟨fun member => ⟨member, by simpa using known⟩, fun both => both.1⟩

theorem Arranges.fits (d : Detail) (ms : NamedPairs Json) (arranges : d.Arranges ms)
    (size depth : Nat) (short : ∀ p ∈ ms, p.2.chars.length ≤ size) :
    Fits size depth slots id ms := by
  constructor
  case once =>
    have distinct := arranges.nodup
    rw [List.Nodup, List.pairwise_map, List.pairwise_filter] at distinct
    refine distinct.imp fun {p q} apart same s inside key => ?_
    have known : p.1 ∈ keys := (mem_keys p.1).mpr ⟨s, inside, key⟩
    exact apart (by simpa using known) (by simpa [← same] using known) same
  case known =>
    intro p member s inside key
    have known : p.1 ∈ keys := (mem_keys p.1).mpr ⟨s, inside, key⟩
    have own := (arranges.member_iff d ms p known).mp member
    refine d.reads_members size depth s p.2 inside ?_
    rw [key]
    exact own
  case other => exact fun p member _ => short p member

theorem Arranges.find? (d : Detail) (ms : NamedPairs Json) (arranges : d.Arranges ms) (s : Slot)
    (known : s ∈ slots) : ms.find? s.key = d.json.members.find? s.key := by
  have member : s.key ∈ keys := (mem_keys s.key).mpr ⟨s, known, rfl⟩
  rw [← NamedPairs.find?_perm s.key _ _ arranges.nodup arranges]
  exact (NamedPairs.find?_filter keys.contains s.key ms (by simpa using member)).symm

theorem required_or_optional : ∀ s ∈ slots,
    s.key ∈ ["target_url", "checked_at", "response_time_ms"] ∨ ∃ shape, s.shape = .optional shape := by
  intro s member
  simp only [slots, List.mem_cons, List.not_mem_nil, or_false] at member
  rcases member with rfl | rfl | rfl | rfl | rfl | rfl
  · exact .inl (by decide)
  · exact .inr ⟨_, rfl⟩
  · exact .inl (by decide)
  · exact .inl (by decide)
  · exact .inr ⟨_, rfl⟩
  · exact .inr ⟨_, rfl⟩

theorem optional_of_find? (d : Detail) (s : Slot) (known : s ∈ slots)
    (missing : d.json.members.find? s.key = none) : ∃ shape, s.shape = .optional shape := by
  rcases required_or_optional s known with required | optional
  · have written : s.key ∈ d.json.members.map Prod.fst := by
      rw [keys_members]
      simp only [List.mem_cons, List.not_mem_nil, or_false] at required
      rcases required with same | same | same <;> simp [same]
    obtain ⟨p, there, key⟩ := List.mem_map.mp written
    exact absurd key ((NamedPairs.find?_eq_none_iff _ _).mp missing p there)
  · exact optional

theorem read_of_record (d : Detail) (j : Json)
    (record : JsonReader.record slots j.chars = .ok (d.values, [])) : read j.text = .ok d := by
  rw [read, JsonReader.whole?, Json.text, String.toList_ofList, record]
  simp only [bind, Except.bind, JsonReader.skipBlanks, List.dropWhile_nil, List.isEmpty_nil, if_true,
    pure, Except.pure, ofValues_values]

theorem read_object (d : Detail) (ms : NamedPairs Json) (arranges : d.Arranges ms) :
    read (Json.object ms).text = .ok d := by
  have short := (JsonReader.length_chars_object ms).2
  have fits := arranges.fits d ms (Json.object ms).chars.length (nestingLimit - 1) fun p member =>
    Nat.le_of_lt (short p member)
  have found : slots.map (fun s => ((ms.find? s.key).map id).getD .null) = d.values := by
    rw [← d.find?_members]
    exact List.map_congr_left fun s known => by rw [Option.map_id_fun, id, arranges.find? d ms s known]
  have record := JsonReader.record_object slots id ms nodup_keys fits fun s known missing =>
    d.optional_of_find? s known ((arranges.find? d ms s known).symm.trans missing)
  rw [found] at record
  exact d.read_of_record _ record

theorem arranges_members (d : Detail) : d.Arranges d.json.members := by
  have own : ∀ p ∈ d.json.members, p.1 ∈ keys := fun p member =>
    d.keys_sublist.subset (List.mem_map_of_mem member)
  rw [Arranges, List.filter_eq_self.mpr fun p member => by simpa using own p member]

theorem read_array (d : Detail) (vs : List Json) (missing : Nat) (few : missing ≤ 2)
    (whole : vs ++ List.replicate missing .null = d.values) : read (Json.array vs).text = .ok d := by
  have six : slots.length = 6 := rfl
  have count : vs.length + missing = 6 := by
    have values : d.values.length = 6 := rfl
    rw [← values, ← whole, List.length_append, List.length_replicate]
  have front : (slots.take vs.length).length = vs.length := by
    rw [List.length_take]
    omega
  have back : (slots.drop vs.length).length = missing := by
    rw [List.length_drop]
    omega
  have zipped : slots.zip d.values = (slots.take vs.length).zip vs ++
      (slots.drop vs.length).zip (List.replicate missing .null) := by
    rw [← whole, ← List.zip_append front, List.take_append_drop]
  have reads (p : Slot × Json) (member : p ∈ (slots.take vs.length).zip vs) :=
    d.reads_values (Json.array vs).chars.length (nestingLimit - 1) p
      (zipped ▸ List.mem_append_left _ member)
  have spare : ∀ s ∈ slots.drop vs.length, s.mayEnd := by
    have last : ∀ s ∈ slots.drop 4, s.mayEnd := by decide
    have later : slots.drop vs.length = (slots.drop 4).drop (vs.length - 4) := by
      rw [List.drop_drop]
      congr 1
      omega
    intro s member
    rw [later] at member
    exact last s (List.mem_of_mem_drop member)
  have record := JsonReader.record_array (slots.take vs.length) (slots.drop vs.length) vs front reads
    spare
  rw [List.take_append_drop, List.map_const', back, whole] at record
  exact d.read_of_record _ record

theorem value_json (d : Detail) :
    (JsonReader.value d.json.text.length nestingLimit).whole? d.json.text =
      .ok (.object d.json.members.sort) := by
  have scalars : ∀ p ∈ d.json.members, IsScalar p.2 := by
    intro p member
    obtain ⟨s, known, key⟩ := (mem_keys p.1).mp (d.keys_sublist.subset (List.mem_map_of_mem member))
    have found := NamedPairs.find?_of_mem p.1 p.2 _ d.nodup_members member
    apply d.scalar_values
    rw [← d.find?_members, List.mem_map]
    exact ⟨s, known, by rw [key, found]; rfl⟩
  have size : d.json.text.length = d.json.chars.length := String.length_ofList
  have few : d.json.members.length ≤ d.json.chars.length :=
    (JsonReader.length_chars_object d.json.members).1
  have read := JsonReader.sortedMembers_members d.json.chars.length
    (JsonReader.value d.json.chars.length 126) d.json.members [] few fun p member rest ends =>
      JsonReader.valueOver_scalar _ _ p.2 (scalars p member) rest ends
  have text : d.json.chars = '\x7B' ::
      (Json.separated (Json.memberChars d.json.members) ++ ['\x7D']) := rfl
  rw [JsonReader.whole?, size, Json.text, String.toList_ofList, nestingLimit, JsonReader.value,
    JsonReader.valueOver.eq_def]
  generalize d.json.chars.length = length at read
  rw [text, JsonReader.skipBlanks_cons _ _ rfl]
  simp only [read, bind, Except.bind]
  rfl

theorem find?_proxy (d : Detail) :
    d.json.members.find? "proxy_url" = some (Json.optional .string d.proxy) := rfl

theorem find?_status (d : Detail) :
    d.json.members.find? "status_code" = d.status.map fun status => Json.natural status.toNat := by
  obtain ⟨target, proxy, checkedAt, millis, status, errorKind⟩ := d
  cases status <;> cases errorKind <;> rfl

theorem find?_errorKind (d : Detail) :
    d.json.members.find? "error_kind" = d.errorKind.map Json.string := by
  obtain ⟨target, proxy, checkedAt, millis, status, errorKind⟩ := d
  cases status <;> cases errorKind <;> rfl

/-- A detail survives its text. The text is an object that always has a proxy, and a status and an
error if the detail has them. An object with the same members in another order and unknown ones among
them, and an array of the values, say the same; whatever text a detail has been read from, the
detail's own text is read as it. -/
theorem read_json (d : Detail) :
    read d.json.text = .ok d ∧
      (∃ ms : NamedPairs Json,
        (JsonReader.value d.json.text.length nestingLimit).whole? d.json.text = .ok (.object ms) ∧
        (ms.find? "proxy_url").isSome ∧
        ((ms.find? "status_code").isSome ↔ d.status.isSome) ∧
        ((ms.find? "error_kind").isSome ↔ d.errorKind.isSome)) ∧
      (∀ ms, d.Arranges ms → read (Json.object ms).text = .ok d) ∧
      (∀ vs missing, missing ≤ 2 → vs ++ List.replicate missing .null = d.values →
        read (Json.array vs).text = .ok d) ∧
      ∀ text, read text = .ok d → read d.json.text = .ok d := by
  have own : read d.json.text = .ok d := d.read_object d.json.members d.arranges_members
  have sorted (key : String) : d.json.members.sort.find? key = d.json.members.find? key :=
    NamedPairs.find?_sort key _ d.nodup_members
  refine ⟨own, ⟨_, d.value_json, ?_, ?_, ?_⟩, d.read_object, d.read_array, fun _ _ => own⟩
  · rw [sorted, find?_proxy]
    rfl
  · rw [sorted, find?_status, Option.isSome_map]
  · rw [sorted, find?_errorKind, Option.isSome_map]

def oddDetail : Detail :=
  { target := "http://a/\"\\\n\u0001\u007F\u00E9\u00FC", proxy := none, checkedAt := "",
    millis := 18446744073709551615, status := some 65535, errorKind := some "\t\r/" }

theorem read_json_turned :
    oddDetail.Arranges (("extra", .array [.object [("", .number (.whole (-1)))]]) ::
        oddDetail.json.members.reverse) ∧
      read (Json.object (("extra", .array [.object [("", .number (.whole (-1)))]]) ::
        oddDetail.json.members.reverse)).text = .ok oddDetail ∧
      read (Json.array oddDetail.values).text = .ok oddDetail ∧
      read oddDetail.json.text = .ok oddDetail := by
  have arranges : oddDetail.Arranges (("extra", .array [.object [("", .number (.whole (-1)))]]) ::
      oddDetail.json.members.reverse) := List.reverse_perm oddDetail.json.members
  obtain ⟨-, -, object, array, again⟩ := read_json oddDetail
  have turned := object _ arranges
  exact ⟨arranges, turned, array _ 0 (Nat.zero_le 2) (List.append_nil _), again _ turned⟩

end Detail

end ProxyCheck
