import LogFollow.Event.Record
import LogFollow.Proofs.Checkpoint.Codec
import LogFollow.Proofs.Event.Timestamp
import LogFollow.Proofs.Json.Record
import LogFollow.Proofs.Lines

/-!
# The output can be read back

Records are written one to a line, and no line break stands inside one, as JSON escapes it. A line is
read back as the record it was written for: a text opens with a quote and bytes with a bracket, so
neither is taken for the other, and a field that is left out keeps its default, which is what it was
left out for.
-/
namespace LogFollow

open Json (Recovers Printable)

/-! ## Parts of a record -/

theorem Timestamp.recovers {t : Timestamp} (h : t.IsMoment) :
    Recovers Timestamp.read (Json.writeString t.render) t where
  opens := Json.opens_writeString _
  reads rest hr := by
    rw [Timestamp.read]
    simp only [bind, Except.bind, (Json.recovers_string _ t.render).reads rest hr, parse_render h]
    rfl

theorem Severity.recovers (s : Severity) : Recovers Severity.read s.write s := by
  apply Json.recovers_choice
  cases s <;> decide

theorem Attributes.eq_empty_of_isEmpty {a : Attributes} (h : a.isEmpty = true) : a = .empty := by
  obtain ⟨entries, increasing⟩ := a
  obtain rfl := List.isEmpty_iff.mp h
  rfl

namespace EventRecord

theorem byte?_unsigned (b : UInt8) : byte? (.number (.unsigned b.toNat)) = some b := by
  rw [byte?, if_pos b.toNat_lt, UInt8.ofNat_toNat]

/-- The bytes of a list of numbers. -/
theorem mapM_byte? (b : Bytes) :
    (b.map fun x => Json.Tree.number (.unsigned x.toNat)).mapM byte? = some b := by
  induction b with
  | nil => rfl
  | cons x b ih =>
    rw [List.map_cons, List.mapM_cons, byte?_unsigned, ih]
    rfl

/-- **A body is read back as it was, a text as a text and bytes as bytes.** -/
theorem recovers_body (body : Body) : Recovers readBody (writeBody body) body := by
  cases body with
  | text s =>
    have htree := Json.recovers_tree_string bodyDepth s
    refine ⟨htree.opens, fun rest hr => ?_⟩
    rw [writeBody, readBody]
    simp only [bind, Except.bind, htree.reads rest hr]
    rfl
  | bytes b =>
    have hnumbers : ∀ x ∈ b, Recovers (Json.Tree.read 125) (Json.writeNat x.toNat)
        (.number (.unsigned x.toNat)) := by
      intro x _
      have hx := x.toNat_lt
      have hword : x.toNat ≤ Json.maxWord := by
        rw [Json.maxWord]
        omega
      exact Json.recovers_tree_number 125 hword
    have htree := Json.recovers_tree_list hnumbers
    refine ⟨htree.opens, fun rest hr => ?_⟩
    rw [writeBody, readBody, bodyDepth]
    simp only [bind, Except.bind, htree.reads rest hr, bodyOf?, mapM_byte?]
    rfl

theorem recovers_attributes (a : Attributes) :
    Recovers readAttributes (writeAttributes a) a := by
  have hvalues : ∀ entry ∈ a.entries, Recovers Json.text (Json.writeString entry.2) entry.2 :=
    fun entry _ => Json.recovers_string "a string" entry.2
  have hmap := Json.recovers_map (fun entry : String × String => (entry.1, Json.writeString entry.2))
    (fun entry => entry.2) hvalues
  refine ⟨hmap.opens, fun rest hr => ?_⟩
  have hread := hmap.reads rest hr
  rw [List.map_id'] at hread
  rw [readAttributes]
  simp only [bind, Except.bind, writeAttributes, hread, Attributes.ofList_entries]
  rfl

/-! ## Records -/

/-- The attributes are read back last; where there are none the field is left out. -/
theorem takes_attributes (r : EventRecord) (seen : List String) (htimestamp : "timestamp" ∈ seen)
    (hbody : "body" ∈ seen) (fresh : "attributes" ∉ seen) :
    shape.Takes seen { r with attributes := .empty }
      (if r.attributes.isEmpty then [] else [("attributes", writeAttributes r.attributes)]) r := by
  have hdone (seen : List String) (htimestamp : "timestamp" ∈ seen) (hbody : "body" ∈ seen) :
      shape.Takes seen r [] r := by
    apply Json.Shape.Takes.done
    simp [shape, Json.Field.needed, Json.Field.optional, hbody, htimestamp]
  split
  · next hempty =>
    rw [← Attributes.eq_empty_of_isEmpty hempty]
    exact hdone seen htimestamp hbody
  · apply Json.Shape.Takes.field rfl fresh
    · exact Json.recovers_optional (recovers_attributes r.attributes) _ _ _
    · exact hdone _ (List.mem_cons_of_mem _ htimestamp) (List.mem_cons_of_mem _ hbody)

/-- The body is read back in front of the attributes. -/
theorem takes_body (r : EventRecord) (seen : List String) (htimestamp : "timestamp" ∈ seen)
    (hbody : "body" ∉ seen) (hattributes : "attributes" ∉ seen) :
    shape.Takes seen { r with body := blank.body, attributes := .empty }
      (("body", writeBody r.body) ::
        if r.attributes.isEmpty then [] else [("attributes", writeAttributes r.attributes)]) r := by
  apply Json.Shape.Takes.field rfl hbody
  · exact Json.recovers_needed (recovers_body r.body) _ _ _
  · apply takes_attributes r
    · exact List.mem_cons_of_mem _ htimestamp
    · exact List.mem_cons_self
    · simpa using hattributes

/-- **A record is read back from its members, whichever of them are left out.** -/
theorem takes_members {r : EventRecord} (h : r.timestamp.IsMoment) :
    shape.Takes [] blank r.members r := by
  simp only [members, List.append_assoc, List.cons_append, List.nil_append]
  apply Json.Shape.Takes.field rfl List.not_mem_nil
  · exact Json.recovers_needed (Timestamp.recovers h) _ _ _
  · cases hseverity : r.severity with
    | none =>
      have hbody := takes_body r ["timestamp"] (by decide) (by decide) (by decide)
      rw [hseverity] at hbody
      exact hbody
    | some severity =>
      apply Json.Shape.Takes.field rfl (by decide)
      · have hread := Json.recovers_orNull severity.recovers (by cases severity <;> decide)
        exact Json.recovers_optional hread _ _ _
      · have hbody := takes_body r ["severity", "timestamp"] (by decide) (by decide) (by decide)
        rw [hseverity] at hbody
        exact hbody

/-- The text of a record is read back as the record. -/
theorem parse_render {r : EventRecord} (h : r.timestamp.IsMoment) : parse r.render = .ok r :=
  Json.readAll_of_recovers (Json.recovers_record (takes_members h))

theorem ofBytes?_render {r : EventRecord} (h : r.timestamp.IsMoment) :
    ofBytes? (Bytes.ofString r.render) = some r := by
  rw [ofBytes?, Text.Utf8.read_ofString]
  simp only [parse_render h]
  rfl

/-! ## Lines -/

theorem printable_writeBody (body : Body) : Printable (writeBody body) := by
  cases body with
  | text s => exact Json.printable_writeString s
  | bytes b =>
    apply Json.printable_writeList
    intro part hpart
    obtain ⟨x, -, rfl⟩ := List.mem_map.mp hpart
    exact Json.printable_writeNat x.toNat

theorem printable_writeAttributes (a : Attributes) : Printable (writeAttributes a) := by
  apply Json.printable_writeObject
  intro member hmember
  obtain ⟨entry, -, rfl⟩ := List.mem_map.mp hmember
  exact Json.printable_writeString entry.2

/-- There are no controls in the text of a record, whatever its body holds. -/
theorem printable_render (r : EventRecord) : Printable r.render.toList := by
  rw [render, String.toList_ofList]
  apply Json.printable_writeObject
  intro member hmember
  simp only [members, List.mem_append, List.mem_singleton] at hmember
  rcases hmember with ((rfl | hseverity) | rfl) | hattributes
  · exact Json.printable_writeString r.timestamp.render
  · cases hr : r.severity with
    | none => simp [hr] at hseverity
    | some severity =>
      rw [hr] at hseverity
      rw [List.mem_singleton.mp hseverity]
      exact Json.printable_writeString severity.name
  · exact printable_writeBody r.body
  · split at hattributes
    · exact absurd hattributes List.not_mem_nil
    · rw [List.mem_singleton.mp hattributes]
      exact printable_writeAttributes r.attributes

theorem newline_notMem_render (r : EventRecord) : Lines.newline ∉ Bytes.ofString r.render := by
  intro hmem
  rw [Bytes.ofString_eq] at hmem
  obtain ⟨c, hc, hb⟩ := List.mem_flatMap.mp hmem
  have hcode := Text.Utf8.toNat_of_mem_utf8EncodeChar hb (by decide)
  have hvisible := printable_render r c hc
  rw [hcode] at hvisible
  exact absurd hvisible (by decide)

/-- Cut at each newline, what is written for records is one line for each, and nothing behind them. -/
theorem cut_print (records : List EventRecord) :
    Lines.cut (print records) = (records.map fun r => Bytes.ofString r.render, []) := by
  induction records with
  | nil => rfl
  | cons r records ih =>
    have hprint : print (r :: records) =
        Bytes.ofString r.render ++ Lines.newline :: print records := by
      rw [print, List.flatMap_cons, line, List.append_assoc]
      rfl
    rw [hprint, Lines.cut_line (newline_notMem_render r), Lines.whole, Lines.tail, ih, List.map_cons]

/-- **What is written for records can be read back.** Their timestamps are moments that there are, and
all else is free. Cut at each newline it is one line for each record, with nothing behind the last
one, and the lines are read as the same records, in the same order. -/
theorem print_reads_back {records : List EventRecord} (h : ∀ r ∈ records, r.timestamp.IsMoment) :
    Lines.whole (print records) = records.map (fun r => Bytes.ofString r.render) ∧
      Lines.tail (print records) = [] ∧
      (Lines.whole (print records)).map ofBytes? = records.map some := by
  have hwhole : Lines.whole (print records) = records.map fun r => Bytes.ofString r.render := by
    rw [Lines.whole, cut_print]
  have htail : Lines.tail (print records) = [] := by
    rw [Lines.tail, cut_print]
  refine ⟨hwhole, htail, ?_⟩
  rw [hwhole, List.map_map]
  exact List.map_congr_left fun r hr => ofBytes?_render (h r hr)

/-- A text with quotes and a line break, written in a leap second, and a body without bytes. -/
theorem print_reads_back_broken_line :
    let records : List EventRecord :=
      [{ timestamp := ⟨⟨2016, 12, 31⟩, 86399, 1500000000⟩, severity := some .fatal,
         body := .text "a \"b\"\nc", attributes := Attributes.empty.insert "file_name" "a.log" },
       { timestamp := ⟨⟨-44, 3, 15⟩, 0, 7⟩, severity := none, body := .bytes [],
         attributes := .empty }]
    (∀ r ∈ records, r.timestamp.IsMoment) ∧
      (Lines.whole (print records)).map ofBytes? = records.map some := by
  intro records
  have hmoments : ∀ r ∈ records, r.timestamp.IsMoment := by
    rw [List.forall_mem_cons, List.forall_mem_singleton]
    constructor
    · decide
    · decide
  exact ⟨hmoments, (print_reads_back hmoments).2.2⟩

end EventRecord

end LogFollow
