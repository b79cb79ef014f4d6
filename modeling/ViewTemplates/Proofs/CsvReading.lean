import Mathlib.Data.List.Forall2
import ViewTemplates.Output.Encoder
import ViewTemplates.Proofs.Utf8

/-! Reading comma-separated values. The grammar says which texts stand for which records, and no
text stands for two lists of records. What a table is written as stands for its header and its
rows, whatever their texts are. -/
namespace ViewTemplates.Csv

def IsBare (c : Char) : Prop := c ≠ ',' ∧ c ≠ '"' ∧ c ≠ '\n' ∧ c ≠ '\r'

/-- What stands between quotes for a text: a quote is doubled, and commas and line breaks stand for
themselves. -/
inductive Quoted : List Char → List Char → Prop
  | nil : Quoted [] []
  | quote {s text : List Char} : Quoted s text → Quoted ('"' :: '"' :: s) ('"' :: text)
  | other {c : Char} {s text : List Char} : c ≠ '"' → Quoted s text → Quoted (c :: s) (c :: text)

inductive Field : List Char → String → Prop
  | bare {s : List Char} : (∀ c ∈ s, IsBare c) → Field s (String.ofList s)
  | quoted {s text : List Char} : Quoted s text → Field ('"' :: s ++ ['"']) (String.ofList text)

/-- Fields with commas between them, and a line feed at the end. -/
inductive Record : List Char → List String → Prop
  | last {s : List Char} {field : String} : Field s field → Record (s ++ ['\n']) [field]
  | more {s rest : List Char} {field : String} {fields : List String} :
      Field s field → Record rest fields → Record (s ++ ',' :: rest) (field :: fields)

inductive File : List Char → List (List String) → Prop
  | nil : File [] []
  | cons {s rest : List Char} {fields : List String} {records : List (List String)} :
      Record s fields → File rest records → File (s ++ rest) (fields :: records)

/-! ### No text has two readings -/

/-- The closing quote is found, as no quote follows it. -/
theorem Quoted.unique {s t text other front back : List Char} (left : Quoted s text)
    (right : Quoted t other) (frontEnds : front.head? ≠ some '"') (backEnds : back.head? ≠ some '"')
    (same : s ++ '"' :: front = t ++ '"' :: back) : text = other ∧ front = back := by
  induction left generalizing t other with
  | nil =>
    cases right with
    | nil => exact ⟨rfl,(List.cons.inj same).2⟩
    | quote inner =>
      obtain ⟨-,rest⟩ := List.cons.inj same
      exact absurd (by rw [rest]; rfl) frontEnds
    | other differs inner => exact absurd (List.cons.inj same).1.symm differs
  | quote inner ih =>
    cases right with
    | nil =>
      obtain ⟨-,rest⟩ := List.cons.inj same
      exact absurd (by rw [← rest]; rfl) backEnds
    | quote inner' =>
      obtain ⟨-,rest⟩ := List.cons.inj same
      obtain ⟨rfl,ended⟩ := ih inner' (List.cons.inj rest).2
      exact ⟨rfl,ended⟩
    | other differs inner' => exact absurd (List.cons.inj same).1.symm differs
  | other differs inner ih =>
    cases right with
    | nil => exact absurd (List.cons.inj same).1 differs
    | quote inner' => exact absurd (List.cons.inj same).1 differs
    | other differs' inner' =>
      obtain ⟨rfl,rest⟩ := List.cons.inj same
      obtain ⟨rfl,ended⟩ := ih inner' rest
      exact ⟨rfl,ended⟩

theorem eq_of_bare_append {s t front back : List Char} {c d : Char} (left : ∀ c ∈ s, IsBare c)
    (right : ∀ c ∈ t, IsBare c) (leftEnds : ¬IsBare c) (rightEnds : ¬IsBare d)
    (same : s ++ c :: front = t ++ d :: back) : s = t ∧ c = d ∧ front = back := by
  induction s generalizing t with
  | nil =>
    cases t with
    | nil => exact ⟨rfl,List.cons.inj same⟩
    | cons first t =>
      obtain ⟨rfl,-⟩ := List.cons.inj same
      exact absurd (right _ List.mem_cons_self) leftEnds
  | cons first s ih =>
    cases t with
    | nil =>
      obtain ⟨rfl,-⟩ := List.cons.inj same
      exact absurd (left _ List.mem_cons_self) rightEnds
    | cons other t =>
      obtain ⟨rfl,rest⟩ := List.cons.inj same
      obtain ⟨leftFirst,left⟩ := List.forall_mem_cons.mp left
      obtain ⟨rightFirst,right⟩ := List.forall_mem_cons.mp right
      obtain ⟨rfl,ended⟩ := ih left right rest
      exact ⟨rfl,ended⟩

def EndsField (c : Char) : Prop := c = ',' ∨ c = '\n'

theorem EndsField.not_isBare {c : Char} (ends : EndsField c) : ¬IsBare c := by
  rintro ⟨comma,-,lineFeed,-⟩
  rcases ends with rfl | rfl
  · exact comma rfl
  · exact lineFeed rfl

theorem EndsField.ne_quote {c : Char} (ends : EndsField c) : c ≠ '"' := by
  rcases ends with rfl | rfl <;> decide

/-- A bare field does not start like a quoted one. -/
theorem bare_append_ne {s rest front : List Char} {c : Char} (bare : ∀ c ∈ s, IsBare c)
    (ends : EndsField c) : s ++ c :: front ≠ '"' :: rest := by
  intro same
  cases s with
  | nil => exact ends.ne_quote (List.cons.inj same).1
  | cons first s => exact (bare first List.mem_cons_self).2.1 (List.cons.inj same).1

theorem Field.unique {s t front back : List Char} {c d : Char} {field other : String}
    (left : Field s field) (right : Field t other) (leftEnds : EndsField c)
    (rightEnds : EndsField d) (same : s ++ c :: front = t ++ d :: back) :
    field = other ∧ c = d ∧ front = back := by
  cases left with
  | bare bareLeft =>
    cases right with
    | bare bareRight =>
      obtain ⟨rfl,ended⟩ := eq_of_bare_append bareLeft bareRight leftEnds.not_isBare
        rightEnds.not_isBare same
      exact ⟨rfl,ended⟩
    | quoted inner => exact absurd same (bare_append_ne bareLeft leftEnds)
  | quoted innerLeft =>
    cases right with
    | bare bareRight => exact absurd same.symm (bare_append_ne bareRight rightEnds)
    | quoted innerRight =>
      simp only [List.cons_append,List.append_assoc,List.cons.injEq,true_and,List.nil_append]
        at same
      obtain ⟨rfl,ended⟩ := innerLeft.unique innerRight (by simpa using leftEnds.ne_quote)
        (by simpa using rightEnds.ne_quote) same
      exact ⟨rfl,List.cons.inj ended⟩

theorem Record.unique {s t front back : List Char} {fields others : List String}
    (left : Record s fields) (right : Record t others) (same : s ++ front = t ++ back) :
    fields = others ∧ front = back := by
  induction left generalizing t others with
  | last field =>
    cases right with
    | last other =>
      simp only [List.append_assoc,List.singleton_append] at same
      obtain ⟨rfl,-,ended⟩ := field.unique other (.inr rfl) (.inr rfl) same
      exact ⟨rfl,ended⟩
    | more other later =>
      simp only [List.append_assoc,List.cons_append,List.nil_append] at same
      obtain ⟨-,ended,-⟩ := field.unique other (.inr rfl) (.inl rfl) same
      exact absurd ended (by decide)
  | more field later ih =>
    cases right with
    | last other =>
      simp only [List.append_assoc,List.cons_append,List.nil_append] at same
      obtain ⟨-,ended,-⟩ := field.unique other (.inl rfl) (.inr rfl) same
      exact absurd ended (by decide)
    | more other later' =>
      simp only [List.append_assoc,List.cons_append] at same
      obtain ⟨rfl,-,rest⟩ := field.unique other (.inl rfl) (.inl rfl) same
      obtain ⟨rfl,ended⟩ := ih later' rest
      exact ⟨rfl,ended⟩

theorem Record.ne_nil {s : List Char} {fields : List String} (record : Record s fields) :
    s ≠ [] := by
  cases record <;> simp

theorem File.unique {s : List Char} {records others : List (List String)} (left : File s records)
    (right : File s others) : records = others := by
  induction left generalizing others with
  | nil =>
    generalize whole : [] = s at right
    cases right with
    | nil => rfl
    | cons record later => exact absurd (List.append_eq_nil_iff.mp whole.symm).1 record.ne_nil
  | @cons t rest fields records record later ih =>
    generalize whole : t ++ rest = s at right
    cases right with
    | nil => exact absurd (List.append_eq_nil_iff.mp whole).1 record.ne_nil
    | cons other laterOther =>
      obtain ⟨rfl,rfl⟩ := record.unique other whole
      exact congrArg (fields :: ·) (ih laterOther)

/-! ### What is written can be read -/

theorem needsQuotes_eq_false_iff {c : Char} : needsQuotes c = false ↔ IsBare c := by
  simp [needsQuotes,IsBare,and_assoc]

theorem quoted_flatMap (s : List Char) :
    Quoted (s.flatMap fun c => if c = '"' then ['"','"'] else [c]) s := by
  induction s with
  | nil => exact .nil
  | cons c s ih =>
    rw [List.flatMap_cons]
    split
    next same => exact same ▸ .quote ih
    next differs => exact .other differs ih

/-- A field is written with quotes where a character of it is not bare. -/
theorem field_field (s : String) : Field (field s.toList) s := by
  unfold field
  split
  next =>
    have quoted := Field.quoted (quoted_flatMap s.toList)
    rwa [String.ofList_toList] at quoted
  next plain =>
    have each : ∀ c ∈ s.toList, IsBare c := by
      intro c member
      rw [← needsQuotes_eq_false_iff]
      by_contra needed
      exact plain (List.any_eq_true.mpr ⟨c,member,by simpa using needed⟩)
    have bare := Field.bare each
    rwa [String.ofList_toList] at bare

theorem field_eq_nil_iff {s : String} : field s.toList = [] ↔ s = "" := by
  unfold field
  split
  next needed =>
    have : s ≠ "" := by
      rintro rfl
      contradiction
    simp [this]
  next => exact String.toList_eq_nil_iff

def line (fields : List String) : List Char :=
  Text.joined [','] (fields.map fun f => field f.toList)

theorem record_line {fields : List String} (nonempty : fields ≠ []) :
    Record (line fields ++ ['\n']) fields := by
  induction fields with
  | nil => exact absurd rfl nonempty
  | cons first rest ih =>
    cases rest with
    | nil => exact .last (field_field first)
    | cons second rest =>
      have later := Record.more (field_field first) (ih (List.cons_ne_nil _ _))
      simpa [line,Text.joined] using later

/-- A line without characters is that of one empty field. -/
theorem eq_of_line_eq_nil {fields : List String} (nonempty : fields ≠ [])
    (empty : line fields = []) : fields = [""] := by
  match fields with
  | [] => exact absurd rfl nonempty
  | [only] => exact congrArg ([·]) (field_eq_nil_iff.mp empty)
  | first :: second :: rest => simp [line,Text.joined] at empty

/-- A record with fields is read as it was, and is not written as an empty line. -/
theorem record_record {fields : List String} (nonempty : fields ≠ []) :
    Record (record fields) fields ∧ record fields ≠ ['\n'] := by
  have written : record fields = (if (line fields).isEmpty then ['"','"'] else line fields) ++
    ['\n'] := rfl
  rw [written]
  split
  next empty =>
    rw [eq_of_line_eq_nil nonempty (List.isEmpty_iff.mp empty)]
    exact ⟨.last (.quoted .nil),by decide⟩
  next filled =>
    refine ⟨record_line nonempty,fun same => ?_⟩
    exact filled (List.isEmpty_iff.mpr (List.append_left_eq_self.mp same))

theorem file_flatMap_record {records : List (List String)}
    (nonempty : ∀ fields ∈ records, fields ≠ []) : File (records.flatMap record) records := by
  induction records with
  | nil => exact .nil
  | cons fields records ih =>
    obtain ⟨here,later⟩ := List.forall_mem_cons.mp nonempty
    exact .cons (record_record here).1 (ih later)

/-! ### Tables -/

theorem writeRecords_eq_ok {width : Nat} {records : List (List String)}
    (equal : ∀ fields ∈ records, fields.length = width) :
    writeRecords width records = .ok (records.flatMap record) := by
  induction records with
  | nil => rfl
  | cons fields records ih =>
    obtain ⟨here,later⟩ := List.forall_mem_cons.mp equal
    rw [writeRecords,if_pos here,ih later]
    rfl

/-- The rows of a value are as wide as its header. -/
theorem length_of_mem_records {value : Json} {fields : List String}
    (member : fields ∈ (flatten value).records) :
    fields.length = (flatten value).headers.length := by
  rcases List.mem_cons.mp member with rfl | inRows
  · rfl
  · obtain ⟨row,-,rfl⟩ := List.mem_map.mp inRows
    exact List.length_map _

theorem write_flatten (value : Json) :
    (flatten value).write = .ok ((flatten value).records.flatMap record) :=
  writeRecords_eq_ok fun _ member => length_of_mem_records member

/-- Where a value has named cells, its bytes are those of a text that has one reading: the header
and the rows. No line of the text is empty, so it makes no difference whether empty lines are
skipped. -/
theorem encode_reads_back (value : Json) (nonempty : (flatten value).headers ≠ []) :
    ∃ text, EncoderKind.csv.encode (.data value) = .ok (Utf8.encode text) ∧
      Utf8.decode (Utf8.encode text) = .ok text ∧
      (∀ records, File text records ↔
        records = (flatten value).headers :: (flatten value).rows) ∧
      ∃ lines : List (List Char), text = lines.flatten ∧
        List.Forall₂ Record lines (flatten value).records ∧ ∀ line ∈ lines, line ≠ ['\n'] := by
  have filled : ∀ fields ∈ (flatten value).records, fields ≠ [] := by
    rintro fields member rfl
    have width := length_of_mem_records member
    exact nonempty (List.eq_nil_of_length_eq_zero width.symm)
  have file := file_flatMap_record filled
  refine ⟨(flatten value).records.flatMap record,?_,Utf8.decode_encode _,fun records => ?_,?_⟩
  · simp [EncoderKind.encode,EncoderKind.write,write_flatten,Except.map,Except.mapError]
  · constructor
    · intro read
      exact read.unique file
    · rintro rfl
      exact file
  · refine ⟨(flatten value).records.map record,List.flatMap_def,?_,fun line member => ?_⟩
    · refine List.forall₂_map_left_iff.mpr (List.forall₂_same.mpr fun fields member => ?_)
      exact (record_record (filled fields member)).1
    · obtain ⟨fields,inRecords,rfl⟩ := List.mem_map.mp member
      exact (record_record (filled fields inRecords)).2

/-- Elements with a quote in a key and with a comma and a line feed in a cell, and one without
cells. -/
def quoting : Json := .array [.object [("a\"b",.string "x,\ny\"")],.null]

theorem encode_reads_back_quoting :
    (flatten quoting).headers ≠ [] ∧
      ∃ text, EncoderKind.csv.encode (.data quoting) = .ok (Utf8.encode text) ∧
        ∀ records, File text records ↔ records = [["a\"b"],["x,\ny\""],[""]] := by
  have flat : flatten quoting = ⟨["a\"b"],[["x,\ny\""],[""]]⟩ := by decide +kernel
  have nonempty : (flatten quoting).headers ≠ [] := by rw [flat]; exact List.cons_ne_nil _ _
  obtain ⟨text,encoded,-,reads,-⟩ := encode_reads_back quoting nonempty
  exact ⟨nonempty,text,encoded,by simpa only [flat] using reads⟩

end ViewTemplates.Csv
