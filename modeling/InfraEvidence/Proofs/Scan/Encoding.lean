/-
  InfraEvidence — how a text is stored.

  * `Text.Lined.encode`: the bytes of a text are made of the bytes of its lines,
    since no other character has the byte of a line feed or carriage return;
  * `Text.decodeLines?_eq`: so reading line by line is reading as a whole;
  * `BlockScanner.scanBytes?_exact`: bytes can be scanned exactly if they are
    valid, and then their blocks are those of the text;
  * `BlockScanner.scan_lineEnds`: the blocks of a text do not depend on how its
    lines end.
-/
import InfraEvidence.Proofs.Text.Lined
import InfraEvidence.Proofs.Text.Utf8
import InfraEvidence.Proofs.Scan.Narrowing
import InfraEvidence.Survey

namespace InfraEvidence

namespace Text

/-! ## Lines of bytes -/

/-- **The bytes of a text are made of the bytes of its lines.** -/
theorem Lined.encode {s : List Char} {ls : List (List Char)} (h : Lined '\n' '\r' s ls) :
    Lined 0x0A 0x0D (Text.encode s) (ls.map Text.encode) := by
  have hfeed : ∀ {l : List Char}, '\n' ∉ l → 0x0A ∉ Text.encode l := fun hlf hmem =>
    hlf (mem_of_mem_encode (by decide) (by decide) hmem)
  induction h with
  | nil => exact .nil
  | last hne hlf => exact .last (encode_ne_nil hne) (hfeed hlf)
  | @feed l s ls hlf hcr _ ih =>
    rw [encode_append, encode_cons, List.map_cons]
    refine .feed (hfeed hlf) (fun hlast => hcr ?_) ih
    exact getLast?_of_getLast?_encode (by decide) (by decide) hlast
  | @crFeed l s ls hlf _ ih =>
    rw [encode_append, encode_cons, encode_cons, List.map_cons]
    exact .crFeed (hfeed hlf) ih

theorem byteLines_encode (s : List Char) : byteLines (encode s) = (lines s).map encode :=
  (lined_lines s).encode.linesOf_eq (by decide)

/-- Lines of text make a text. -/
theorem Lined.exists_encode {bs : List UInt8} {ls : List (List UInt8)} (h : Lined 0x0A 0x0D bs ls)
    (hls : ∀ l ∈ ls, ∃ s, l = Text.encode s) : ∃ s, bs = Text.encode s := by
  induction h with
  | nil => exact ⟨[], rfl⟩
  | last => exact hls _ List.mem_cons_self
  | @feed l bs ls _ _ _ ih =>
    obtain ⟨⟨s, rfl⟩, hrest⟩ := List.forall_mem_cons.1 hls
    obtain ⟨t, rfl⟩ := ih hrest
    exact ⟨s ++ '\n' :: t, by rw [encode_append, encode_cons]; rfl⟩
  | @crFeed l bs ls _ _ ih =>
    obtain ⟨⟨s, rfl⟩, hrest⟩ := List.forall_mem_cons.1 hls
    obtain ⟨t, rfl⟩ := ih hrest
    exact ⟨s ++ '\r' :: '\n' :: t, by rw [encode_append, encode_cons, encode_cons]; rfl⟩

theorem mapM_decode?_eq_some_iff {bss : List (List UInt8)} {ls : List (List Char)} :
    bss.mapM decode? = some ls ↔ bss = ls.map encode := by
  induction bss generalizing ls with
  | nil => cases ls <;> simp
  | cons bs bss ih =>
    rw [List.mapM_cons]
    simp only [Option.bind_eq_bind, Option.bind_eq_some_iff, decode?_eq_some_iff, ih, pure,
      Option.some.injEq]
    constructor
    · rintro ⟨s, rfl, ls, rfl, rfl⟩
      rfl
    · intro h
      obtain ⟨s, ls, rfl, rfl, rfl⟩ := List.map_eq_cons_iff.1 h.symm
      exact ⟨s, rfl, ls, rfl, rfl⟩

/-- **Lines are read one by one as they are read together.** -/
theorem decodeLines?_eq (bs : List UInt8) : decodeLines? bs = (decode? bs).map lines := by
  unfold decodeLines?
  cases hwhole : decode? bs with
  | some s =>
    rw [decode?_eq_some_iff.1 hwhole]
    exact mapM_decode?_eq_some_iff.2 (byteLines_encode s)
  | none =>
    -- lines that can all be read would make a text of the whole
    refine Option.eq_none_iff_forall_ne_some.2 fun ls hls => ?_
    have hlined : Lined 0x0A 0x0D bs (byteLines bs) := (lined_iff (by decide)).2 rfl
    rw [mapM_decode?_eq_some_iff] at hls
    rw [hls] at hlined
    obtain ⟨s, rfl⟩ := hlined.exists_encode fun l hl => by
      obtain ⟨s, -, rfl⟩ := List.mem_map.1 hl
      exact ⟨s, rfl⟩
    rw [decode?_encode] at hwhole
    contradiction

end Text

open Text

namespace BlockScanner

variable {sc : BlockScanner} {file : String}

/-! ## Reading and scanning -/

/-- The blocks of lines that are read and scanned one after the other.  A line
    that is no text ends it all. -/
def readFrom (sc : BlockScanner) (file : String) :
    Nat → State → List (List UInt8) → Except Fault (List Block)
  | _, _, [] => .ok []
  | n, st, bytes :: rest =>
    match decode? bytes with
    | none => .error (.invalidUtf8 file)
    | some line =>
      let (st, done) := sc.step file n line st
      (readFrom sc file (n + 1) st rest).map (done.toList ++ ·)

theorem readFrom_eq (n : Nat) (st : State) (bss : List (List UInt8)) :
    sc.readFrom file n st bss =
      match bss.mapM decode? with
      | some ls => .ok (sc.scanFrom file n st ls)
      | none => .error (.invalidUtf8 file) := by
  induction bss generalizing n st with
  | nil => rfl
  | cons bytes bss ih =>
    rw [readFrom, List.mapM_cons]
    cases decode? bytes with
    | none => rfl
    | some line =>
      simp only [ih]
      cases bss.mapM decode? <;> rfl

theorem scanBytes?_eq (bytes : List UInt8) :
    sc.scanBytes? file bytes =
      match decode? bytes with
      | some s => .ok (sc.scan file (String.ofList s))
      | none => .error (.invalidUtf8 file) := by
  rw [scanBytes?, decodeLines?_eq]
  cases decode? bytes with
  | none => rfl
  | some s => simp only [Option.map_some, scan, String.toList_ofList]

/-- **Bytes can be scanned exactly if they are valid.**  Reading and scanning line
    after line, a scan succeeds if the whole is the bytes of a text, with the
    blocks of this text, and else it fails for its source, whatever blocks came
    before.  So the bytes of a text never fail, and a scan accepts exactly the
    files that can be read as a whole. -/
theorem scanBytes?_exact (sc : BlockScanner) (file : String) (bytes : List UInt8) :
    sc.readFrom file 1 .seeking (byteLines bytes) = sc.scanBytes? file bytes ∧
    ((∃ bs, sc.scanBytes? file bytes = .ok bs) ↔ bytes.toByteArray.IsValidUTF8) ∧
    (sc.scanBytes? file bytes =
        .error (.file file .invalidData "stream did not contain valid UTF-8") ↔
      ¬ bytes.toByteArray.IsValidUTF8) ∧
    (∀ text : String, sc.scanBytes? file (bytesOf text) = .ok (sc.scan file text)) ∧
    ∀ (fs : FileSystem) (path : String), fs.read path = .ok bytes →
      (Survey.readText fs path).map (sc.scan path) = sc.scanBytes? path bytes := by
  refine ⟨?_, ?_, ?_, fun text => ?_, fun fs path hread => ?_⟩
  · rw [readFrom_eq, scanBytes?, decodeLines?]
    rfl
  · rw [scanBytes?_eq, isValidUTF8_iff]
    cases decode? bytes <;> simp
  · rw [scanBytes?_eq, isValidUTF8_iff]
    cases decode? bytes <;> simp [Fault.invalidUtf8, Fault.invalidUtf8Text]
  · simp only [scanBytes?_eq, bytesOf_eq, decode?_encode, String.ofList_toList]
  · simp only [scanBytes?_eq, Survey.readText, hread]
    cases decode? bytes <;> rfl

/-- A bucket before a line feed that stands inside of a character. -/
theorem scanBytes?_exact_torn :
    let block := encode "resource \"aws_s3_bucket\" \"logs\" \x7b acl = 1 \x7d\n".toList
    let torn := block ++ [0x23, 0xC3, 0x0A, 0xA9]
    let fs : FileSystem := ⟨.folder [("main.tf", .file torn)], []⟩
    fs.read "main.tf" = .ok torn ∧
      (((resources []).scanBytes? "main.tf" block).map (·.map (·.name))).toOption = some ["logs"] ∧
      ¬ torn.toByteArray.IsValidUTF8 ∧
      (resources []).scanBytes? "main.tf" torn =
        .error (.file "main.tf" .invalidData "stream did not contain valid UTF-8") ∧
      (Survey.readText fs "main.tf").map ((resources []).scan "main.tf") =
        (resources []).scanBytes? "main.tf" torn := by
  intro block torn fs
  have hfile : ∀ bytes, FileSystem.read ⟨.folder [("main.tf", .file bytes)], []⟩ "main.tf" =
      .ok bytes := fun _ => rfl
  have hread : fs.read "main.tf" = .ok torn := hfile torn
  have hbad : ¬ torn.toByteArray.IsValidUTF8 := by
    have hnone : decode? torn = none := by decide +kernel
    rw [isValidUTF8_iff, hnone]
    exact fun ⟨_, hs⟩ => Option.some_ne_none _ hs.symm
  obtain ⟨-, -, hfault, -, hwhole⟩ := scanBytes?_exact (resources []) "main.tf" torn
  exact ⟨hread, by decide +kernel, hbad, hfault.2 hbad, hwhole fs "main.tf" hread⟩

/-! ## Line ends -/

/-- **Line ends do not matter.**  In a text without carriage returns, line feeds
    may get one before them, and the last line may get a line feed: the blocks
    are the same, and so is their text. -/
theorem scan_lineEnds (sc : BlockScanner) (file : String) {text : String}
    (hcr : '\r' ∉ text.toList) :
    sc.scan file (String.ofList (replaceAll ['\n'] ['\r', '\n'] text.toList)) =
      sc.scan file text ∧
    (text ≠ "" → text.toList.getLast? ≠ some '\n' →
      sc.scan file (text ++ "\n") = sc.scan file text) := by
  refine ⟨?_, fun hne hend => ?_⟩
  · rw [scan, scan, String.toList_ofList, lines_crlf hcr]
  · have hne' : text.toList ≠ [] := fun h => hne (String.toList_eq_nil_iff.1 h)
    rw [scan, scan, String.toList_append]
    exact congrArg _ (lines_concat_lineFeed hcr hne' hend)

/-- A block that closes on the last line, which has no line feed. -/
theorem scan_lineEnds_last :
    let text := "locals \x7b\n  a = 1\n\x7d"
    let sc : BlockScanner := ⟨.locals, []⟩
    '\r' ∉ text.toList ∧ text ≠ "" ∧ text.toList.getLast? ≠ some '\n' ∧
      (sc.scan "main.tf" text).map (·.rawText) = ["locals \x7b\n  a = 1\n\x7d\n"] ∧
      sc.scan "main.tf" "locals \x7b\r\n  a = 1\r\n\x7d" = sc.scan "main.tf" text ∧
      sc.scan "main.tf" (text ++ "\n") = sc.scan "main.tf" text := by
  intro text sc
  have hcr : '\r' ∉ text.toList := by decide
  have hne : text ≠ "" := by decide
  have hend : text.toList.getLast? ≠ some '\n' := by decide
  obtain ⟨hcrlf, hlast⟩ := scan_lineEnds sc "main.tf" hcr
  have hwritten : String.ofList (replaceAll ['\n'] ['\r', '\n'] text.toList) =
      "locals \x7b\r\n  a = 1\r\n\x7d" := by decide
  rw [hwritten] at hcrlf
  exact ⟨hcr, hne, hend, by decide +kernel, hcrlf, hlast hne hend⟩

end BlockScanner

end InfraEvidence
