import Mathlib.Data.List.Basic
import TextParsers.Proofs.Legible

/-!
# What a run of the command line leaves behind

Each input is read on its own. So what a run leaves behind is put together from
what is left behind by each input, and the inputs meet only in the count of
those that were rejected, on which the summary and the exit code depend.

Both streams are text in the end, and a reader who splits them at the line
breaks should find what was put on them line by line. This is so because the
lines are legible: whatever is in an input, it comes into a line only within
quotation marks, or as a name, which is a run of letters.
-/

namespace TextParsers

open Text

/-! ## Log records -/

theorem Level.legible_inColumn (level : Level) : Legible (inColumn 5 level.name) := by
  cases level <;> exact legible_ofList.2 (by decide)

theorem Record.legible_target (r : Record) : Legible r.target := by
  cases r with
  | zeroWidth repetition bytesLeft =>
      have hname : Legible repetition.name := by
        cases repetition <;> exact legible_ofList.2 (by decide)
      exact legible_append.2 ⟨legible_ofList.2 (by decide), hname⟩
  | rejected size e =>
      show Legible "strcomb::parser"
      exact legible_ofList.2 (by decide)
  | parsed name values =>
      show Legible "strcomb"
      exact legible_ofList.2 (by decide)

theorem Record.legible_consoleLine {r : Record} (h : Legible r.message) :
    Legible r.consoleLine := by
  simp only [consoleLine, legible_append]
  refine ⟨⟨⟨⟨⟨?_, r.level.legible_inColumn⟩, ?_⟩, r.legible_target⟩, ?_⟩, h⟩
  all_goals exact legible_ofList.2 (by decide)

namespace CommandLine

/-! ## Lines -/

/-- Standard output as it is printed. -/
def Report.stdout (r : Report) : String := unlines r.output

/-- The error stream as it is printed. -/
def Report.stderr (r : Report) : String := unlines r.diagnosticLines

/-- What stands before each line break of a text. -/
def linesOf (text : String) : List String :=
  (text.toList.splitOn '\n').dropLast.map String.ofList

theorem unlines_append (ls ms : List String) : unlines (ls ++ ms) = unlines ls ++ unlines ms := by
  rw [unlines, List.map_append, String.join_append]
  rfl

/-- Lines that were put one after another can be told apart again. -/
theorem linesOf_unlines {ls : List String} (h : ∀ line ∈ ls, Legible line) :
    linesOf (unlines ls) = ls := by
  have hsplit : (unlines ls).toList.splitOn '\n' = ls.map String.toList ++ [[]] := by
    induction ls with
    | nil => rfl
    | cons line ls ih =>
        rw [List.forall_mem_cons] at h
        have hcons : (unlines (line :: ls)).toList =
            line.toList ++ '\n' :: (unlines ls).toList := by
          simp [unlines]
        rw [hcons, List.splitOn_append_cons_self_of_not_mem h.1.newline_notMem, ih h.2]
        rfl
  rw [linesOf, hsplit, List.dropLast_concat, List.map_map]
  simp

/-! ## One input -/

/-- The error of a reading that was rejected. -/
def error? {α : Type} : Except ParseError α → Option ParseError
  | .ok _ => none
  | .error e => some e

/-- The assignment in an input, if it is accepted. -/
def accepted? (input : String) : Option Assignment :=
  (Assignment.parse (ofString input)).value.toOption

/-- The error in an input, if it is rejected. -/
def rejected? (input : String) : Option ParseError :=
  error? (Assignment.parse (ofString input)).value

/-- The assignments in the inputs that are accepted. -/
def assignments (inputs : List String) : List Assignment := inputs.filterMap accepted?

/-- The inputs that are rejected, each with its error. -/
def rejections (inputs : List String) : List (String × ParseError) :=
  inputs.filterMap fun input => (rejected? input).map fun e => (input, e)

/-- Whether the diagnostic is a log record. -/
def Diagnostic.isLogged : Diagnostic → Bool
  | logged _ => true
  | _ => false

namespace Reading

variable {r : Reading} {filter : Filter}

theorem output_eq : r.output = (r.result.toOption.map Assignment.render).toList := by
  unfold output
  cases r.result with
  | ok a => rfl
  | error e => rfl

theorem isRejected_eq : r.isRejected = (error? r.result).isSome := by
  unfold isRejected
  cases r.result with
  | ok a => rfl
  | error e => rfl

theorem complaints_eq :
    (r.diagnostics filter).filter (fun d => !d.isLogged) =
      ((error? r.result).map (Diagnostic.invalid r.input)).toList := by
  have hlogged : ∀ records : List Record,
      (records.map Diagnostic.logged).filter (fun d => !d.isLogged) = [] := by
    intro records
    rw [List.filter_eq_nil_iff]
    intro d hd
    obtain ⟨record, -, rfl⟩ := List.mem_map.1 hd
    simp [Diagnostic.isLogged]
  unfold diagnostics
  rw [List.filter_append, hlogged, List.nil_append]
  cases r.result with
  | ok a => rfl
  | error e => rfl

theorem legible_diagnostics (hrecords : ∀ record ∈ r.records, Legible record.consoleLine)
    (herror : ∀ e, r.result = .error e → Legible e.message) :
    ∀ d ∈ r.diagnostics filter, Legible d.line := by
  unfold diagnostics
  rw [List.forall_mem_append]
  refine ⟨fun d hd => ?_, ?_⟩
  · obtain ⟨record, hrecord, rfl⟩ := List.mem_map.1 hd
    exact hrecords record (List.mem_of_mem_filter hrecord)
  · intro d hd
    cases h : r.result with
    | ok a =>
        rw [h] at hd
        cases hd
    | error e =>
        rw [h] at hd
        rw [List.mem_singleton.1 hd]
        unfold Diagnostic.line
        simp only [legible_append]
        refine ⟨⟨⟨?_, legible_quote _⟩, ?_⟩, herror e h⟩
        all_goals exact legible_ofList.2 (by decide)

end Reading

section

variable {input : String} {a : Assignment}

theorem accepted?_eq_some_iff :
    accepted? input = some a ↔ (Assignment.parse (ofString input)).value = .ok a := by
  unfold accepted?
  cases (Assignment.parse (ofString input)).value with
  | ok b => simp [Except.toOption]
  | error e => simp [Except.toOption]

theorem result_read (input : String) :
    (read input).result = (Assignment.parse (ofString input)).value := by
  simp only [read]

theorem input_read (input : String) : (read input).input = input := by
  simp only [read]

theorem legible_records_read (input : String) :
    ∀ record ∈ (read input).records, Legible record.consoleLine := by
  have hparsed : ∀ record ∈ (Assignment.parse (ofString input)).records,
      Legible record.consoleLine := by
    refine Parser.notesOnly_assignment.parseComplete fun e he => ?_
    refine Record.legible_consoleLine ?_
    simp only [Record.message, legible_append]
    refine ⟨⟨⟨?_, Decimal.legible_ofNat _⟩, ?_⟩, legible_message_of_parse he⟩
    all_goals exact legible_ofList.2 (by decide)
  unfold read
  rw [List.forall_mem_append]
  refine ⟨hparsed, ?_⟩
  cases h : (Assignment.parse (ofString input)).value with
  | error e => exact List.forall_mem_nil _
  | ok a =>
      intro record hrecord
      rw [List.mem_singleton.1 hrecord]
      refine Record.legible_consoleLine ?_
      simp only [Record.message, legible_append]
      refine ⟨⟨⟨⟨?_, legible_name_of_parse h⟩, ?_⟩, Decimal.legible_ofNat _⟩, ?_⟩
      all_goals exact legible_ofList.2 (by decide)

theorem legible_diagnostics_read (filter : Filter) (input : String) :
    ∀ d ∈ (read input).diagnostics filter, Legible d.line := by
  refine Reading.legible_diagnostics (legible_records_read input) fun e he => ?_
  rw [result_read] at he
  exact legible_message_of_parse he

end

/-! ## All inputs -/

section

variable {filter : Filter} {showcase : Bool} {inputs : List String}

theorem output_readAll :
    (readAll filter showcase inputs).output =
      (if showcase then Showcase.lines else []) ++
        (assignments inputs).map Assignment.render := by
  have hread : ∀ input, (read input).output =
      ((accepted? input).map Assignment.render).toList := by
    intro input
    rw [Reading.output_eq, result_read, accepted?]
  have houtput : (readAll filter showcase inputs).output =
      (if showcase then Showcase.lines else []) ++
        (inputs.map read).flatMap Reading.output := rfl
  rw [houtput, List.flatMap_map]
  simp only [hread]
  rw [← List.filterMap_eq_flatMap_toList, assignments, List.map_filterMap]

theorem countP_isRejected :
    (inputs.map read).countP Reading.isRejected = (rejections inputs).length := by
  have hread : ∀ input, (read input).isRejected =
      ((rejected? input).map fun e => (input, e)).isSome := by
    intro input
    rw [Reading.isRejected_eq, result_read, rejected?, Option.isSome_map]
  rw [List.countP_map, rejections, List.length_filterMap_eq_countP]
  refine List.countP_congr fun input _ => ?_
  rw [Function.comp_apply, hread]

theorem exitCode_readAll :
    (readAll filter showcase inputs).exitCode =
      if (rejections inputs).length = 0 then 0 else 1 := by
  rw [← countP_isRejected]
  rfl

/-- The summary stands at the end, and everything before it comes from a single input. -/
theorem diagnostics_readAll :
    (readAll filter showcase inputs).diagnostics =
      (inputs.map read).flatMap (Reading.diagnostics filter) ++
        if (rejections inputs).length = 0 then []
        else [.summary (rejections inputs).length inputs.length] := by
  rw [← countP_isRejected]
  rfl

theorem complaints_readAll :
    (readAll filter showcase inputs).diagnostics.filter (fun d => !d.isLogged) =
      (rejections inputs).map (fun (input, e) => Diagnostic.invalid input e) ++
        if (rejections inputs).length = 0 then []
        else [.summary (rejections inputs).length inputs.length] := by
  have hread : ∀ input, ((read input).diagnostics filter).filter (fun d => !d.isLogged) =
      ((rejected? input).map (Diagnostic.invalid input)).toList := by
    intro input
    rw [Reading.complaints_eq, result_read, input_read, rejected?]
  have hinvalid : (rejections inputs).map (fun (input, e) => Diagnostic.invalid input e) =
      inputs.filterMap fun input => (rejected? input).map (Diagnostic.invalid input) := by
    rw [rejections, List.map_filterMap]
    simp only [Option.map_map]
    rfl
  rw [diagnostics_readAll, List.filter_append, List.filter_flatMap, List.flatMap_map, hinvalid,
    List.filterMap_eq_flatMap_toList, apply_ite (List.filter _)]
  simp only [hread]
  rfl

theorem summary_notMem_readAll (h : rejections inputs = []) (rejected total : Nat) :
    Diagnostic.summary rejected total ∉ (readAll filter showcase inputs).diagnostics := by
  intro hmem
  have hcomplaint : Diagnostic.summary rejected total ∈
      (readAll filter showcase inputs).diagnostics.filter (fun d => !d.isLogged) :=
    List.mem_filter.2 ⟨hmem, rfl⟩
  rw [complaints_readAll, h] at hcomplaint
  cases hcomplaint

theorem getLast?_diagnosticLines_readAll (h : rejections inputs ≠ []) :
    (readAll filter showcase inputs).diagnosticLines.getLast? =
      some (Diagnostic.summary (rejections inputs).length inputs.length).line := by
  have hlength : ¬ (rejections inputs).length = 0 := mt List.length_eq_zero_iff.1 h
  rw [Report.diagnosticLines, diagnostics_readAll, if_neg hlength, List.map_append,
    List.map_singleton, List.getLast?_concat]

theorem legible_diagnostics_readAll :
    ∀ d ∈ (readAll filter showcase inputs).diagnostics, Legible d.line := by
  rw [diagnostics_readAll, List.forall_mem_append]
  refine ⟨fun d hd => ?_, ?_⟩
  · obtain ⟨reading, hreading, hd⟩ := List.mem_flatMap.1 hd
    obtain ⟨input, -, rfl⟩ := List.mem_map.1 hreading
    exact legible_diagnostics_read filter input d hd
  · split
    · exact List.forall_mem_nil _
    · intro d hd
      rw [List.mem_singleton.1 hd]
      unfold Diagnostic.line
      simp only [legible_append]
      refine ⟨⟨⟨⟨?_, Decimal.legible_ofNat _⟩, ?_⟩, Decimal.legible_ofNat _⟩, ?_⟩
      all_goals exact legible_ofList.2 (by decide)

end

/-! ## The arguments -/

section

variable {arguments inputs : List String} {showcase : Bool}

theorem run_of_read (logSetting : Option String)
    (h : requestOf arguments = .read showcase inputs) :
    ∃ filter, run logSetting arguments = readAll filter showcase inputs := by
  refine ⟨(logSetting.map Filter.ofSetting).getD Filter.errorsOnly, ?_⟩
  rw [run, h]

/-- A run that reads inputs treats each of them on its own. Standard output is the showcase, if
asked for, and the accepted inputs as they are written. The error stream, without the log records,
has one line for each rejected input, and a summary at its end if there is any. All of its lines are
legible, so it splits at its line breaks into just these lines. Only the number of rejected inputs
decides on the exit code. -/
theorem run_reports_each_input (logSetting : Option String)
    (h : requestOf arguments = .read showcase inputs) :
    (run logSetting arguments).stdout =
        (if showcase then unlines Showcase.lines else "") ++
          unlines ((assignments inputs).map Assignment.render) ∧
    ((run logSetting arguments).diagnostics.filter (fun d => !d.isLogged)).map Diagnostic.line =
        (rejections inputs).map (fun (input, e) =>
          "error: invalid assignment " ++ Text.quote input ++ ": " ++ e.message) ++
        (if (rejections inputs).length = 0 then [] else
          ["Error: " ++ Decimal.ofNat (rejections inputs).length ++ " of " ++
            Decimal.ofNat inputs.length ++ " inputs failed to parse"]) ∧
    (∀ line ∈ (run logSetting arguments).diagnosticLines, Legible line) ∧
    linesOf (run logSetting arguments).stderr = (run logSetting arguments).diagnosticLines ∧
    (((run logSetting arguments).exitCode = 0 ∧
        ∀ rejected total, .summary rejected total ∉ (run logSetting arguments).diagnostics) ↔
      rejections inputs = []) ∧
    (rejections inputs ≠ [] → (run logSetting arguments).exitCode = 1 ∧
      (run logSetting arguments).diagnosticLines.getLast? =
        some ("Error: " ++ Decimal.ofNat (rejections inputs).length ++ " of " ++
          Decimal.ofNat inputs.length ++ " inputs failed to parse")) := by
  obtain ⟨filter, hrun⟩ := run_of_read logSetting h
  rw [hrun]
  have hlegible : ∀ line ∈ (readAll filter showcase inputs).diagnosticLines, Legible line := by
    intro line hline
    obtain ⟨d, hd, rfl⟩ := List.mem_map.1 hline
    exact legible_diagnostics_readAll d hd
  refine ⟨?_, ?_, hlegible, linesOf_unlines hlegible, ⟨fun h => ?_, fun h => ⟨?_, ?_⟩⟩,
    fun h => ⟨?_, getLast?_diagnosticLines_readAll h⟩⟩
  · rw [Report.stdout, output_readAll, unlines_append]
    cases showcase with
    | true => rfl
    | false => rfl
  · rw [complaints_readAll, List.map_append, List.map_map, apply_ite (List.map Diagnostic.line)]
    rfl
  · by_contra hne
    have hcode := h.1
    rw [exitCode_readAll, if_neg (mt List.length_eq_zero_iff.1 hne)] at hcode
    cases hcode
  · rw [exitCode_readAll, h]
    rfl
  · exact summary_notMem_readAll h
  · rw [exitCode_readAll, if_neg (mt List.length_eq_zero_iff.1 h)]

/-- An input with a line break in it, after one that is accepted. The error shows the break as it
would be written. -/
theorem run_reports_each_input_of_line_break :
    requestOf ["let a = [007]", "--showcase", "x\ny"] = .read true ["let a = [007]", "x\ny"] ∧
      (run (some "trace") ["let a = [007]", "--showcase", "x\ny"]).stdout =
        unlines Showcase.lines ++ "let a = [7]\n" ∧
      ((run (some "trace") ["let a = [007]", "--showcase", "x\ny"]).diagnostics.filter
          fun d => !d.isLogged).map Diagnostic.line =
        ["error: invalid assignment \"x\\ny\": " ++
            "Expected: \"let\" prefix at byte offset 0, found \"x\\ny\"",
          "Error: 1 of 2 inputs failed to parse"] ∧
      (run (some "trace") ["let a = [007]", "--showcase", "x\ny"]).exitCode = 1 := by
  have hrequest : requestOf ["let a = [007]", "--showcase", "x\ny"] =
      .read true ["let a = [007]", "x\ny"] := by decide +kernel
  have haccepted : assignments ["let a = [007]", "x\ny"] = [⟨"a", [7]⟩] := by decide +kernel
  have hrejected : rejections ["let a = [007]", "x\ny"] =
      [("x\ny", .mismatch "Expected: \"let\" prefix" 0 "\"x\\ny\"")] := by decide +kernel
  obtain ⟨hout, herr, -, -, -, hcode⟩ := run_reports_each_input (some "trace") hrequest
  have hwritten : unlines ([(⟨"a", [7]⟩ : Assignment)].map Assignment.render) =
      "let a = [7]\n" := by decide +kernel
  rw [haccepted, hwritten, if_pos rfl] at hout
  rw [hrejected] at herr hcode
  exact ⟨hrequest, hout, herr.trans (by decide +kernel), (hcode (by simp)).1⟩

end

end CommandLine

end TextParsers
