import TextParsers.Proofs.Reports

/-!
# Running the command line on its own output

What the command line prints is what it accepts, and it prints it unchanged the
second time. An accepted input may have had line breaks among its blanks,
leading zeros before its numbers or no blank after a comma. None of that is in
the assignment that was read from it, and that assignment is written in one way
only.

That this way is read again is not true of every assignment. It is true of
those that come out of the parser: their names are letters, and their values
are not negative since a number is read without a sign. So the lines of the
output are inputs that are all accepted, each for the assignment it was written
for.
-/

namespace TextParsers

open Text

/-! ## What comes out of the parser -/

section

variable {gap : List Char → Prop} {ds cs : List Char} {v : Int64} {vs : List Int64} {s : Text}
  {a : Assignment}

theorem Parser.Numeral.nonneg (h : Parser.Numeral ds v) : 0 ≤ v := by
  have hvalue := h.value
  rw [Int64.le_iff_toInt_le, Int64.toInt_zero]
  omega

theorem ListTail.nonneg (h : ListTail gap cs vs) : ∀ v ∈ vs, 0 ≤ v := by
  induction h with
  | nil => exact List.forall_mem_nil _
  | cons _ hnum _ ih => exact List.forall_mem_cons.2 ⟨hnum.nonneg, ih⟩

theorem ListBody.nonneg (h : ListBody gap cs vs) : ∀ v ∈ vs, 0 ≤ v := by
  cases h with
  | empty => exact List.forall_mem_nil _
  | items hnum htail => exact List.forall_mem_cons.2 ⟨hnum.nonneg, htail.nonneg⟩

theorem parse_render_of_parse (h : (Assignment.parse s).value = .ok a) :
    (Assignment.parse (ofString a.render)).value = .ok a := by
  obtain ⟨w₀, w₁, w₂, body, -, -, hne, hname, -, -, hbody, -⟩ :=
    sentence_iff.1 (parse_eq_ok_iff.1 h)
  have hpadded : IsPadded a.name.toList a.name.toList := isPadded_self.2 ⟨hne, hname⟩
  exact parse_eq_ok_iff.2 (sentence_render_iff.2 ⟨rfl, hbody.nonneg, hpadded⟩)

end

namespace CommandLine

/-! ## Plain inputs as arguments -/

section

variable {inputs : List String}

theorem requestFrom_of_plain (h : ∀ input ∈ inputs, isPlainInput input = true) (showcase : Bool)
    (met : Array String) :
    requestFrom showcase met inputs = .read showcase (met.toList ++ inputs) := by
  induction inputs generalizing met with
  | nil => rw [requestFrom, List.append_nil]
  | cons input inputs ih =>
      rw [List.forall_mem_cons] at h
      rw [requestFrom, if_pos h.1, ih h.2, Array.toList_push, List.append_assoc]
      rfl

theorem requestOf_of_plain (h : ∀ input ∈ inputs, isPlainInput input = true) :
    requestOf inputs = .read false inputs :=
  requestFrom_of_plain h false #[]

theorem isPlainInput_render (a : Assignment) : isPlainInput a.render = true := by
  rw [isPlainInput, toList_render]
  rfl

end

/-! ## The second run -/

section

variable {arguments inputs : List String} {as : List Assignment} {a : Assignment}

theorem parse_render_of_mem (h : a ∈ assignments inputs) :
    Legible a.render ∧ (Assignment.parse (ofString a.render)).value = .ok a := by
  obtain ⟨input, -, haccepted⟩ := List.mem_filterMap.1 h
  have hparse := accepted?_eq_some_iff.1 haccepted
  exact ⟨Assignment.legible_render (legible_name_of_parse hparse), parse_render_of_parse hparse⟩

/-- Assignments that can be read from the way they are written are read just so, one from each
line. -/
theorem readAll_render
    (h : ∀ a ∈ as, (Assignment.parse (ofString a.render)).value = .ok a) :
    assignments (as.map Assignment.render) = as ∧ rejections (as.map Assignment.render) = [] := by
  induction as with
  | nil => exact ⟨rfl, rfl⟩
  | cons a as ih =>
      rw [List.forall_mem_cons] at h
      obtain ⟨hassignments, hrejections⟩ := ih h.2
      have haccepted : accepted? a.render = some a := accepted?_eq_some_iff.2 h.1
      have hrejected : rejected? a.render = none := by
        rw [rejected?, h.1]
        rfl
      refine ⟨?_, ?_⟩
      · rw [List.map_cons, assignments, List.filterMap_cons_some haccepted]
        exact congrArg (a :: ·) hassignments
      · rw [List.map_cons, rejections, List.filterMap_cons_none (by rw [hrejected]; rfl)]
        exact hrejections

/-- Without the showcase, standard output has one line for each accepted input and nothing else, and
a second run on these lines accepts all of them and prints the same again, whatever is logged. This
is because what is read from any input is written without a line break and read again as it was. -/
theorem run_on_output (logSetting : Option String)
    (h : requestOf arguments = .read false inputs) :
    (linesOf (run logSetting arguments).stdout).length =
        inputs.countP (fun input => (accepted? input).isSome) ∧
    linesOf (run logSetting arguments).stdout = (assignments inputs).map Assignment.render ∧
    unlines (linesOf (run logSetting arguments).stdout) = (run logSetting arguments).stdout ∧
    (∀ again : Option String,
      (run again (linesOf (run logSetting arguments).stdout)).exitCode = 0 ∧
      (run again (linesOf (run logSetting arguments).stdout)).stdout =
        (run logSetting arguments).stdout) ∧
    ∀ (s : String) (a : Assignment), (Assignment.parse (ofString s)).value = .ok a →
      '\n' ∉ a.render.toList ∧ (Assignment.parse (ofString a.render)).value = .ok a := by
  obtain ⟨filter, hrun⟩ := run_of_read logSetting h
  have hlegible : ∀ line ∈ (assignments inputs).map Assignment.render, Legible line := by
    intro line hline
    obtain ⟨a, ha, rfl⟩ := List.mem_map.1 hline
    exact (parse_render_of_mem ha).1
  have hout : (run logSetting arguments).stdout =
      unlines ((assignments inputs).map Assignment.render) := by
    rw [hrun, Report.stdout, output_readAll]
    rfl
  have hlines : linesOf (run logSetting arguments).stdout =
      (assignments inputs).map Assignment.render := by
    rw [hout, linesOf_unlines hlegible]
  have hplain : requestOf ((assignments inputs).map Assignment.render) =
      .read false ((assignments inputs).map Assignment.render) := by
    refine requestOf_of_plain fun line hline => ?_
    obtain ⟨a, -, rfl⟩ := List.mem_map.1 hline
    exact isPlainInput_render a
  obtain ⟨hsame, hnone⟩ := readAll_render fun a (ha : a ∈ assignments inputs) =>
    (parse_render_of_mem ha).2
  rw [hlines, hout]
  refine ⟨?_, rfl, rfl, fun again => ?_, fun s a hparse => ?_⟩
  · rw [List.length_map, assignments, List.length_filterMap_eq_countP]
  · obtain ⟨filter', hagain⟩ := run_of_read again hplain
    rw [hagain, exitCode_readAll, hnone, Report.stdout, output_readAll, hsame]
    exact ⟨rfl, rfl⟩
  · have hrender := Assignment.legible_render (legible_name_of_parse hparse)
    exact ⟨hrender.newline_notMem, parse_render_of_parse hparse⟩

/-- Blanks of several kinds, a line break among them, and leading zeros. -/
theorem run_on_output_of_line_break :
    requestOf ["let\n x\u2003=[007,\t0]", "let y = [-1]", "--", "let ß = []"] =
        .read false ["let\n x\u2003=[007,\t0]", "let y = [-1]", "let ß = []"] ∧
      linesOf (run none ["let\n x\u2003=[007,\t0]", "let y = [-1]", "--", "let ß = []"]).stdout =
        ["let x = [7, 0]", "let ß = []"] ∧
      (run none ["let x = [7, 0]", "let ß = []"]).exitCode = 0 ∧
      (run none ["let x = [7, 0]", "let ß = []"]).stdout =
        (run none ["let\n x\u2003=[007,\t0]", "let y = [-1]", "--", "let ß = []"]).stdout := by
  have hrequest : requestOf ["let\n x\u2003=[007,\t0]", "let y = [-1]", "--", "let ß = []"] =
      .read false ["let\n x\u2003=[007,\t0]", "let y = [-1]", "let ß = []"] := by decide +kernel
  obtain ⟨-, hlines, -, hagain, -⟩ := run_on_output none hrequest
  have hwritten : (assignments ["let\n x\u2003=[007,\t0]", "let y = [-1]", "let ß = []"]).map
      Assignment.render = ["let x = [7, 0]", "let ß = []"] := by decide +kernel
  rw [hwritten] at hlines
  rw [hlines] at hagain
  exact ⟨hrequest, hlines, hagain none⟩

end

end CommandLine

end TextParsers
