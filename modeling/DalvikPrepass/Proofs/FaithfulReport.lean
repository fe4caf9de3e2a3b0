import Mathlib
import DalvikPrepass.Proofs.BranchDecoding
import DalvikPrepass.Proofs.PreparedMethod
import DalvikPrepass.Proofs.ReportLines
import DalvikPrepass.Proofs.SpareBits

/-!
# Reports that tell everything

All that a prepared method has can be read off its report.  The widths in the
lines give the instructions and, since these fill the code, its length.  No code
unit but the first of an instruction has a mark, so every mark is in some line,
and the other bits of the annotations are all clear.
-/

namespace DalvikPrepass

namespace Report

open Prepass

/-! ## Annotations from their lines -/

/-- The instructions fill the code, only they have marks, and no other bits are
set. -/
structure Tidy (annotations : Annotations) : Prop where
  tiled : annotations.Tiled
  isStart : ∀ mark address, annotations.has mark address = true →
    annotations.isStart address = true
  spare : ∀ address, annotations.spare address = 0

/-- The lines list all instructions with their widths. -/
theorem map_extent_instructions (code : List CodeUnit) (annotations : Annotations) :
    (instructions code annotations).map (fun line => (line.address, line.width)) =
      annotations.starts := by
  calc (instructions code annotations).map (fun line => (line.address, line.width))
      = annotations.starts.map fun extent => (extent.1, annotations.width extent.1) := by
        rw [instructions, List.map_map]
        rfl
    _ = annotations.starts.map id := by
        apply List.map_congr_left
        rintro ⟨address, width⟩ hmem
        rw [(Annotations.mem_starts.mp hmem).1]
        rfl
    _ = annotations.starts := List.map_id _

theorem width_eq_of_starts_eq {annotations others : Annotations}
    (hstarts : annotations.starts = others.starts) : annotations.width = others.width := by
  funext address
  by_cases hwidth : annotations.width address = 0
  · by_contra hother
    rw [hwidth, eq_comm] at hother
    have hmem := Annotations.mem_starts.mpr ⟨rfl, hother⟩
    rw [← hstarts] at hmem
    exact hother ((Annotations.mem_starts.mp hmem).1.symm.trans hwidth)
  · have hmem := Annotations.mem_starts.mpr ⟨rfl, hwidth⟩
    rw [hstarts] at hmem
    exact (Annotations.mem_starts.mp hmem).1.symm

theorem sum_widths_of_tiled {annotations : Annotations} (htiled : annotations.Tiled) :
    (annotations.starts.map Prod.snd).sum = annotations.size := by
  rw [← htiled.start_add_sum, Nat.zero_add]

/-- Tidy annotations are known by the lines of their report, whatever the code
is that the names in the lines come from. -/
theorem Tidy.eq_of_instructions {annotations others : Annotations} {code otherCode : List CodeUnit}
    (htidy : Tidy annotations) (hothers : Tidy others)
    (hlines : instructions code annotations = instructions otherCode others) :
    annotations = others := by
  have hstarts : annotations.starts = others.starts := by
    rw [← map_extent_instructions code, hlines, map_extent_instructions]
  have hwidth := width_eq_of_starts_eq hstarts
  have hisStart : annotations.isStart = others.isStart := by
    funext address
    rw [Annotations.isStart, Annotations.isStart, hwidth]
  apply Annotations.eq_of_parts
  · rw [← sum_widths_of_tiled htidy.tiled, ← sum_widths_of_tiled hothers.tiled, hstarts]
  · exact hwidth
  · funext mark address
    -- Off the instruction starts there is no line, and no mark either.
    by_cases hstart : annotations.isStart address = true
    · obtain ⟨width, hmem⟩ := Annotations.isStart_iff.mp hstart
      rw [instructions, instructions, ← hstarts, List.map_inj_left] at hlines
      have hline := hlines _ hmem
      cases mark with
      | inTry => exact congrArg Line.inTry hline
      | branchTarget => exact congrArg Line.target hline
    · have hnone := Bool.eq_false_of_not_eq_true (mt (htidy.isStart mark address) hstart)
      rw [hisStart] at hstart
      rw [hnone, Bool.eq_false_of_not_eq_true (mt (hothers.isStart mark address) hstart)]
  · funext address
    rw [htidy.spare, hothers.spare]

/-! ## Prepared methods -/

/-- What a method that passed looks like. -/
structure IsPrepared (lookup : WidthLookup) (code : List CodeUnit) (prepared : Prepared) :
    Prop where
  size : prepared.annotations.size = code.length
  chain : Tiles (IsInstruction lookup code) 0 prepared.annotations.starts code.length
  tidy : Tidy prepared.annotations
  newInstances : prepared.newInstances = newInstancesIn code prepared.annotations.starts

/-- What a method that passed looks like to the report. -/
theorem isPrepared_of_prepare {method : MethodCode} {lookup : WidthLookup} {sink : Sink}
    {record : Record} {prepared : Prepared}
    (hprepare : ((prepare method lookup sink).runFrom record).1 = .ok prepared) :
    IsPrepared lookup method.code prepared := by
  rw [outcome_prepare] at hprepare
  simp only [bind_eq_ok_iff] at hprepare
  obtain ⟨result, hscan, marked, houtcome, hprepared⟩ := hprepare
  obtain rfl := Except.ok.inj hprepared
  obtain ⟨extents, hchain, hrecorded, hcount⟩ := chain_of_scan hscan
  obtain ⟨htiled, hsize⟩ := tiled_of_scan hscan
  obtain ⟨middle, hmiddle, hmarked, htargets, -⟩ := marked_of_triesOutcome htiled houtcome
  have hstarts : marked.starts = extents := by
    rw [hmarked.starts, hmiddle.starts, hrecorded.starts_of_blank hchain]
  have hblank (mark : Mark) (address : Nat) : result.annotations.has mark address = false := by
    rw [hrecorded.has, Annotations.has_blank]
  constructor
  case size => exact hmarked.size.trans (hmiddle.size.trans hsize)
  case chain => rwa [hstarts]
  case newInstances => rwa [hstarts]
  case tidy =>
    constructor
    case tiled => exact hmarked.tiled (hmiddle.tiled htiled)
    case isStart =>
      intro mark address hhas
      rw [hmarked.isStart, hmiddle.isStart]
      cases mark with
      | inTry =>
          rw [hmarked.others .inTry (by decide), hmiddle.has, hblank] at hhas
          exact (hhas.resolve_left Bool.false_ne_true).1
      | branchTarget =>
          rw [hmarked.has, hmiddle.others .branchTarget (by decide), hblank] at hhas
          exact htargets address (hhas.resolve_left Bool.false_ne_true)
    case spare =>
      intro address
      rw [spare_of_triesOutcome houtcome, Annotations.spare_eq_aboveWidth,
        aboveWidth_of_scan hscan, Annotations.aboveWidth_blank, UInt32.zero_and]

/-! ## Names in lines -/

/-- An instruction with a width has a name. -/
theorem mnemonic_ne_unknown {unit : CodeUnit} {units : List CodeUnit}
    (hwidth : dalvikWidth (unit :: units) ≠ 0) : mnemonic unit ≠ "<unknown>" := by
  rcases exists_payload_or_opcode hwidth with ⟨payload, hunit⟩ | ⟨hnone, opcode, hunit⟩
  · rw [mnemonic_of_payload hunit]
    cases payload <;> decide
  · rw [mnemonic_of_opcode hnone hunit]
    exact Opcode.mnemonic_ne_unknown (Opcode.mem_of_ofUnit hunit).1

/-- The name and the opcode agree on which instructions are allocations. -/
theorem mnemonic_eq_newInstance_iff (unit : CodeUnit) :
    mnemonic unit = "new-instance" ↔ unit.toNat % 0x100 = 0x22 := by
  have hvalue : unit.toNat % 0x100 = 0x22 ↔ Opcode.valueOf unit = Opcode.newInstance := by
    rw [← UInt8.toNat_inj]
    rfl
  rw [hvalue]
  cases hpayload : Payload.ofUnit unit with
  | some payload =>
      rw [mnemonic_of_payload hpayload, Payload.signature_of_ofUnit hpayload]
      cases payload <;> decide
  | none =>
      cases hopcode : Opcode.ofUnit unit with
      | some opcode =>
          obtain ⟨hmem, hsame⟩ := Opcode.mem_of_ofUnit hopcode
          rw [mnemonic_of_opcode hpayload hopcode, Opcode.mnemonic_eq_newInstance_iff hmem, hsame]
      | none =>
          rw [mnemonic_of_none hpayload hopcode]
          constructor
          · intro hname
            exact absurd hname (by decide)
          · intro hnew
            rw [Opcode.ofUnit, hnew] at hopcode
            exact absurd hopcode (by decide)

theorem branchColumn_ne_empty_iff (code : List CodeUnit) (address : Nat) :
    branchColumn code address ≠ "" ↔ (Branch.decodeAt code address).isSome = true := by
  rw [branchColumn]
  cases Branch.decodeAt code address with
  | none => simp
  | some branch => simp [branchText]

/-! ## Reports -/

/-- The lines of the report on a method that passed. -/
def reportedLines (method : MethodCode) (prepared : Prepared) : List Line :=
  instructions method.code prepared.annotations

/-- The text behind the header. -/
def body (method : MethodCode) (prepared : Prepared) : String :=
  unlines ((reportedLines method prepared).map Line.text ++ [countLine prepared.newInstances])

/-- What is in the report on a method that passed. -/
structure Reported (method : MethodCode) (prepared : Prepared) : Prop where
  text : render method prepared = header method.method ++ body method prepared
  lines : linesOf (body method prepared) =
    (reportedLines method prepared).map Line.text ++ [countLine prepared.newInstances]
  starts : (reportedLines method prepared).map (fun line => (line.address, line.width)) =
    prepared.annotations.starts
  ascending : (reportedLines method prepared).Pairwise fun left right =>
    left.address < right.address
  known : ∀ line ∈ reportedLines method prepared, line.mnemonic ≠ "<unknown>"
  branch : ∀ line ∈ reportedLines method prepared, line.branch ≠ "" ↔
    ∃ opcode, Opcode.ofUnit (method.code.getD line.address 0) = some opcode ∧
      opcode.format.isBranch = true
  newInstances : prepared.newInstances =
    (reportedLines method prepared).countP fun line => line.mnemonic = "new-instance"

theorem printable_lines (method : MethodCode) (prepared : Prepared) :
    ∀ line ∈ (reportedLines method prepared).map Line.text ++ [countLine prepared.newInstances],
      Printable line := by
  intro text htext
  rcases List.mem_append.mp htext with hline | hcount
  · obtain ⟨line, -, rfl⟩ := List.mem_map.mp hline
    exact line.printable_text
  · rw [List.mem_singleton.mp hcount]
    exact printable_countLine _

/-- The report says of each instruction what the annotations say. -/
theorem reported_of_isPrepared {method : MethodCode} {prepared : Prepared}
    (hprepared : IsPrepared dalvikWidth method.code prepared) : Reported method prepared := by
  have hextents := map_extent_instructions method.code prepared.annotations
  constructor
  case text => exact render_eq hprepared.size
  case lines => exact linesOf_unlines (printable_lines method prepared)
  case starts => exact hextents
  case ascending =>
    have hpairwise := prepared.annotations.starts_pairwise
    rw [← hextents, List.pairwise_map] at hpairwise
    exact hpairwise
  case known =>
    intro line hline
    obtain ⟨⟨address, width⟩, hmem, rfl⟩ := List.mem_map.mp hline
    obtain ⟨-, hpositive, -, hinside, hwidth, -⟩ := hprepared.chain.of_mem hmem
    rw [Branch.drop_eq_cons hinside] at hwidth
    exact mnemonic_ne_unknown (hwidth ▸ hpositive.ne')
  case branch =>
    intro line hline
    obtain ⟨⟨address, width⟩, hmem, rfl⟩ := List.mem_map.mp hline
    exact (branchColumn_ne_empty_iff method.code address).trans
      (Branch.isSome_decodeAt_of_chain hprepared.chain hmem)
  case newInstances =>
    rw [hprepared.newInstances, reportedLines, instructions, List.countP_map, newInstancesIn]
    apply List.countP_congr
    intro extent _
    simp only [Function.comp_apply, decide_eq_true_eq]
    exact (mnemonic_eq_newInstance_iff _).symm

/-- The report on a method that passed tells everything about it: in front of
the count is one line for each instruction, and no other outcome for a method of
this name has the same report. -/
theorem render_faithful {method : MethodCode} {sink : Sink} {record : Record}
    {prepared : Prepared}
    (hprepare : ((prepare method dalvikWidth sink).runFrom record).1 = .ok prepared) :
    Reported method prepared ∧
      ∀ (other : MethodCode) (sink : Sink) (record : Record) (others : Prepared),
        other.method = method.method →
          ((prepare other dalvikWidth sink).runFrom record).1 = .ok others →
            render other others = render method prepared → others = prepared := by
  have hprepared := isPrepared_of_prepare hprepare
  have hreported := reported_of_isPrepared hprepared
  refine ⟨hreported, ?_⟩
  intro other sink record others hname hother hsame
  have hotherPrepared := isPrepared_of_prepare hother
  have hotherReported := reported_of_isPrepared hotherPrepared
  rw [hotherReported.text, hreported.text, hname, String.append_right_inj] at hsame
  -- The names are equal, so the headers are, and the lines behind them can be compared.
  have hlines := congrArg linesOf hsame
  rw [hotherReported.lines, hreported.lines] at hlines
  obtain ⟨hinstructions, hcount⟩ := List.append_inj' hlines rfl
  have hannotations : others.annotations = prepared.annotations :=
    hotherPrepared.tidy.eq_of_instructions hprepared.tidy
      (List.map_injective_iff.mpr Line.text_injective hinstructions)
  have hnewInstances : others.newInstances = prepared.newInstances :=
    countLine_injective (List.cons.inj hcount).1
  rw [Prepared.mk.injEq]
  exact ⟨hannotations, hnewInstances⟩

/-- The allocation without its try range. -/
def bareAllocation : MethodCode :=
  { guardedAllocation with tries := [] }

theorem render_faithful_guardedAllocation :
    ((prepare guardedAllocation dalvikWidth .recorder).runFrom []).1 =
        .ok ⟨⟨#[0x10002, 0, 0x20001]⟩, 1⟩ ∧
      Reported guardedAllocation ⟨⟨#[0x10002, 0, 0x20001]⟩, 1⟩ ∧
      ((prepare bareAllocation dalvikWidth .recorder).runFrom []).1 = .ok ⟨⟨#[2, 0, 1]⟩, 1⟩ ∧
      render bareAllocation ⟨⟨#[2, 0, 1]⟩, 1⟩ ≠
        render guardedAllocation ⟨⟨#[0x10002, 0, 0x20001]⟩, 1⟩ := by
  obtain ⟨hreported, hunique⟩ := render_faithful prepare_guardedAllocation
  have hbare : ((prepare bareAllocation dalvikWidth .recorder).runFrom []).1 =
      .ok ⟨⟨#[2, 0, 1]⟩, 1⟩ := by
    rw [outcome_prepare]
    cbv
  refine ⟨prepare_guardedAllocation, hreported, hbare, ?_⟩
  intro hsame
  exact absurd (hunique bareAllocation _ _ _ rfl hbare hsame) (by decide)

end Report

end DalvikPrepass
