import DalvikPrepass.Main
import DalvikPrepass.Proofs.ByteLayout
import DalvikPrepass.Proofs.Leb128
import DalvikPrepass.Proofs.HandlerGrammar
import DalvikPrepass.Proofs.CodeItemGrammar
import DalvikPrepass.Proofs.EncodedForm
import DalvikPrepass.Proofs.BuilderRoundTrip
import DalvikPrepass.Proofs.HandlerListAgreement
import DalvikPrepass.Proofs.AnnotationWords
import DalvikPrepass.Proofs.Extents
import DalvikPrepass.Proofs.InstructionChain
import DalvikPrepass.Proofs.PreparedMethod
import DalvikPrepass.Proofs.WidthLocality
import DalvikPrepass.Proofs.ScanComposition
import DalvikPrepass.Proofs.CutCode
import DalvikPrepass.Proofs.FaultFreedom
import DalvikPrepass.Proofs.HandlerOffsets
import DalvikPrepass.Proofs.RejectionReports
import DalvikPrepass.Proofs.RepeatedPasses
import DalvikPrepass.Proofs.SharedGroups
import DalvikPrepass.Proofs.CutHandlerList
import DalvikPrepass.Proofs.CutCodeItem
import DalvikPrepass.Proofs.OpcodeTable
import DalvikPrepass.Proofs.BranchDecoding
import DalvikPrepass.Proofs.ScanVerdict
import DalvikPrepass.Proofs.SpareBits
import DalvikPrepass.Proofs.HandlerStream
import DalvikPrepass.Proofs.FirstDefect
import DalvikPrepass.Proofs.Numerals
import DalvikPrepass.Proofs.ReportLines
import DalvikPrepass.Proofs.FaithfulReport
import DalvikPrepass.Proofs.ShortestForms
import DalvikPrepass.Proofs.ReadValues
import DalvikPrepass.Proofs.MovedCodeItem
import DalvikPrepass.Proofs.DescribedBody
import DalvikPrepass.Proofs.GroupLifeCycle
import DalvikPrepass.Proofs.AnnotationRecords
import DalvikPrepass.Proofs.PayloadArithmetic
import DalvikPrepass.Proofs.BackedCounts
