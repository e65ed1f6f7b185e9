import EventRules.Text.CharSet
import EventRules.Text.Mapping

/-!
# Case folding

Which characters differ only by case (the simple case folding of Unicode): every character has one representative,
and those with the same representative are variants of each other.
-/

namespace EventRules.Text

/-- Characters with a representative other than themselves, each with it. -/
def foldPairs : List (Nat × Nat) :=
  (shiftRunsOf 0 (unpack packed)).flatMap fun run =>
    (List.range run.count).map fun i =>
      let n := run.first + i * run.step
      (n, ((n : Int) + run.shift).toNat)
where
  packed : String :=
    "1CwB0CvDXB0CYHB0C8BYCCiBDCCHICCRXCCeBBBhHBDCCGBBnQCBB4NBCCCEBBsMBBBCCCBqMCBBCDBBuEBBBkM" ++
    "BBBmMBBBCCBBqMBBBuMCBB6NBBB2NBBBCEBB6NBBBaNCBBcNBDCCGBBkNBBBCCBBkNDBBCCBBkNBBBCCCBiNCCC" ++
    "CEBBmNBBBCEBBCIBBEBBBCCBBEBBBCCBBEBJCCTJCCTBBEBCCCEBB1GBBBfDBUCC8BBB3ICJCCYBBm2VBBBCCBB" ++
    "5KBBBg2VDBBCCBB5MBBBaEBBBeEBFCCvHBB8HbBCCCGBBCJBB8HHBBcCCDBaCEBB0ECCBuDDLB0CLBBdeBBFB0C" ++
    "GBBuBBIB0CYBBdgBHBBBMBBQBBBrBBBBhBEBBzBBBbBCMCCYBBbDBBBvCDBBnDBBBvDCBBCCBBNBBBCDDB3IDQB" ++
    "0FQ0BB0CgCRCCaBxCCmBBB+BHCCPgBCC1D6BB0DfrC6BB06O7BBB06OGBB06OjWgCB0tbCgCGBQg4CBBr4MBBBp" ++
    "4MBBB74MBCB34MCBB54MBBBn3MBBB72MDBBBGbBBvrFdBDBvrF3KbCCCrEBBjDDBBtrOCgBCC8DIBPQGBPQIBPQ" ++
    "IBPQGBPRECPPIBP0BIBPQIBPQIBPQCBPCCBjECBBRCBB90OKEBbFEBBRHBB54OFCBPCCB7GJBB53OFCBPCCBvGC" ++
    "BBNMCBvHCCBrHCBBRaJBBplOEBBtbQBBBb4QHBBoBuBQB-TBBCdwwBjBgpBgBB0D0DBBCCBBdvUBBBbeHBBBduU" ++
    "DDCCGBBn1VBBBpvUBBBt1VBBBr1VCBBCDBBCJCBt3VCiBCCbDCCCHBBCea+FCCKBB3s4CBBB5s4CBRCCkBOCC2F" ++
    "HCCQ-CC7CCCCEBB705CBFCCNBBCCBBfiiCDCCCGKCCUBB7kiCBBBtkiCBBBlkiCBBB1kiCBBB7kiCCBB3hiCBBB" ++
    "jiiCBBB9hiCBBB0qBBICCQBBvCBBB5kiCBBBf35CBCCCEBBdmiCCCCBDFCCLBBBBBB14jCZBBChoUBBBr0BwB0C" ++
    "v6B8BBgCgF4BBgC0GLBeCMPBeCQHBeCICBeCcnBjBB0EgHWBvBgpC0BB0C0dV0BB0CrDZBlB5i+2BB4C"

/-- A set with all variants of its characters. -/
def CharSet.foldCase (s : CharSet) : CharSet :=
  let met := foldPairs.filter fun p => s.containsCode p.1 || s.containsCode p.2
  let targets := CharSet.ofRanges (met.map fun p => (p.2, p.2))
  let sources := foldPairs.filter fun p => targets.containsCode p.2
  CharSet.ofRanges (s.ranges.toList ++ targets.ranges.toList ++ sources.map fun p => (p.1, p.1))

/-- A set with the letters of A to Z in the other case too. -/
def CharSet.foldCaseAscii (s : CharSet) : CharSet :=
  let letters := (List.range 26).filter fun i => s.containsCode (0x41 + i) || s.containsCode (0x61 + i)
  CharSet.ofRanges (s.ranges.toList ++ letters.flatMap fun i => [(0x41 + i, 0x41 + i), (0x61 + i, 0x61 + i)])

end EventRules.Text
