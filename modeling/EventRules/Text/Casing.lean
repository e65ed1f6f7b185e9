import EventRules.Text.CharClass
import EventRules.Text.Mapping

/-!
# Case mapping

The full Unicode case mappings of a text. Most characters map to one character; a few have a capital form of
several characters, and a capital sigma at the end of a word has a small form of its own.
-/

namespace EventRules.Text

/-- The capital forms of characters. -/
def upperMapping : Mapping := .ofPacked (
    "1DwBvBkCBBeeBbBXBvBYHBvBHBBiHCYCBgBBBfOCDCBHICBRXCBfBDCBFBBnSBBB6MDCCBFBBBEBBBGBBBDBB2G" ++
    "EBBBBBB6KBBB24jCDBB4IDDCBHBBBFBBBDBBBECCBFBBBEBBBCBBgDGBBBBBBDCBBBBBBDCBBBBBBDCICBPBBtE" ++
    "CJCBTBBBBBBDCBBBEUCBaBJCBZBBBDCBu3VDBBBFFCBJBBu1VBBBo1VBBBs1VBBB3NBBBrMCCBpMDBBjMCBBlMB" ++
    "BBukiCEBBpMBBBmkiCCBBtMBBBemiCBBBgiiCBBB8kiCCBB1NBBB5NBBB8kiCBBBevUBBB2kiCDBB5NCBBqvUBB" ++
    "B9NDBBbNIBBeuUDBBjNCBB6kiCBBBjNEBBkiiCBBBjNBBB9EBCBhNCBBdEGBBlNLBBahiCBBB4hiC7FBB8FcBCC" ++
    "BGBBBEDB4IhBBBbCBDB9CERBvBRBBtBBJBvBJBBvDBCBtDDBBrDBBBhDEBBtCBBBbDBBBPCMCBXBBbFBBBvEBBB" ++
    "OBBB7HCBBvFDBBBDBBBlB0BBvB0BQBvERRCBaBxCBnBHCBNBBzCgBCBgE6BBvCfrCbBB0sFdBDB0sFrXGBP84CB" ++
    "Br6MBBBp6MBBB76MBCB36MCBB56MBBBn5MBBB92MBBB4s4CCBBBfHBB805CEBBceHRBBg35CjDbCCBqEBBlDGgB" ++
    "CBvCIBQQGBQQIBQQIBQQGBQRECQPIBQQCBkECEBcFECB8GCCB0ICCB0HCCBsHkBCBQOBB92OSCBQQCBQFBBO9LB" ++
    "BnB2BQB-UBBBcwwBjB0rBgBBvChBBBBEBBl2VBBBf2VCDCBLBBBDBBBLiBCBbDCCBHBBBN6BBv5O7BBBv5OGBBv" ++
    "5Ok8+XCB0COCB2FHCBQ-CB7CCCBFFCBNBBBFCCBDBB0DDKCB+ICBTCCBFICB9BBBBtwBBvpBzgCBvsbChuUwBvB" ++
    "77B8BBfCgF4BBfCvFLBdCMPBdCQHBdCICBdC5oBjBBvDgFWBvBgqC0BBvB0dV0BBvBrCZBlB7j+2BB3C") (
    "vGCjCjCaDCsVeC7FCaCcY0NDpy8Y1Y0BD5z8Y1YnOCl9BiaBf8GC8ChZBCkC8YBCnCaYBCpCaYBC1CuVmFC5zjY" ++
    "CD5zjY0YCD5zjY1YCD5zjY2waBC8oHpyBC9oHpyBCaoHpyBCboHpyBCcoHpyBCdoHpyBCeoHpyBCfoHpyBC8oHp" ++
    "yBC9oHpyBCaoHpyBCboHpyBCcoHpyBCdoHpyBCeoHpyBCfoHpyBC8pHpyBC9pHpyBCapHpyBCbpHpyBCcpHpyBC" ++
    "dpHpyBCepHpyBCfpHpyBC8pHpyBC9pHpyBCapHpyBCbpHpyBCcpHpyBCdpHpyBCepHpyBCfpHpyBC8rHpyBC9rH" ++
    "pyBCarHpyBCbrHpyBCcrHpyBCdrHpyBCerHpyBCfrHpyBC8rHpyBC9rHpyBCarHpyBCbrHpyBCcrHpyBCdrHpyB" ++
    "CerHpyBCfrHpyDCqtHpyBChypyBC6ypyCChy2wBDhy2wpyFChypyGCauHpyBCnypyBC9ypyCCny2wBDny2wpyFC" ++
    "nypyGDpy8Y0YBDpy8Y1YDCpy2wBDpy8Y2wLD5z8Y0YBD5z8Y1YBC1zjYCC5z2wBD5z8Y2wLCqvHpyBC9zpyBCfy" ++
    "pyCC9z2wBD9z2wpyFC9zpy4omBC6C6CBC6C9CBC6CcCBD6C6C9CBD6C6CcCBCjCkCBCjCkCNC4aB6aBBC4aBl9B" ++
    "BC4aBr9BBCeaB6aBBC4aBt9B")

/-- The small forms of characters. A capital I with a dot keeps its dot as a combining mark. -/
def lowerMapping : Mapping := .ofPacked (
    "1CwB0CvDXB0CYHB0C8BYCCiBDCCHICCRXCCeBBBhHBDCCIBB4NBCCCEBBsMBBBCCCBqMCBBCDBBuEBBBkMBBBmM" ++
    "BBBCCBBqMBBBuMCBB6NBBB2NBBBCEBB6NBBBaNCBBcNBDCCGBBkNBBBCCBBkNDBBCCBBkNBBBCCCBiNCCCCEBBm" ++
    "NBBBCEBBCIBBEBBBCCBBEBBBCCBBEBJCCTJCCTBBEBCCCEBB1GBBBfDBUCC8BBB3ICJCCYBBm2VBBBCCBB5KBBB" ++
    "g2VDBBCCBB5MBBBaEBBBeEBFCCaJCCCGBBCJBB8HHBBcCCDBaCEBB0ECCBuDDRB0CSJB0CcBBBQJMCCyBBnDDBB" ++
    "CCBBNBBBCDDB3IDQB0FQ0BB0CgCRCCaBxCCmBBB+BHCCPgBCC1D6BB0DfrC6BB06O7BBB06OGBB06OjWgCB0tbC" ++
    "gCGBQp4CBBCHbBBvrFdBDBvrF3KbCCCuEBBtrOCgBCC8DIBPQGBPQIBPQIBPQGBPRECPPIBP0BIBPQIBPQIBPQC" ++
    "BPCCBjECBBRMEBbFEBBRMCBPCCB7GOCBPCCBvGCBBNMCBvHCCBrHCBBRaJBBplOEBBtbQBBBb4QHBBoBeBQB0B3" ++
    "BBBCjZwBkBaqBgBB0D0DBBCCBBdvUBBBbeHBBBduUDDCCGBBn1VBBBpvUBBBt1VBBBr1VCBBCDBBCJCBt3VCiBC" ++
    "CbDCCCHBBCea+XCC0COCC2FHCCQ-CC7CCCCEBB705CBFCCNBBCCBBfiiCDCCCGKCCUBB7kiCBBBtkiCBBBlkiCB" ++
    "BB1kiCBBB7kiCCBB3hiCBBBjiiCBBB9hiCBBB0qBBICCQBBvCBBB5kiCBBBf35CBCCCEBBdmiCBICCQBB14jCZB" ++
    "BCcpVwB0Cv6B8BBgCgF4BBgC0GLBeCMPBeCQHBeCICBeCcnBjBB0EgGWB0CgqC0BB0C0dV0BB0C0DZBmB0j+2BB" ++
    "4C") "gJC9D7Y"

/-- The capital form of a character. -/
def upperOf (c : Char) : List Char :=
  if c.toNat < 128 then [c.toUpper] else (upperMapping.image? c).getD [c]

/-- The small form of a character by itself. -/
def lowerOf (c : Char) : List Char :=
  if c.toNat < 128 then [c.toLower] else (lowerMapping.image? c).getD [c]

/-- Whether the nearest character that is not case-ignorable is cased. -/
def nextIsCased (cs : List Char) : Bool :=
  (cs.find? (!isCaseIgnorable ·)).any isCased

/-- The small form of a text, `before` being the characters already passed, last first. A capital sigma becomes
a final sigma where a cased character comes before it and none after it. -/
def lowerFrom (before : List Char) : List Char → List Char
  | [] => []
  | c :: rest =>
    let form :=
      if c.toNat = 0x3A3 then
        [Char.ofNat (if nextIsCased before && !nextIsCased rest then 0x3C2 else 0x3C3)]
      else lowerOf c
    form ++ lowerFrom (c :: before) rest

/-- The text in capitals. -/
def toUpper (s : String) : String :=
  String.ofList (s.toList.flatMap upperOf)

/-- The text in small letters. -/
def toLower (s : String) : String :=
  String.ofList (lowerFrom [] s.toList)

/-- The text with its ASCII letters in capitals and all else kept. -/
def toUpperAscii (s : String) : String :=
  String.ofList (s.toList.map Char.toUpper)

/-- The text with its ASCII letters small and all else kept. -/
def toLowerAscii (s : String) : String :=
  String.ofList (s.toList.map Char.toLower)

end EventRules.Text
